import RtmpClient.Amf0.Read
import RtmpClient.Library.Returns

namespace RtmpClient
namespace Amf0

open Library
open Net

/-!
# Reading ends inside the buffer

Whatever the bytes say, the readers of values without parts return: a negative
code, or a number of consumed bytes that is positive and no larger than the
buffer.  A container hands on strictly fewer bytes than it was given, so that
the bound on the depth is no part of the result.
-/

/-! ## Network order -/

theorem rawioNetdata_returns {width offset : Nat} {data : List UInt8} (inside : offset + width ≤ data.length) :
    (rawioNetdata width data offset).Returns fun _ => True :=
  (Outcome.slice_returns inside).bind fun _ _ => trivial

theorem readInt8_returns {offset : Nat} {data : List UInt8} (inside : offset + 1 ≤ data.length) :
    (readInt8 data offset).Returns fun _ => True :=
  (rawioNetdata_returns inside).bind fun _ _ => trivial

theorem readInt16_returns {offset : Nat} {data : List UInt8} (inside : offset + 2 ≤ data.length) :
    (readInt16 data offset).Returns fun _ => True :=
  (rawioNetdata_returns inside).bind fun _ _ => trivial

theorem readUint32_returns {offset : Nat} {data : List UInt8} (inside : offset + 4 ≤ data.length) :
    (readUint32 data offset).Returns fun _ => True :=
  (rawioNetdata_returns inside).bind fun _ _ => trivial

theorem readInt32_returns {offset : Nat} {data : List UInt8} (inside : offset + 4 ≤ data.length) :
    (readInt32 data offset).Returns fun _ => True :=
  (readUint32_returns inside).bind fun _ _ => trivial

theorem readInt64_returns {offset : Nat} {data : List UInt8} (inside : offset + 8 ≤ data.length) :
    (readInt64 data offset).Returns fun _ => True :=
  (rawioNetdata_returns inside).bind fun _ _ => trivial

/-! ## Values without parts -/

/-- Every reader first checks the length and then its marker. -/
theorem markerCheck_returns {α : Type} {width : Nat} {data : List UInt8} {expected : Int8} {code : Int}
    {body : Outcome α} {post : α -> Prop} (positive : 1 ≤ width) (negative : code < 0)
    (reads : width ≤ data.length -> body.Returns post) :
    (if data.length < width then .error (-1)
      else do
        let marker ← readInt8 data 0
        if marker ≠ expected then .error code else body : Outcome α).Returns post := by
  refine .ite (fun _ => (by decide : (-1 : Int) < 0)) fun long => ?_
  have enough : width ≤ data.length := Nat.le_of_not_lt long
  refine (readInt8_returns (Nat.le_trans positive enough)).bind fun marker _ => ?_
  exact .ite (fun _ => negative) fun _ => reads enough

theorem readUtf8_consumes (held data : List UInt8) : Consumes 2 (rtmpAmf0ReadUtf8 held) data := by
  rw [Consumes, rtmpAmf0ReadUtf8]
  refine .ite (fun _ => (by decide : (-1 : Int) < 0)) fun long => ?_
  have enough : 2 ≤ data.length := Nat.le_of_not_lt long
  refine (readInt16_returns enough).bind fun length _ => ?_
  refine .ite (fun _ => ⟨Nat.le_refl 2, enough⟩) fun positive => ?_
  refine .ite (fun _ => (by decide : (-1 : Int) < 0)) fun roomy => ?_
  have inside : 2 + length.toInt.toNat ≤ data.length := by omega
  exact (Outcome.slice_returns inside).bind fun _ _ => ⟨Nat.le_add_right 2 _, inside⟩

theorem readString_consumes (held data : List UInt8) : Consumes 1 (rtmpAmf0ReadString held) data := by
  rw [Consumes, rtmpAmf0ReadString]
  refine markerCheck_returns (Nat.le_refl 1) (by decide) fun enough => ?_
  refine (readUtf8_consumes held (data.drop 1)).bind fun found bounds => ?_
  have inside : found.1 ≤ data.length - 1 := Nat.le_trans bounds.2 (Nat.le_of_eq List.length_drop)
  have upper : 1 + found.1 ≤ data.length := by omega
  exact ⟨Nat.le_add_right 1 _, upper⟩

theorem readBoolean_consumes (data : List UInt8) : Consumes 1 rtmpAmf0ReadBoolean data := by
  refine markerCheck_returns (by decide) (by decide) fun enough => ?_
  exact (readInt8_returns enough).bind fun _ _ => ⟨Nat.le_add_right 1 1, enough⟩

theorem readNumber_consumes (data : List UInt8) : Consumes 1 rtmpAmf0ReadNumber data := by
  refine markerCheck_returns (by decide) (by decide) fun enough => ?_
  exact (readInt64_returns enough).bind fun _ _ => ⟨Nat.le_add_right 1 8, enough⟩

theorem readMarkerOnly_consumes (expected : Int8) (data : List UInt8) :
    Consumes 1 (readMarkerOnly expected) data :=
  markerCheck_returns (Nat.le_refl 1) (by decide) fun enough => ⟨Nat.le_refl 1, enough⟩

/-! ## Discovery -/

theorem discovery_returns (data : List UInt8) :
    (RtmpAmf0Any.discovery data).Returns fun _ => 0 < data.length := by
  rw [RtmpAmf0Any.discovery]
  refine .ite (fun isEof => ?_) fun _ => ?_
  · cases data with
    | nil => cases isEof
    | cons first rest => exact Nat.succ_pos rest.length
  · refine .ite (fun _ => (by decide : (-1 : Int) < 0)) fun nonempty => ?_
    have first : 0 < data.length := Nat.pos_of_ne_zero fun none => nonempty (by omega)
    refine (Outcome.read_returns first).bind fun marker _ => ?_
    -- the nine markers in the order of the source
    iterate 9 refine .ite (fun _ => first) fun _ => ?_
    exact (by decide : (-2 : Int) < 0)

/-! ## The depth -/

variable {readAny readAny' : Reader UInt8 RtmpAmf0Any} {data : List UInt8}

theorem length_drop_lt {offset : Nat} (started : 1 ≤ offset) (inside : offset < data.length) :
    (data.drop offset).length < data.length := by
  rw [List.length_drop]
  omega

/-- Two readers that a container cannot tell apart. -/
def AgreeShorter (readAny readAny' : Reader UInt8 RtmpAmf0Any) (data : List UInt8) : Prop :=
  forall shorter : List UInt8, shorter.length < data.length -> readAny shorter = readAny' shorter

theorem AgreeShorter.propertyValue (agree : AgreeShorter readAny readAny' data) :
    AgreeShorter (readPropertyValue readAny) (readPropertyValue readAny') data := by
  intro shorter short
  rw [readPropertyValue, readPropertyValue, agree shorter short]

theorem readProperty_congr (agree : AgreeShorter readAny readAny' data) :
    readProperty readAny data = readProperty readAny' data := by
  apply Outcome.bind_congr
  rintro ⟨width, name⟩ found
  have bounds := Outcome.Returns.of_ok (readUtf8_consumes [] data) found
  have atLeast : 2 ≤ width := bounds.1
  have atMost : width ≤ data.length := bounds.2
  have same : readAny (data.drop width) = readAny' (data.drop width) := by
    apply agree
    rw [List.length_drop]
    omega
  simp only [same]

theorem readProperties_congr (agree : AgreeShorter readAny readAny' data) {rounds offset : Nat}
    {properties : UnSortedHashtable RtmpAmf0Any} (started : 1 ≤ offset) :
    readProperties readAny data rounds offset properties = readProperties readAny' data rounds offset properties := by
  induction rounds generalizing offset properties with
  | zero => rfl
  | succ rounds inductionHypothesis =>
      rw [readProperties, readProperties]
      by_cases more : offset < data.length
      · have shorter : AgreeShorter readAny readAny' (data.drop offset) := fun rest short =>
          agree rest (Nat.lt_trans short (length_drop_lt started more))
        rw [if_pos more, if_pos more, readProperty_congr shorter]
        congr 1
        apply Outcome.bind_congr
        rintro ⟨ret, property⟩ _
        exact inductionHypothesis (Nat.le_trans started (Nat.le_add_right offset ret))
      · rw [if_neg more, if_neg more]

theorem readElements_congr (agree : AgreeShorter readAny readAny' data) {remaining offset : Nat}
    {properties : List RtmpAmf0Any} (started : 1 ≤ offset) :
    readElements readAny data remaining offset properties = readElements readAny' data remaining offset properties := by
  induction remaining generalizing offset properties with
  | zero => rfl
  | succ remaining inductionHypothesis =>
      rw [readElements, readElements]
      by_cases more : offset < data.length
      · rw [if_pos more, if_pos more, agree _ (length_drop_lt started more)]
        apply Outcome.bind_congr
        rintro ⟨ret, elem⟩ _
        exact inductionHypothesis (Nat.le_trans started (Nat.le_add_right offset ret))
      · rw [if_neg more, if_neg more]

theorem read_congr (agree : AgreeShorter readAny readAny' data) (value : RtmpAmf0Any) :
    value.read readAny data = value.read readAny' data := by
  cases value with
  | object properties =>
      simp only [RtmpAmf0Any.read, RtmpAmf0Object.read, readProperties_congr agree.propertyValue (Nat.le_refl 1)]
  | ecmaArray _ properties =>
      simp only [RtmpAmf0Any.read, RtmpAmf0EcmaArray.read, readProperties_congr agree (by decide : 1 ≤ 5)]
  | strictArray _ properties =>
      simp only [RtmpAmf0Any.read, RtmpAmf0StrictArray.read, readElements_congr agree (by decide : 1 ≤ 5)]
  | _ => rfl

theorem readAnyWithin_eq {depth depth' : Nat} : forall {data : List UInt8}, data.length < depth ->
    data.length < depth' -> readAnyWithin depth data = readAnyWithin depth' data := by
  induction depth generalizing depth' with
  | zero =>
      intro data within
      exact absurd within (Nat.not_lt_zero _)
  | succ depth inductionHypothesis =>
      intro data within within'
      cases depth' with
      | zero => exact absurd within' (Nat.not_lt_zero _)
      | succ depth' =>
          have agree : AgreeShorter (readAnyWithin depth) (readAnyWithin depth') data := fun shorter short =>
            inductionHypothesis (Nat.lt_of_lt_of_le short (Nat.le_of_lt_succ within))
              (Nat.lt_of_lt_of_le short (Nat.le_of_lt_succ within'))
          simp only [readAnyWithin, read_congr agree]

/-- `rtmp_amf0_read_any` in terms of itself, as the source has it. -/
theorem rtmpAmf0ReadAny_eq (data : List UInt8) :
    rtmpAmf0ReadAny data = (do
      let value ← (RtmpAmf0Any.discovery data).errorAs (-1)
      (value.read rtmpAmf0ReadAny data).errorAs (-1)) := by
  have agree : AgreeShorter (readAnyWithin data.length) rtmpAmf0ReadAny data := fun shorter short =>
    readAnyWithin_eq short (Nat.lt_succ_self shorter.length)
  simp only [← read_congr agree]
  rfl

end Amf0
end RtmpClient
