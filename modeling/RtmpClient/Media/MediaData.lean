import RtmpClient.Library.AnnexB

namespace RtmpClient
namespace Media

open Library

/-!
# Media packets (`av_codec.cc`)

What the codecs put into the queue of the publish client.  A block of memory
with its length is a list.  A read past the end of the bytes that a function is
given, and a block of negative size, is a fault.
-/

/-! ## The data -/

/-- `AudioMediaPacketData`. -/
structure AudioMediaPacketData where
  data : List UInt8
  pts : Int64
  dts : Int64
  deriving DecidableEq, Repr

/-- `VideoMediaPacketData`. -/
structure VideoMediaPacketData where
  data : List UInt8
  pts : Int64
  dts : Int64
  keyframe : Bool
  sps : List UInt8
  pps : List UInt8
  deriving DecidableEq, Repr

/-- `MediaData` with the subclasses that are queued. -/
inductive MediaData where
  | audio (data : AudioMediaPacketData)
  | video (data : VideoMediaPacketData)
  deriving DecidableEq, Repr

/-- `MediaPacketShareData::MediaPacketData`. -/
structure MediaPacketData where
  media : MediaData
  type : Int
  shareCnt : Int
  deriving DecidableEq, Repr

/-- `MediaPacketShareData::create`. -/
def MediaPacketData.create (media : MediaData) (type : Int) : MediaPacketData where
  media := media
  type := type
  shareCnt := 1

namespace VideoMediaPacketData

/-- The constructor, and `copyData`. -/
def new (data : List UInt8) (pts dts : Int64) : VideoMediaPacketData where
  data := data
  pts := pts
  dts := dts
  keyframe := false
  sps := []
  pps := []

end VideoMediaPacketData

/-! ## Start codes -/

/-- `00 00 00 01`. -/
def longCodeAt (data : List UInt8) (i : Nat) : Outcome Bool :=
  .andAlso (.cellIs data i 0x00) <| .andAlso (.cellIs data (i + 1) 0x00) <|
    .andAlso (.cellIs data (i + 2) 0x00) (.cellIs data (i + 3) 0x01)

/-- `00 00 01`. -/
def shortCodeAt (data : List UInt8) (i : Nat) : Outcome Bool :=
  .andAlso (.cellIs data i 0x00) <| .andAlso (.cellIs data (i + 1) 0x00) (.cellIs data (i + 2) 0x01)

/-- Inside a unit neither code is found, and the tests end before it does. -/
theorem codeAt_inside {cells : List UInt8} (legal : LegalUnit cells) (before rest : List UInt8) :
    shortCodeAt (before ++ (cells ++ rest)) before.length = .ok false ∧
      longCodeAt (before ++ (cells ++ rest)) before.length = .ok false := by
  rcases legal.front with ⟨first, behind, rfl, one⟩ | ⟨second, behind, rfl, two⟩ | ⟨third, behind, rfl, notZero, notOne⟩
  · rw [shortCodeAt, longCodeAt, List.cons_append, Outcome.cellIs_here, decide_eq_false one]
    exact ⟨rfl, rfl⟩
  · rw [shortCodeAt, longCodeAt, List.cons_append, List.cons_append, Outcome.cellIs_here, Outcome.cellIs_next,
      decide_eq_false two]
    exact ⟨rfl, rfl⟩
  · rw [shortCodeAt, longCodeAt, List.cons_append, List.cons_append, List.cons_append, Outcome.cellIs_here,
      Outcome.cellIs_next, Outcome.cellIs_third, Outcome.cellIs_third, decide_eq_false notZero, decide_eq_false notOne]
    exact ⟨rfl, rfl⟩

theorem codeAt_short (before rest : List UInt8) :
    shortCodeAt (before ++ (StartCode.short.bytes ++ rest)) before.length = .ok true ∧
      longCodeAt (before ++ (StartCode.short.bytes ++ rest)) before.length = .ok false := by
  rw [shortCodeAt, longCodeAt, StartCode.bytes, List.cons_append, List.cons_append, List.cons_append, List.nil_append,
    Outcome.cellIs_here, Outcome.cellIs_next, Outcome.cellIs_third, Outcome.cellIs_third]
  exact ⟨rfl, rfl⟩

theorem codeAt_long (before rest : List UInt8) :
    shortCodeAt (before ++ (StartCode.long.bytes ++ rest)) before.length = .ok false ∧
      longCodeAt (before ++ (StartCode.long.bytes ++ rest)) before.length = .ok true := by
  have last := Outcome.cellIs_behind before (StartCode.long.bytes ++ rest) 3 0x01
  rw [shortCodeAt, longCodeAt, last, StartCode.bytes, List.cons_append, List.cons_append, List.cons_append,
    Outcome.cellIs_here, Outcome.cellIs_next, Outcome.cellIs_third, Outcome.cellIs_third]
  exact ⟨rfl, rfl⟩

/-! ## The configuration of a key frame -/

namespace VideoMediaPacketData

/-- The loop of `copySpspps`: the place of the first code behind the first four
bytes, or the end. -/
def findPps (data : List UInt8) : (rounds : Nat) -> (i : Nat) -> Outcome Nat
  | 0, i => if i < data.length then .fault else .ok i
  | rounds + 1, i =>
      if i < data.length then do
        let found ← longCodeAt data i
        if found then .ok i else findPps data rounds (i + 1)
      else .ok i

/-- `copySpspps`.  Without a second code the size of the block for the PPS is
negative. -/
def copySpspps (packet : VideoMediaPacketData) (data : List UInt8) : Outcome VideoMediaPacketData := do
  let i ← findPps data data.length 4
  let sps ← Outcome.slice data 4 (i - 4)
  if data.length < i + 4 then .fault
  else do
    let pps ← Outcome.slice data (i + 4) (data.length - i - 4)
    return { packet with sps, pps }

/-- One round where no code begins. -/
theorem findPps_next {before rest : List UInt8} {cell : UInt8} (rounds : Nat)
    (nothing : longCodeAt (before ++ cell :: rest) before.length = .ok false) :
    findPps (before ++ cell :: rest) (rounds + 1) before.length =
      findPps (before ++ cell :: rest) rounds (before.length + 1) := by
  have inside : before.length < (before ++ cell :: rest).length := by
    rw [List.length_append, List.length_cons]
    omega
  rw [findPps, if_pos inside, nothing]
  rfl

/-- The loop goes past a unit. -/
theorem findPps_inside {data cells before rest : List UInt8} (legal : LegalUnit cells)
    (split : data = before ++ (cells ++ rest)) (rounds : Nat) :
    findPps data (cells.length + rounds) before.length = findPps data rounds (before.length + cells.length) := by
  have past := @LegalUnit.past cells rest _ data fun rounds i _ => findPps data rounds i
  refine past ?_ legal split rounds []
  intro before cell cells rest split legal rounds _
  rw [split]
  exact findPps_next rounds (codeAt_inside legal before rest).2

/-- The loop stops at a code of four bytes. -/
theorem findPps_long (before rest : List UInt8) (rounds : Nat) :
    findPps (before ++ (StartCode.long.bytes ++ rest)) (rounds + 1) before.length = .ok before.length := by
  have inside : before.length < (before ++ (StartCode.long.bytes ++ rest)).length := by
    rw [List.length_append, List.length_append, StartCode.bytes, List.length_cons]
    omega
  rw [findPps, if_pos inside, (codeAt_long before rest).2]
  rfl

/-- It goes past a code of three bytes. -/
theorem findPps_short (before rest : List UInt8) (rounds : Nat) :
    findPps (before ++ (StartCode.short.bytes ++ rest)) (rounds + 3) before.length =
      findPps (before ++ (StartCode.short.bytes ++ rest)) rounds (before.length + 3) := by
  have second : longCodeAt ((before ++ [0]) ++ 0 :: 1 :: rest) (before ++ [0]).length = .ok false := by
    rw [longCodeAt, Outcome.cellIs_here, Outcome.cellIs_next]
    rfl
  have third : longCodeAt ((before ++ [0, 0]) ++ 1 :: rest) (before ++ [0, 0]).length = .ok false := by
    rw [longCodeAt, Outcome.cellIs_here]
    rfl
  have next := findPps_next (rounds + 1) second
  have last := findPps_next rounds third
  rw [List.append_assoc, List.length_append] at next last
  calc
    _ = _ := findPps_next (rounds + 2) (codeAt_short before rest).2
    _ = _ := next
    _ = _ := last

/-- With a code of four bytes in front of each, the two units are copied. -/
theorem copySpspps_long (packet : VideoMediaPacketData) {sps : List UInt8} (legalSps : LegalUnit sps)
    (pps : List UInt8) :
    packet.copySpspps (annexB [(.long, sps), (.long, pps)]) = .ok { packet with sps, pps } := by
  generalize stream : annexB [(.long, sps), (.long, pps)] = data
  rw [annexB_cons, annexB_cons, annexB, List.flatMap_nil, List.append_nil] at stream
  have length : data.length = sps.length + (pps.length + 7 + 1) := by
    rw [← stream]
    simp only [List.length_append, StartCode.bytes, List.length_cons, List.length_nil]
    omega
  have found : findPps data data.length 4 = .ok (4 + sps.length) := by
    rw [length]
    refine (@findPps_inside data sps StartCode.long.bytes _ legalSps stream.symm _).trans ?_
    have stop := findPps_long (StartCode.long.bytes ++ sps) pps (pps.length + 7)
    rwa [List.append_assoc, stream, List.length_append] at stop
  have first : Outcome.slice data 4 (4 + sps.length - 4) = .ok sps := by
    rw [Nat.add_sub_cancel_left, ← stream]
    exact Outcome.slice_middle StartCode.long.bytes sps _
  have second : Outcome.slice data (4 + sps.length + 4) (data.length - (4 + sps.length) - 4) = .ok pps := by
    have piece := Outcome.slice_middle (StartCode.long.bytes ++ (sps ++ StartCode.long.bytes)) pps []
    rw [List.append_nil, List.append_assoc, List.append_assoc, stream, List.length_append, List.length_append] at piece
    rw [length, show sps.length + (pps.length + 7 + 1) - (4 + sps.length) - 4 = pps.length by omega, Nat.add_assoc]
    exact piece
  rw [copySpspps, found]
  simp only [Outcome.ok_bind_do, first]
  rw [if_neg (by omega), second]
  rfl

/-- With a code of three bytes in front of the PPS the second code is not found. -/
theorem copySpspps_short (packet : VideoMediaPacketData) {sps pps : List UInt8} (legalSps : LegalUnit sps)
    (legalPps : LegalUnit pps) : packet.copySpspps (annexB [(.long, sps), (.short, pps)]) = .fault := by
  generalize stream : annexB [(.long, sps), (.short, pps)] = data
  rw [annexB_cons, annexB_cons, annexB, List.flatMap_nil, List.append_nil] at stream
  have length : data.length = sps.length + (pps.length + 4 + 3) := by
    rw [← stream]
    simp only [List.length_append, StartCode.bytes, List.length_cons, List.length_nil]
    omega
  have missed : findPps data data.length 4 = .ok data.length := by
    have gone := findPps_short (StartCode.long.bytes ++ sps) pps (pps.length + 4)
    have split : data = (StartCode.long.bytes ++ (sps ++ StartCode.short.bytes)) ++ (pps ++ []) := by
      rw [List.append_nil, ← stream, List.append_assoc, List.append_assoc]
    have behind := findPps_inside legalPps split 4
    rw [List.append_assoc, stream, List.length_append] at gone
    rw [List.length_append, List.length_append] at behind
    rw [length]
    calc
      _ = findPps data (pps.length + 4 + 3) (4 + sps.length) :=
        @findPps_inside data sps StartCode.long.bytes _ legalSps stream.symm _
      _ = findPps data (pps.length + 4) (4 + sps.length + 3) := gone
      _ = findPps data 4 (4 + (sps.length + 3) + pps.length) := behind
      _ = _ := by
        rw [findPps, if_neg (by omega)]
        congr 1
        omega
  rw [copySpspps, missed, Outcome.ok_bind_do, Outcome.slice_of_le (by omega), Outcome.ok_bind_do, if_pos (by omega)]

end VideoMediaPacketData

end Media
end RtmpClient
