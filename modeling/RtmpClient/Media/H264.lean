import RtmpClient.Media.MediaData

namespace RtmpClient
namespace Media

open Library

/-!
# The H.264 splitter (`av_codec.cc`, `VideoCodec::parseH264`)

The scan takes a byte at a time into the pending NAL unit and finishes the unit
at the next start code, or at the end.  What is done with a finished unit does
not matter to the scan.
-/

/-! ## The scan -/

/-- The width of the start code at a position, of either length.  The tests of
the length stand behind the reads. -/
def startCodeAt (h264 : List UInt8) (i : Nat) : Outcome (Option Nat) := do
  let short ← .andAlso (shortCodeAt h264 i) (.ok (decide (i + 2 < h264.length)))
  if short then return some 3
  else do
    let long ← .andAlso (longCodeAt h264 i) (.ok (decide (i + 3 < h264.length)))
    return if long then some 4 else none

section Scan

variable {σ : Type} (finish : List UInt8 -> σ -> Outcome σ)

/-- `if (!nalus.empty())`. -/
def flush (nalus : List UInt8) (pkts : σ) : Outcome σ := if nalus = [] then .ok pkts else finish nalus pkts

/-- The loop `while (i < len)`, with the pending unit. -/
def parseLoop (h264 : List UInt8) : (rounds : Nat) -> (i : Nat) -> (nalus : List UInt8) -> σ ->
    Outcome (List UInt8 × σ)
  | 0, i, nalus, pkts => if i < h264.length then .fault else .ok (nalus, pkts)
  | rounds + 1, i, nalus, pkts =>
      if i < h264.length then do
        let found ← startCodeAt h264 i
        match found with
        | some width => do
            let pkts ← flush finish nalus pkts
            parseLoop h264 rounds (i + width) [] pkts
        | none => do
            let byte ← Outcome.read h264 i
            parseLoop h264 rounds (i + 1) (nalus ++ [byte]) pkts
      else .ok (nalus, pkts)

/-- The loop and the unit that is pending at the end. -/
def splitNalus (h264 : List UInt8) (pkts : σ) : Outcome σ := do
  let (nalus, pkts) ← parseLoop finish h264 h264.length 0 [] pkts
  flush finish nalus pkts

end Scan

/-- The packet of a NAL unit.  A key frame takes along the configuration from
the extradata of the encoder. -/
def naluPacket (extradata : List UInt8) (pts dts : Int64) (nalus : List UInt8) : Outcome MediaPacketData := do
  let media := VideoMediaPacketData.new nalus pts dts
  let naluHeader ← Outcome.read nalus 0
  if naluHeader &&& 0x1f = 5 then do
    let media ← { media with keyframe := true }.copySpspps extradata
    return .create (.video media) 1
  else return .create (.video media) 1

/-- What `parseH264` does with a finished unit. -/
def pushNalu (extradata : List UInt8) (pts dts : Int64) (nalus : List UInt8) (pkts : List MediaPacketData) :
    Outcome (List MediaPacketData) := do
  let data ← naluPacket extradata pts dts nalus
  return pkts ++ [data]

/-- `parseH264`, where `extradata` is that of the encoder. -/
def parseH264 (extradata h264 : List UInt8) (pts dts : Int64) (pkts : List MediaPacketData) :
    Outcome (List MediaPacketData) := splitNalus (pushNalu extradata pts dts) h264 pkts

/-- The units that the scan of `parseH264` finds. -/
def scannedUnits (h264 : List UInt8) : Outcome (List (List UInt8)) :=
  splitNalus (fun nalus found => .ok (found ++ [nalus])) h264 []

/-! ## The scan of a stream -/

theorem startCodeAt_code (code : StartCode) (before rest : List UInt8) :
    startCodeAt (before ++ (code.bytes ++ rest)) before.length = .ok (some code.bytes.length) := by
  cases code with
  | short =>
      have inside : before.length + 2 < (before ++ (StartCode.short.bytes ++ rest)).length := by
        simp only [List.length_append, StartCode.bytes, List.length_cons, List.length_nil]
        omega
      rw [startCodeAt, (codeAt_short before rest).1, Outcome.andAlso_true, decide_eq_true inside]
      rfl
  | long =>
      have inside : before.length + 3 < (before ++ (StartCode.long.bytes ++ rest)).length := by
        simp only [List.length_append, StartCode.bytes, List.length_cons, List.length_nil]
        omega
      rw [startCodeAt, (codeAt_long before rest).1, (codeAt_long before rest).2, Outcome.andAlso_true,
        decide_eq_true inside]
      rfl

theorem startCodeAt_inside {cells : List UInt8} (legal : LegalUnit cells) (before rest : List UInt8) :
    startCodeAt (before ++ (cells ++ rest)) before.length = .ok none := by
  rw [startCodeAt, (codeAt_inside legal before rest).1, (codeAt_inside legal before rest).2]
  rfl

section Stream

variable {σ : Type} {finish : List UInt8 -> σ -> Outcome σ} {h264 before rest : List UInt8}

theorem parseLoop_end {i : Nat} (atEnd : h264.length ≤ i) (rounds : Nat) (nalus : List UInt8) (pkts : σ) :
    parseLoop finish h264 rounds i nalus pkts = .ok (nalus, pkts) := by
  cases rounds with
  | zero => rw [parseLoop, if_neg (Nat.not_lt.mpr atEnd)]
  | succ rounds => rw [parseLoop, if_neg (Nat.not_lt.mpr atEnd)]

/-- At a start code the pending unit is finished. -/
theorem parseLoop_code (code : StartCode) (split : h264 = before ++ (code.bytes ++ rest)) (rounds : Nat)
    (nalus : List UInt8) (pkts : σ) :
    parseLoop finish h264 (rounds + 1) before.length nalus pkts = flush finish nalus pkts >>= fun pkts =>
      parseLoop finish h264 rounds (before ++ code.bytes).length [] pkts := by
  have inside : before.length < h264.length := by
    rw [split]
    cases code <;> simp only [List.length_append, StartCode.bytes, List.length_cons] <;> omega
  have found := startCodeAt_code code before rest
  rw [← split] at found
  rw [parseLoop, if_pos inside, found, List.length_append]
  rfl

/-- Between start codes a whole unit becomes pending. -/
theorem parseLoop_unit {cells : List UInt8} (legal : LegalUnit cells) (split : h264 = before ++ (cells ++ rest))
    (rounds : Nat) (pkts : σ) :
    parseLoop finish h264 (cells.length + rounds) before.length [] pkts =
      parseLoop finish h264 rounds (before ++ cells).length cells pkts := by
  have past := @LegalUnit.past cells rest _ h264 fun rounds i nalus => parseLoop finish h264 rounds i nalus pkts
  rw [List.length_append]
  refine past ?_ legal split rounds []
  intro before cell cells rest split legal rounds nalus
  have inside : before.length < h264.length := by
    rw [split, List.length_append, List.length_append, List.length_cons]
    omega
  have nothing := startCodeAt_inside legal before rest
  have byte := Outcome.read_behind before (cell :: (cells ++ rest)) 0
  rw [← split] at nothing
  rw [← List.cons_append, ← split, Nat.add_zero] at byte
  show parseLoop finish h264 (rounds + 1) before.length nalus pkts = _
  rw [parseLoop, if_pos inside, nothing]
  simp only [Outcome.ok_bind_do, byte, List.cons_append, Outcome.read_cons_zero]

/-- The rule for the scan: each unit of a stream is finished once, in its order,
behind the one that was pending. -/
theorem parseLoop_units {units : List (StartCode × List UInt8)} (legal : forall unit, unit ∈ units -> LegalUnit unit.2)
    (split : h264 = before ++ annexB units) {rounds : Nat} (enough : (annexB units).length ≤ rounds)
    (nalus : List UInt8) (pkts : σ) :
    (parseLoop finish h264 rounds before.length nalus pkts >>= fun found => flush finish found.1 found.2) =
      flush finish nalus pkts >>= (units.map Prod.snd).foldlM fun pkts nalus => finish nalus pkts := by
  induction units generalizing before rounds nalus pkts with
  | nil =>
      have atEnd : h264.length ≤ before.length := by
        rw [split, List.length_append]
        exact Nat.le_refl _
      rw [parseLoop_end atEnd, Outcome.ok_bind_do]
      cases flush finish nalus pkts <;> rfl
  | cons unit units inductionHypothesis =>
      rcases unit with ⟨code, cells⟩
      have here : LegalUnit cells := legal _ List.mem_cons_self
      rw [annexB_cons] at split enough
      rw [List.length_append, List.length_append] at enough
      have some : 1 ≤ code.bytes.length := by cases code <;> decide
      have fuel : rounds = cells.length + (rounds - 1 - cells.length) + 1 := by
        have room : code.bytes.length + (cells.length + (annexB units).length) ≤ rounds := enough
        omega
      have split' : h264 = (before ++ code.bytes) ++ (cells ++ annexB units) := by
        rw [split, List.append_assoc]
      have split'' : h264 = ((before ++ code.bytes) ++ cells) ++ annexB units := by
        rw [split', List.append_assoc, List.append_assoc, List.append_assoc]
      rw [fuel, parseLoop_code code split, Outcome.bind_bind]
      apply Outcome.bind_congr
      intro pkts' _
      rw [parseLoop_unit here split', inductionHypothesis (fun unit member => legal unit (List.mem_cons_of_mem _ member))
        split'' (by have room : code.bytes.length + (cells.length + (annexB units).length) ≤ rounds := enough; omega)]
      rw [flush, if_neg here.nonempty]
      rfl

/-- The scan of a stream finishes its units. -/
theorem splitNalus_annexB {units : List (StartCode × List UInt8)}
    (legal : forall unit, unit ∈ units -> LegalUnit unit.2) (pkts : σ) :
    splitNalus finish (annexB units) pkts =
      (units.map Prod.snd).foldlM (fun pkts nalus => finish nalus pkts) pkts :=
  parseLoop_units legal (List.nil_append _).symm (Nat.le_refl _) [] pkts

end Stream

/-! ## The packets -/

/-- The low five bits of the first byte are 5. -/
def IsKeyUnit (nalus : List UInt8) : Prop := Exists fun header => nalus.head? = some header ∧ header &&& 0x1f = 5

/-- What an encoder that keeps the configuration out of the stream puts into its
extradata: the SPS and what follows it, each behind a code of four bytes. -/
def GlobalHeader (extradata : List UInt8) : Prop :=
  Exists fun sps => Exists fun pps => LegalUnit sps ∧ extradata = annexB [(.long, sps), (.long, pps)]

/-- The packet carries the unit with the time that was given, and is marked if it
is a key frame. -/
structure Carries (pts dts : Int64) (nalus : List UInt8) (packet : MediaPacketData) : Prop where
  carried : Exists fun media => packet = .create (.video media) 1 ∧ media.data = nalus ∧ media.pts = pts ∧
    media.dts = dts ∧ (media.keyframe = true ↔ IsKeyUnit nalus)

theorem naluPacket_carries {extradata nalus : List UInt8} (pts dts : Int64) (legal : LegalUnit nalus)
    (header : IsKeyUnit nalus -> GlobalHeader extradata) :
    Exists fun packet => naluPacket extradata pts dts nalus = .ok packet ∧ Carries pts dts nalus packet := by
  rcases nalus with _ | ⟨first, rest⟩
  · exact absurd rfl legal.nonempty
  · have marked : IsKeyUnit (first :: rest) ↔ first &&& 0x1f = 5 := by
      constructor
      · rintro ⟨found, here, key⟩
        rw [Option.some.inj here]
        exact key
      · intro key
        exact ⟨first, rfl, key⟩
    rw [naluPacket, Outcome.read_cons_zero]
    by_cases key : first &&& 0x1f = 5
    · rcases header (marked.mpr key) with ⟨sps, pps, legalSps, rfl⟩
      simp only [Outcome.ok_bind_do, if_pos key, VideoMediaPacketData.copySpspps_long _ legalSps]
      exact ⟨_, rfl, _, rfl, rfl, rfl, rfl, iff_of_true rfl (marked.mpr key)⟩
    · simp only [Outcome.ok_bind_do, if_neg key]
      exact ⟨_, rfl, _, rfl, rfl, rfl, rfl, iff_of_false Bool.noConfusion fun isKey => key (marked.mp isKey)⟩

/-- Packets that are made one after the other go to the end in their order. -/
theorem foldlM_packets {extradata : List UInt8} {nalus : List (List UInt8)} (pts dts : Int64)
    (legal : forall unit, unit ∈ nalus -> LegalUnit unit)
    (header : forall unit, unit ∈ nalus -> IsKeyUnit unit -> GlobalHeader extradata) (pkts : List MediaPacketData) :
    Exists fun packets => List.Forall₂ (Carries pts dts) nalus packets ∧
      nalus.foldlM (fun pkts unit => pushNalu extradata pts dts unit pkts) pkts = .ok (pkts ++ packets) := by
  induction nalus generalizing pkts with
  | nil => exact ⟨[], .nil, by rw [List.append_nil]; rfl⟩
  | cons unit nalus inductionHypothesis =>
      rcases naluPacket_carries pts dts (legal unit List.mem_cons_self) (header unit List.mem_cons_self) with
        ⟨packet, made, carries⟩
      rcases inductionHypothesis (fun unit member => legal unit (List.mem_cons_of_mem _ member))
        (fun unit member => header unit (List.mem_cons_of_mem _ member)) (pkts ++ [packet]) with
        ⟨packets, others, fold⟩
      refine ⟨packet :: packets, .cons carries others, ?_⟩
      have pushed : pushNalu extradata pts dts unit pkts = .ok (pkts ++ [packet]) := by
        rw [pushNalu, made]
        rfl
      rw [List.foldlM_cons, pushed, Outcome.ok_bind_do, fold, List.append_assoc, List.singleton_append]

/-- The splitter recovers the units of a stream, and reads nothing behind it. -/
theorem parseH264_recovers (extradata : List UInt8) (units : List (StartCode × List UInt8))
    (legal : forall unit, unit ∈ units -> LegalUnit unit.2)
    (header : forall unit, unit ∈ units -> IsKeyUnit unit.2 -> GlobalHeader extradata) (pts dts : Int64)
    (pkts : List MediaPacketData) : Exists fun packets =>
      parseH264 extradata (annexB units) pts dts pkts = .ok (pkts ++ packets) ∧
        List.Forall₂ (Carries pts dts) (units.map Prod.snd) packets := by
  have legal' : forall unit, unit ∈ units.map Prod.snd -> LegalUnit unit := by
    intro unit member
    rcases List.mem_map.mp member with ⟨coded, within, rfl⟩
    exact legal coded within
  have header' : forall unit, unit ∈ units.map Prod.snd -> IsKeyUnit unit -> GlobalHeader extradata := by
    intro unit member
    rcases List.mem_map.mp member with ⟨coded, within, rfl⟩
    exact header coded within
  rcases foldlM_packets pts dts legal' header' pkts with ⟨packets, carries, fold⟩
  exact ⟨packets, (splitNalus_annexB legal pkts).trans fold, carries⟩

/-- A key frame and another frame. -/
theorem parseH264_recovers_two : Exists fun packets =>
    parseH264 (annexB [(.long, [0x67, 0x42]), (.long, [0x68, 0xce])])
        (annexB [(.long, [0x65, 0x88]), (.short, [0x41, 0x00, 0x00, 0x02])]) 40 40 [] = .ok ([] ++ packets) ∧
      List.Forall₂ (Carries 40 40) [[0x65, 0x88], [0x41, 0x00, 0x00, 0x02]] packets := by
  apply parseH264_recovers _ [(.long, [0x65, 0x88]), (.short, [0x41, 0x00, 0x00, 0x02])]
  · decide
  · intro _ _ _
    exact ⟨[0x67, 0x42], [0x68, 0xce], by decide, rfl⟩

end Media
end RtmpClient
