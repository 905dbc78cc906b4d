import RtmpClient.Media.H264

namespace RtmpClient
namespace Media

open Library

/-!
# Two scanners of one format

`copySpspps` and `parseH264` read the same kind of stream.  The first one knows
start codes of four bytes only, so that the two agree on an SPS and a PPS exactly
when the PPS stands behind one of these.
-/

/-! ## The units of the scan -/

/-- The bytes that a packet carries. -/
def MediaPacketData.bytes (packet : MediaPacketData) : List UInt8 :=
  match packet.media with
  | .audio media => media.data
  | .video media => media.data

section Simulation

variable {σ τ : Type} {finish : List UInt8 -> σ -> Outcome σ} {finish' : List UInt8 -> τ -> Outcome τ}
  {related : σ -> τ -> Prop}
  (finished : forall nalus pkts pkts' found, related pkts found -> finish nalus pkts = .ok pkts' ->
    Exists fun found' => finish' nalus found = .ok found' ∧ related pkts' found')

include finished

theorem flush_simulated {nalus : List UInt8} {pkts pkts' : σ} {found : τ} (before : related pkts found)
    (flushed : flush finish nalus pkts = .ok pkts') :
    Exists fun found' => flush finish' nalus found = .ok found' ∧ related pkts' found' := by
  rw [flush] at flushed
  rw [flush]
  split at flushed
  next none =>
    rw [← Outcome.ok.inj flushed, if_pos none]
    exact ⟨found, rfl, before⟩
  next some =>
    rw [if_neg some]
    exact finished nalus pkts pkts' found before flushed

/-- The scan does not depend on what is done with a finished unit. -/
theorem parseLoop_simulated {h264 : List UInt8} {rounds i : Nat} {nalus nalus' : List UInt8} {pkts pkts' : σ} {found : τ}
    (before : related pkts found) (parsed : parseLoop finish h264 rounds i nalus pkts = .ok (nalus', pkts')) :
    Exists fun found' => parseLoop finish' h264 rounds i nalus found = .ok (nalus', found') ∧ related pkts' found' := by
  induction rounds generalizing i nalus pkts found with
  | zero =>
      rw [parseLoop] at parsed
      split at parsed
      · cases parsed
      next atEnd =>
        have same := Outcome.ok.inj parsed
        rw [Prod.mk.injEq] at same
        rw [parseLoop, if_neg atEnd, same.1, ← same.2]
        exact ⟨found, rfl, before⟩
  | succ rounds inductionHypothesis =>
      rw [parseLoop] at parsed
      split at parsed
      next inside =>
        rcases Outcome.bind_eq_ok parsed with ⟨width, code, parsed⟩
        rw [parseLoop, if_pos inside, code, Outcome.ok_bind_do]
        cases width with
        | some width =>
            rcases Outcome.bind_eq_ok parsed with ⟨middle, flushed, parsed⟩
            rcases flush_simulated finished before flushed with ⟨found', flushed', between⟩
            simp only [flushed', Outcome.ok_bind_do]
            exact inductionHypothesis between parsed
        | none =>
            rcases Outcome.bind_eq_ok parsed with ⟨byte, read, parsed⟩
            simp only [read, Outcome.ok_bind_do]
            exact inductionHypothesis before parsed
      next atEnd =>
        have same := Outcome.ok.inj parsed
        rw [Prod.mk.injEq] at same
        rw [parseLoop, if_neg atEnd, same.1, ← same.2]
        exact ⟨found, rfl, before⟩

theorem splitNalus_simulated {h264 : List UInt8} {pkts pkts' : σ} {found : τ} (before : related pkts found)
    (parsed : splitNalus finish h264 pkts = .ok pkts') :
    Exists fun found' => splitNalus finish' h264 found = .ok found' ∧ related pkts' found' := by
  rcases Outcome.bind_eq_ok parsed with ⟨⟨nalus, middle⟩, loop, last⟩
  rcases parseLoop_simulated finished before loop with ⟨between, loop', related⟩
  rcases flush_simulated finished related last with ⟨found', last', after⟩
  refine ⟨found', ?_, after⟩
  rw [splitNalus, loop']
  exact last'

end Simulation

/-- A packet of a unit, whatever the unit is. -/
theorem naluPacket_made {extradata nalus : List UInt8} {pts dts : Int64} {packet : MediaPacketData}
    (made : naluPacket extradata pts dts nalus = .ok packet) :
    Exists fun media => packet = .create (.video media) 1 ∧ media.data = nalus ∧ media.pts = pts := by
  rcases Outcome.bind_eq_ok made with ⟨header, _, made⟩
  split at made
  · rcases Outcome.bind_eq_ok made with ⟨media, copied, made⟩
    rcases Outcome.bind_eq_ok copied with ⟨i, _, copied⟩
    rcases Outcome.bind_eq_ok copied with ⟨sps, _, copied⟩
    simp only at copied
    split at copied
    · cases copied
    · rcases Outcome.bind_eq_ok copied with ⟨pps, _, last⟩
      rw [← Outcome.ok.inj made, ← Outcome.ok.inj last]
      exact ⟨_, rfl, rfl, rfl⟩
  · rw [← Outcome.ok.inj made]
    exact ⟨_, rfl, rfl, rfl⟩

theorem naluPacket_bytes {extradata nalus : List UInt8} {pts dts : Int64} {packet : MediaPacketData}
    (made : naluPacket extradata pts dts nalus = .ok packet) : packet.bytes = nalus := by
  rcases naluPacket_made made with ⟨media, rfl, carried, -⟩
  exact carried

/-- The packets of `parseH264` carry the units of its scan, whatever the bytes. -/
theorem scannedUnits_of_parseH264 {extradata h264 : List UInt8} {pts dts : Int64} {packets : List MediaPacketData}
    (parsed : parseH264 extradata h264 pts dts [] = .ok packets) :
    scannedUnits h264 = .ok (packets.map MediaPacketData.bytes) := by
  have finished : forall nalus (pkts pkts' : List MediaPacketData) (found : List (List UInt8)),
      pkts.map MediaPacketData.bytes = found -> pushNalu extradata pts dts nalus pkts = .ok pkts' ->
        Exists fun found' => Outcome.ok (found ++ [nalus]) = .ok found' ∧ pkts'.map MediaPacketData.bytes = found' := by
    intro nalus pkts pkts' found before pushed
    rcases Outcome.bind_eq_ok pushed with ⟨packet, made, last⟩
    refine ⟨_, rfl, ?_⟩
    rw [← Outcome.ok.inj last, List.map_append, before, List.map_singleton, naluPacket_bytes made]
  rcases splitNalus_simulated finished rfl parsed with ⟨found, scanned, carried⟩
  rw [carried]
  exact scanned

theorem scannedUnits_annexB {units : List (StartCode × List UInt8)}
    (legal : forall unit, unit ∈ units -> LegalUnit unit.2) :
    scannedUnits (annexB units) = .ok (units.map Prod.snd) := by
  have collected (found nalus : List (List UInt8)) :
      nalus.foldlM (fun found unit => Outcome.ok (found ++ [unit])) found = .ok (found ++ nalus) := by
    induction nalus generalizing found with
    | nil => rw [List.append_nil]; rfl
    | cons unit nalus inductionHypothesis =>
        rw [List.foldlM_cons, Outcome.ok_bind_do, inductionHypothesis, List.append_assoc, List.singleton_append]
  exact (splitNalus_annexB legal []).trans (collected [] _)

/-! ## The configuration -/

/-- `copySpspps` stores the two units that the scan of `parseH264` finds in the
same bytes. -/
def ScannersAgree (extradata : List UInt8) : Prop :=
  Exists fun sps => Exists fun pps => scannedUnits extradata = .ok [sps, pps] ∧
    forall packet : VideoMediaPacketData, packet.copySpspps extradata = .ok { packet with sps, pps }

/-- The scanners agree exactly on a PPS behind a code of four bytes. -/
theorem scannersAgree_iff (sps pps : List UInt8) (code : StartCode) (legalSps : LegalUnit sps) (legalPps : LegalUnit pps) :
    ScannersAgree (annexB [(.long, sps), (code, pps)]) ↔ code = .long := by
  have legal : forall unit, unit ∈ [(StartCode.long, sps), (code, pps)] -> LegalUnit unit.2 := by
    intro unit member
    rcases List.mem_cons.mp member with rfl | second
    · exact legalSps
    · rw [List.mem_singleton.mp second]
      exact legalPps
  cases code with
  | short =>
      refine iff_of_false ?_ StartCode.noConfusion
      rintro ⟨_, _, _, copied⟩
      have fault := copied (.new [] 0 0)
      rw [VideoMediaPacketData.copySpspps_short _ legalSps legalPps] at fault
      cases fault
  | long =>
      refine iff_of_true ?_ rfl
      exact ⟨sps, pps, scannedUnits_annexB legal, fun packet => packet.copySpspps_long legalSps pps⟩

/-- A PPS behind a code of three bytes. -/
theorem scannersAgree_iff_two :
    ScannersAgree (annexB [(.long, [0x67, 0x42]), (.short, [0x68, 0xce])]) ↔ StartCode.short = .long :=
  scannersAgree_iff [0x67, 0x42] [0x68, 0xce] .short (by decide) (by decide)

/-- It is not found. -/
theorem short_code_missed : ¬ ScannersAgree (annexB [(.long, [0x67, 0x42]), (.short, [0x68, 0xce])]) := by
  rintro ⟨_, _, _, copied⟩
  have fault := copied (.new [] 0 0)
  rw [VideoMediaPacketData.copySpspps_short _ (by decide) (by decide)] at fault
  cases fault

end Media
end RtmpClient
