import RtmpClient.Rtmp.DecodeFaults
import RtmpClient.Rtmp.Receive

namespace RtmpClient
namespace Rtmp

open Library Amf0

/-!
# Packets that were not decoded

`decode_msg` stores a packet whenever it does not return early, and
`recvRtmpMessage` hands on whatever is stored.  The branches for commands return
early on a negative code; those for control messages only add it to the offset.
Two decoders of commands report success without having read everything, and five
do not come to an end on every body.
-/

/-- A branch that delivers what it decodes, if its decoder comes to an end. -/
def StoresWhole (branch : (offset : Nat) -> (body : List UInt8) -> Outcome (Int × RtmpPacket)) : Prop :=
  forall offset body, (branch offset body).Yields fun found => 0 ≤ found.1 ∧ found.2.ReadsAll (body.drop offset)

/-- The code of a command is an offset, and never negative. -/
theorem yields_decodeAt_iff {α : Type} {wrap : α -> RtmpPacket} {decode : Reader UInt8 α} {offset : Nat}
    {body : List UInt8} :
    ((decodeAt wrap decode offset body).Yields fun found => 0 ≤ found.1 ∧ found.2.ReadsAll (body.drop offset)) ↔
      (decode (body.drop offset)).Yields fun found => (wrap found.2).ReadsAll (body.drop offset) := by
  rw [decodeAt]
  cases decode (body.drop offset) with
  | ok found =>
      exact ⟨fun stored => Outcome.yields_ok (stored.of_ok rfl).2,
        fun reads => Outcome.yields_ok ⟨Int.natCast_nonneg _, reads.of_ok rfl⟩⟩
  | error code => exact ⟨fun stored _ => stored (fun impossible => by cases impossible),
      fun reads _ => reads (fun impossible => by cases impossible)⟩
  | fault => exact iff_of_true (fun ended => absurd rfl ended) fun ended => absurd rfl ended

theorem StoresWhole.decodeAt {α : Type} {wrap : α -> RtmpPacket} {decode : Reader UInt8 α}
    (fills : forall data, (decode data).Yields fun found => found.1 ≤ data.length ∧ (wrap found.2).ReadsAll data) :
    StoresWhole (decodeAt wrap decode) := by
  intro offset body
  exact yields_decodeAt_iff.mpr ((fills (body.drop offset)).mono fun _ bounds => bounds.2)

theorem StoresWhole.ite {condition : Prop} [Decidable condition]
    {first second : (offset : Nat) -> (body : List UInt8) -> Outcome (Int × RtmpPacket)}
    (passed : StoresWhole first) (failed : StoresWhole second) : StoresWhole (if condition then first else second) := by
  by_cases holds : condition
  · rw [if_pos holds]
    exact passed
  · rw [if_neg holds]
    exact failed

theorem StoresWhole.refused : StoresWhole fun _ _ => .error (-2) := fun _ _ => Outcome.yields_error (by decide)

/-- A name that a fresh variable took stands there with its length. -/
theorem encoding_of_read {data name : List UInt8} {width : Nat} (some : name ≠ [])
    (read : rtmpAmf0ReadString [] data = .ok (width, name)) :
    width = (RtmpAmf0Any.string name).encoding.length ∧ data = (RtmpAmf0Any.string name).encoding ++ data.drop width ∧
      StringBytes name name (RtmpAmf0Any.string name).encoding := by
  rcases stringBytes_of_read read with ⟨cells, bytes, length, split⟩
  cases bytes with
  | filled some fits => exact ⟨length.symm, split, .filled some fits⟩
  | kept none => exact absurd rfl some

/-- A string that stands at the front is the one that is read. -/
theorem read_of_encoding {text tail : List UInt8} (some : text ≠ []) (fits : text.length ≤ 32767) :
    rtmpAmf0ReadString [] ((RtmpAmf0Any.string text).encoding ++ tail) =
      .ok ((RtmpAmf0Any.string text).encoding.length, text) :=
  read_of_stringBytes (.filled some fits) tail

end Rtmp
end RtmpClient
