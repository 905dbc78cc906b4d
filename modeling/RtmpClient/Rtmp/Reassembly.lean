import RtmpClient.Library.Assembly
import RtmpClient.Rtmp.ReceiveLemmas

namespace RtmpClient
namespace Rtmp

open Library

/-!
# The reassembly state holds a partial message

`Holds chunk assembly` ties the counters and the heap block of a chunk stream
to the bytes of its message that have arrived.  Under it no length underflows
and no copy leaves its block, and each function of the receive path is the
corresponding operation on the partial message.
-/

/-- The chunk stream's fields describe the partial message. -/
structure Holds (chunk : RtmpChunkData) (assembly : Assembly UInt8) : Prop where
  total_eq : chunk.h.msgLength.toNat = assembly.total
  total_lt : assembly.total < 2 ^ 24
  length_eq : chunk.currentPayloadLen.toNat = assembly.received.length
  payload_eq : assembly.received.length ≠ 0 ->
    chunk.payload = some { size := assembly.total, bytes := assembly.received }

/-- Store a partial message into a chunk. -/
def RtmpChunkData.store (chunk : RtmpChunkData) (assembly : Assembly UInt8) : RtmpChunkData :=
  { chunk with
    payload := some { size := assembly.total, bytes := assembly.received }
    currentPayloadLen := UInt32.ofNat assembly.received.length }

namespace Holds

variable {chunk : RtmpChunkData} {assembly : Assembly UInt8}

theorem idle_iff (holds : Holds chunk assembly) :
    chunk.currentPayloadLen = 0 ↔ assembly.received.length = 0 := by
  rw [← holds.length_eq, ← UInt32.toNat_inj]
  exact Iff.rfl

theorem setTimestamp (holds : Holds chunk assembly) (timestamp : UInt32) :
    Holds (chunk.setTimestamp timestamp) assembly where
  total_eq := holds.total_eq
  total_lt := holds.total_lt
  length_eq := holds.length_eq
  payload_eq := holds.payload_eq

/-- The counter, the message length and the block agree after a store. -/
theorem store {other : Assembly UInt8} (holds : Holds chunk assembly) (same : other.total = assembly.total) :
    Holds (chunk.store other) other where
  total_eq := by rw [same]; exact holds.total_eq
  total_lt := by rw [same]; exact holds.total_lt
  length_eq := by
    have small := holds.total_lt
    have bound := other.fits
    rw [RtmpChunkData.store, UInt32.toNat_ofNat']
    exact Nat.mod_eq_of_lt (by omega)
  payload_eq := fun _ => rfl

/-- A reset chunk waits for the next message. -/
theorem reset (holds : Holds chunk assembly) : Holds chunk.reset (Assembly.start assembly.total) where
  total_eq := holds.total_eq
  total_lt := holds.total_lt
  length_eq := rfl
  payload_eq := fun started => absurd rfl started

/-- A new entry of `chunk_cache_` holds nothing. -/
theorem new (stale : UInt32) : Holds (RtmpChunkData.new stale) (Assembly.start 0) where
  total_eq := rfl
  total_lt := by decide
  length_eq := rfl
  payload_eq := fun started => absurd rfl started

/-- A header refuses the chunk exactly when it changes the length of a message
that has started. -/
theorem refused_iff (holds : Holds chunk assembly) {header : RtmpHeader}
    (fmt0 : header.chunkType = rtmpChunkFmt0Type) :
    lengthRefused header chunk ↔
      assembly.received.length ≠ 0 ∧ header.msgLength.toNat ≠ assembly.total := by
  have fmt1 : header.chunkType ≤ rtmpChunkFmt1Type := by
    rw [fmt0]
    decide
  simp only [lengthRefused, fmt1, true_and, ne_eq, holds.idle_iff, ← holds.total_eq, UInt32.toNat_inj]

/-- An accepted format-0 header announces its length. -/
theorem withHeader (holds : Holds chunk assembly) {header : RtmpHeader}
    (fmt0 : header.chunkType = rtmpChunkFmt0Type) (accepted : ¬ lengthRefused header chunk)
    (small : header.msgLength.toNat < 2 ^ 24) :
    Holds (withHeader header chunk) (assembly.announce header.msgLength.toNat) := by
  have fmt1 : header.chunkType ≤ rtmpChunkFmt1Type := by
    rw [fmt0]
    decide
  have taken : (Rtmp.withHeader header chunk).h.msgLength = header.msgLength :=
    withHeader_msgLength fmt1 accepted
  by_cases idle : assembly.received.length = 0
  · rw [Assembly.announce_idle idle]
    exact
      { total_eq := by rw [taken]; rfl
        total_lt := small
        length_eq := holds.length_eq.trans idle
        payload_eq := fun started => absurd rfl started }
  · rw [Assembly.announce_started idle]
    have same : header.msgLength.toNat = assembly.total := by
      by_contra changed
      exact accepted ((holds.refused_iff fmt0).mpr ⟨idle, changed⟩)
    exact
      { total_eq := by rw [taken]; exact same
        total_lt := holds.total_lt
        length_eq := holds.length_eq
        payload_eq := holds.payload_eq }

/-- A refused format-0 header leaves the partial message alone. -/
theorem withHeader_refused (holds : Holds chunk assembly) {header : RtmpHeader}
    (refused : lengthRefused header chunk) : Holds (Rtmp.withHeader header chunk) assembly := by
  have kept : (Rtmp.withHeader header chunk).h.msgLength = chunk.h.msgLength :=
    if_neg fun takes => takes.2 refused
  exact
    { total_eq := by rw [kept]; exact holds.total_eq
      total_lt := holds.total_lt
      length_eq := holds.length_eq
      payload_eq := holds.payload_eq }

/-! ## The payload part -/

private theorem toNat_min (left right : UInt32) : (min left right).toNat = min left.toNat right.toNat := by
  have choice : min left right = if left ≤ right then left else right := rfl
  rw [choice]
  by_cases less : left ≤ right
  · rw [if_pos less, Nat.min_eq_left (UInt32.le_iff_toNat_le.mp less)]
  · have more : right.toNat ≤ left.toNat := by
      rw [UInt32.le_iff_toNat_le] at less
      omega
    rw [if_neg less, Nat.min_eq_right more]

/-- The subtraction does not underflow and its result fits an `int`. -/
theorem pieceLength_eq (holds : Holds chunk assembly) (inChunkSize : UInt32) :
    pieceLength inChunkSize chunk = assembly.pieceLength inChunkSize.toNat := by
  have bound := assembly.fits
  have small := holds.total_lt
  have ordered : chunk.currentPayloadLen ≤ chunk.h.msgLength := by
    rw [UInt32.le_iff_toNat_le, holds.length_eq, holds.total_eq]
    exact bound
  have missing : (chunk.h.msgLength - chunk.currentPayloadLen).toNat = assembly.missing := by
    rw [UInt32.toNat_sub_of_le _ _ ordered, holds.length_eq, holds.total_eq, Assembly.missing]
  have least : (min (chunk.h.msgLength - chunk.currentPayloadLen) inChunkSize).toNat =
      assembly.pieceLength inChunkSize.toNat := by
    rw [Assembly.pieceLength, ← missing]
    exact toNat_min _ _
  have fitsInt : assembly.pieceLength inChunkSize.toNat < 2 ^ 31 := by
    have piece : assembly.pieceLength inChunkSize.toNat ≤ assembly.missing := Nat.min_le_left _ _
    rw [Assembly.missing] at piece
    omega
  rw [pieceLength, asInt_of_lt (by rw [least]; exact fitsInt), least]

/-- Under the invariant the copy stays inside its block and appends the piece. -/
theorem copyPayload_eq (holds : Holds chunk assembly) {inChunkSize : UInt32} {data : List UInt8}
    (allocated : chunk.payload = some { size := assembly.total, bytes := assembly.received })
    (enough : assembly.pieceLength inChunkSize.toNat ≤ data.length) :
    chunk.copyPayload data (assembly.pieceLength inChunkSize.toNat : Nat) =
      .ok (chunk.store (assembly.feed inChunkSize.toNat data)) := by
  have bound := assembly.fits
  have small := holds.total_lt
  have piece : assembly.pieceLength inChunkSize.toNat ≤ assembly.missing := Nat.min_le_left _ _
  rw [Assembly.missing] at piece
  have inside : ¬ (((assembly.pieceLength inChunkSize.toNat : Nat) : Int) < 0 ∨
      (assembly.total : Int) <
        chunk.currentPayloadLen.toNat + ((assembly.pieceLength inChunkSize.toNat : Nat) : Int)) := by
    rw [holds.length_eq]
    omega
  have kept : assembly.received.take chunk.currentPayloadLen.toNat = assembly.received := by
    rw [holds.length_eq, List.take_length]
  have counter : chunk.currentPayloadLen + UInt32.ofNat (assembly.pieceLength inChunkSize.toNat) =
      UInt32.ofNat (assembly.feed inChunkSize.toNat data).received.length := by
    rw [Assembly.feed_length enough, UInt32.ofNat_add, ← holds.length_eq, UInt32.ofNat_toNat]
  have cells : Outcome.slice data 0 (assembly.pieceLength inChunkSize.toNat) =
      .ok (data.take (assembly.pieceLength inChunkSize.toNat)) := by
    rw [Outcome.slice_of_le (by omega), List.drop_zero]
  unfold RtmpChunkData.copyPayload
  simp only [allocated, inside, if_false, Int.toNat_natCast, cells, Outcome.ok_bind_do,
    Outcome.pure_eq, kept, counter]
  rfl

/-- `do_recv_payload` is `feed`, and it finishes exactly when the record is
full. -/
theorem doRecvPayload_eq (holds : Holds chunk assembly) (inChunkSize : UInt32) (data : List UInt8) :
    doRecvPayload inChunkSize chunk data =
      if data.length < assembly.pieceLength inChunkSize.toNat then .error (-1)
      else .ok (assembly.pieceLength inChunkSize.toNat,
        chunk.store (assembly.feed inChunkSize.toNat data),
        decide (assembly.feed inChunkSize.toNat data).Full) := by
  have small := holds.total_lt
  rw [Rtmp.doRecvPayload_eq, holds.pieceLength_eq]
  by_cases short : data.length < assembly.pieceLength inChunkSize.toNat
  · rw [if_pos (by omega), if_pos short]
  · have enough : assembly.pieceLength inChunkSize.toNat ≤ data.length := Nat.le_of_not_lt short
    have stored : Holds (chunk.store (assembly.feed inChunkSize.toNat data))
        (assembly.feed inChunkSize.toNat data) := holds.store rfl
    have finish : decide ((chunk.store (assembly.feed inChunkSize.toNat data)).currentPayloadLen =
          (chunk.store (assembly.feed inChunkSize.toNat data)).h.msgLength) =
        decide (assembly.feed inChunkSize.toNat data).Full := by
      apply decide_eq_decide.mpr
      rw [← UInt32.toNat_inj, stored.length_eq, stored.total_eq]
      exact Iff.rfl
    rw [if_neg (by omega), if_neg short, storePiece, holds.pieceLength_eq]
    by_cases idle : assembly.received.length = 0
    · have zero : chunk.currentPayloadLen = 0 := holds.idle_iff.mpr idle
      have nothing : assembly.received = [] := List.eq_nil_of_length_eq_zero idle
      have length : asInt chunk.h.msgLength = assembly.total := by
        rw [asInt_of_lt (by rw [holds.total_eq]; omega), holds.total_eq]
      have positive : ¬ ((assembly.total : Nat) : Int) < 0 := by omega
      have created : chunk.createPayload (asInt chunk.h.msgLength) = .ok (chunk.store assembly) := by
        rw [RtmpChunkData.createPayload, length, if_neg positive, RtmpChunkData.store, nothing]
        rfl
      have opened : Holds (chunk.store assembly) assembly := holds.store rfl
      rw [if_pos zero, created]
      simp only [Outcome.ok_bind_do, opened.copyPayload_eq rfl enough, Outcome.pure_eq,
        Int.toNat_natCast, Outcome.ok.injEq, Prod.mk.injEq, true_and]
      exact ⟨rfl, finish⟩
    · have started : ¬ chunk.currentPayloadLen = 0 := fun zero => idle (holds.idle_iff.mp zero)
      rw [if_neg started]
      simp only [Outcome.ok_bind_do, holds.copyPayload_eq (holds.payload_eq idle) enough,
        Outcome.pure_eq, Int.toNat_natCast, Outcome.ok.injEq, Prod.mk.injEq, true_and]
      exact finish

end Holds

/-! ## The extended timestamp and the payload -/

/-- The timestamp once the extended field is read, if there is one. -/
def fieldTimestamp (timeDelta timestamp : UInt32) (data : List UInt8) : UInt32 :=
  if timeDelta ≥ rtmpExtendedTimestamp then UInt32.ofNat (beValue (data.take 4)) &&& 0x7fffffff
  else timestamp

/-- The chunk with its timestamp read from the extended field, if there is one. -/
def RtmpChunkData.timed (chunk : RtmpChunkData) (data : List UInt8) : RtmpChunkData :=
  chunk.setTimestamp (fieldTimestamp chunk.timeDelta chunk.h.timestamp data)

/-- The payload part, on a chunk stream that holds an assembly. -/
theorem recvPayload_holds {chunk : RtmpChunkData} {assembly : Assembly UInt8} (holds : Holds chunk assembly)
    (inChunkSize timestamp : UInt32) (data : List UInt8) (taken : Nat) :
    recvPayload inChunkSize (chunk.setTimestamp timestamp) data taken =
      if data.length < assembly.pieceLength inChunkSize.toNat then
        some
          { ret := -1
            chunk := (chunk.setTimestamp timestamp).setTimestamp (timestamp - chunk.timeDelta)
            finish := false }
      else
        some
          { ret := (taken + assembly.pieceLength inChunkSize.toNat : Nat)
            chunk := (chunk.setTimestamp timestamp).store (assembly.feed inChunkSize.toNat data)
            finish := decide (assembly.feed inChunkSize.toNat data).Full } := by
  unfold recvPayload
  rw [(holds.setTimestamp timestamp).doRecvPayload_eq]
  by_cases short : data.length < assembly.pieceLength inChunkSize.toNat
  · simp only [short, if_true]
    rfl
  · simp only [short, if_false]

/-- The body of a call on a chunk that holds a partial message: it runs short
in the extended field or in the payload, or it stores the next piece. -/
theorem recvBody_holds {chunk : RtmpChunkData} {assembly : Assembly UInt8} (holds : Holds chunk assembly)
    (inChunkSize : UInt32) (data : List UInt8) :
    recvBody inChunkSize chunk data =
      if data.length < fieldLength chunk.timeDelta then
        some { ret := -1, chunk, finish := false }
      else if data.length < fieldLength chunk.timeDelta + assembly.pieceLength inChunkSize.toNat then
        some
          { ret := -1
            chunk := (chunk.timed data).setTimestamp ((chunk.timed data).h.timestamp - chunk.timeDelta)
            finish := false }
      else
        some
          { ret := (fieldLength chunk.timeDelta + assembly.pieceLength inChunkSize.toNat : Nat)
            chunk := (chunk.timed data).store
              (assembly.feed inChunkSize.toNat (data.drop (fieldLength chunk.timeDelta)))
            finish := decide
              (assembly.feed inChunkSize.toNat (data.drop (fieldLength chunk.timeDelta))).Full } := by
  by_cases extended : chunk.timeDelta ≥ rtmpExtendedTimestamp
  · have four : fieldLength chunk.timeDelta = 4 := if_pos extended
    rw [four]
    by_cases noField : data.length < 4
    · rw [recvBody, if_pos extended, if_pos noField, if_pos noField]
    · have time : chunk.timed data =
          chunk.setTimestamp (UInt32.ofNat (beValue (data.take 4)) &&& 0x7fffffff) := by
        rw [RtmpChunkData.timed, fieldTimestamp, if_pos extended]
      rw [recvBody_extended extended (Nat.le_of_not_lt noField), recvPayload_holds holds,
        if_neg noField, time, List.length_drop]
      by_cases short : data.length < 4 + assembly.pieceLength inChunkSize.toNat
      · rw [if_pos (by omega), if_pos short]
        rfl
      · rw [if_neg (by omega), if_neg short]
  · have zero : fieldLength chunk.timeDelta = 0 := if_neg extended
    have time : chunk.timed data = chunk.setTimestamp chunk.h.timestamp := by
      rw [RtmpChunkData.timed, fieldTimestamp, if_neg extended]
    have body := recvPayload_holds holds inChunkSize chunk.h.timestamp data 0
    rw [RtmpChunkData.setTimestamp_self] at body
    rw [recvBody, if_neg extended, body, zero, if_neg (Nat.not_lt_zero _), time, Nat.zero_add,
      List.drop_zero]
    rfl

end Rtmp
end RtmpClient
