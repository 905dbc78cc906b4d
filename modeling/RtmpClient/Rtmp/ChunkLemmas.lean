import RtmpClient.Rtmp.HeaderLemmas
import RtmpClient.Rtmp.Transport

namespace RtmpClient
namespace Rtmp

open Library

/-!
# What the chunk part of a receive step can do

Each function between the decoded header and the copied payload gets one lemma
that says everything it does.  The results about retries, reassembly and stalls
cite these and do not unfold the functions again.
-/

namespace RtmpChunkData

@[simp] theorem setTimestamp_timestamp (chunk : RtmpChunkData) (timestamp : UInt32) :
    (chunk.setTimestamp timestamp).h.timestamp = timestamp := rfl

@[simp] theorem setTimestamp_timeDelta (chunk : RtmpChunkData) (timestamp : UInt32) :
    (chunk.setTimestamp timestamp).timeDelta = chunk.timeDelta := rfl

@[simp] theorem setTimestamp_payload (chunk : RtmpChunkData) (timestamp : UInt32) :
    (chunk.setTimestamp timestamp).payload = chunk.payload := rfl

@[simp] theorem setTimestamp_currentPayloadLen (chunk : RtmpChunkData) (timestamp : UInt32) :
    (chunk.setTimestamp timestamp).currentPayloadLen = chunk.currentPayloadLen := rfl

@[simp] theorem setTimestamp_msgLength (chunk : RtmpChunkData) (timestamp : UInt32) :
    (chunk.setTimestamp timestamp).h.msgLength = chunk.h.msgLength := rfl

@[simp] theorem setTimestamp_setTimestamp (chunk : RtmpChunkData) (first second : UInt32) :
    (chunk.setTimestamp first).setTimestamp second = chunk.setTimestamp second := rfl

@[simp] theorem setTimestamp_self (chunk : RtmpChunkData) :
    chunk.setTimestamp chunk.h.timestamp = chunk := rfl

end RtmpChunkData

/-! ## The header -/

/-- The chunk refuses a header that changes the length of a started message. -/
def lengthRefused (header : RtmpHeader) (chunk : RtmpChunkData) : Prop :=
  header.chunkType ≤ rtmpChunkFmt1Type ∧ chunk.currentPayloadLen ≠ 0 ∧
    header.msgLength ≠ chunk.h.msgLength

instance (header : RtmpHeader) (chunk : RtmpChunkData) : Decidable (lengthRefused header chunk) :=
  inferInstanceAs (Decidable (_ ∧ _ ∧ _))

/-- The timestamp delta after the header. -/
def nextDelta (header : RtmpHeader) (chunk : RtmpChunkData) : UInt32 :=
  if header.chunkType ≤ rtmpChunkFmt2Type then header.timestamp else chunk.timeDelta

/-- The timestamp after the header and before the extended field. -/
def nextTimestamp (header : RtmpHeader) (chunk : RtmpChunkData) : UInt32 :=
  if header.chunkType ≤ rtmpChunkFmt2Type then
    if header.timestamp < rtmpExtendedTimestamp then
      if header.chunkType = rtmpChunkFmt0Type then header.timestamp
      else chunk.h.timestamp + header.timestamp
    else chunk.h.timestamp
  else if chunk.currentPayloadLen = 0 ∧ chunk.timeDelta < rtmpExtendedTimestamp then
    chunk.h.timestamp + chunk.timeDelta
  else chunk.h.timestamp

/-- The header carries a length and a type of its own and they are taken. -/
def takesMessage (header : RtmpHeader) (chunk : RtmpChunkData) : Prop :=
  header.chunkType ≤ rtmpChunkFmt1Type ∧ ¬ lengthRefused header chunk

instance (header : RtmpHeader) (chunk : RtmpChunkData) : Decidable (takesMessage header chunk) :=
  inferInstanceAs (Decidable (_ ∧ _))

/-- The chunk stream's header after `applyHeader`, field by field. -/
def nextHeader (header : RtmpHeader) (chunk : RtmpChunkData) : RtmpHeader where
  chunkType := header.chunkType
  chunkStreamId := header.chunkStreamId
  timestamp := nextTimestamp header chunk
  msgLength := if takesMessage header chunk then header.msgLength else chunk.h.msgLength
  msgTypeId := if takesMessage header chunk then header.msgTypeId else chunk.h.msgTypeId
  msgStreamId :=
    if takesMessage header chunk ∧ header.chunkStreamId = 0 then header.msgStreamId
    else chunk.h.msgStreamId

/-- The chunk stream after the header. -/
def withHeader (header : RtmpHeader) (chunk : RtmpChunkData) : RtmpChunkData :=
  { chunk with h := nextHeader header chunk, timeDelta := nextDelta header chunk }

/-- What the first three formats do to the timestamp, as one assignment. -/
theorem setTimestamp_fmt2 {header : RtmpHeader} (chunk given : RtmpChunkData)
    (fmt2 : header.chunkType ≤ rtmpChunkFmt2Type) (same : given.h.timestamp = chunk.h.timestamp) :
    (if header.timestamp < rtmpExtendedTimestamp then
        if header.chunkType = rtmpChunkFmt0Type then given.setTimestamp header.timestamp
        else given.setTimestamp (given.h.timestamp + header.timestamp)
      else given) = given.setTimestamp (nextTimestamp header chunk) := by
  rw [nextTimestamp, if_pos fmt2, same]
  by_cases short : header.timestamp < rtmpExtendedTimestamp
  · rw [if_pos short, if_pos short]
    by_cases fmt0 : header.chunkType = rtmpChunkFmt0Type
    · rw [if_pos fmt0, if_pos fmt0]
    · rw [if_neg fmt0, if_neg fmt0]
  · rw [if_neg short, if_neg short, ← same]
    rfl

/-- What the last format does to the timestamp, as one assignment. -/
theorem setTimestamp_fmt3 {header : RtmpHeader} (chunk given : RtmpChunkData)
    (fmt3 : ¬ header.chunkType ≤ rtmpChunkFmt2Type) (same : given.h.timestamp = chunk.h.timestamp) :
    (if (decide (chunk.currentPayloadLen = 0) && decide (chunk.timeDelta < rtmpExtendedTimestamp)) = true then
        (true, given.setTimestamp (given.h.timestamp + chunk.timeDelta))
      else (true, given)) = (true, given.setTimestamp (nextTimestamp header chunk)) := by
  rw [nextTimestamp, if_neg fmt3, same]
  simp only [Bool.and_eq_true, decide_eq_true_iff]
  by_cases starting : chunk.currentPayloadLen = 0 ∧ chunk.timeDelta < rtmpExtendedTimestamp
  · rw [if_pos starting, if_pos starting]
  · rw [if_neg starting, if_neg starting, ← same]
    rfl

theorem applyHeader_eq (header : RtmpHeader) (chunk : RtmpChunkData) :
    applyHeader header chunk = (!decide (lengthRefused header chunk), withHeader header chunk) := by
  by_cases fmt2 : header.chunkType ≤ rtmpChunkFmt2Type
  · have timed := setTimestamp_fmt2 chunk { chunk with
      h := { chunk.h with chunkType := header.chunkType, chunkStreamId := header.chunkStreamId }
      timeDelta := header.timestamp } fmt2 rfl
    simp only [applyHeader, if_pos fmt2, timed]
    by_cases fmt1 : header.chunkType ≤ rtmpChunkFmt1Type
    · rw [if_pos fmt1]
      by_cases refused : lengthRefused header chunk
      · have started : chunk.currentPayloadLen ≠ 0 := refused.2.1
        have changed : header.msgLength ≠ chunk.h.msgLength := refused.2.2
        have keeps : ¬ takesMessage header chunk := fun takes => takes.2 refused
        simp only [started, decide_false, Bool.not_false, Bool.true_and, RtmpChunkData.setTimestamp,
          changed, ne_eq, not_false_eq_true, decide_true, if_true, refused, Bool.not_true,
          withHeader, nextHeader, nextDelta, fmt2, keeps, if_false, false_and]
      · have takes : takesMessage header chunk := ⟨fmt1, refused⟩
        have zero : rtmpChunkFmt0Type.toUInt32 = 0 := rfl
        simp only [RtmpChunkData.setTimestamp, zero]
        split
        next both =>
          rw [Bool.and_eq_true, Bool.not_eq_true', decide_eq_false_iff_not] at both
          exact absurd ⟨fmt1, both.1, of_decide_eq_true both.2⟩ refused
        simp only [refused, decide_false, Bool.not_false, withHeader, nextHeader, nextDelta, fmt2,
          takes, if_true, true_and]
        by_cases control : header.chunkStreamId = 0
        · simp only [control, if_true]
        · simp only [control, if_false]
    · have refused : ¬ lengthRefused header chunk := fun refused => fmt1 refused.1
      have keeps : ¬ takesMessage header chunk := fun takes => fmt1 takes.1
      simp only [fmt1, if_false, RtmpChunkData.setTimestamp, refused, decide_false, Bool.not_false,
        withHeader, nextHeader, nextDelta, fmt2, if_true, keeps, false_and]
  · have fmt1 : ¬ header.chunkType ≤ rtmpChunkFmt1Type :=
      fun small => fmt2 (UInt8.le_trans small (by decide))
    have refused : ¬ lengthRefused header chunk := fun refused => fmt1 refused.1
    have keeps : ¬ takesMessage header chunk := fun takes => fmt1 takes.1
    have timed := setTimestamp_fmt3 chunk { chunk with
      h := { chunk.h with chunkType := header.chunkType, chunkStreamId := header.chunkStreamId } }
      fmt2 rfl
    simp only [applyHeader, if_neg fmt2, timed]
    simp only [RtmpChunkData.setTimestamp, refused, decide_false, Bool.not_false, withHeader,
      nextHeader, nextDelta, fmt2, if_false, keeps, false_and]

theorem recvChunk_eq (inChunkSize : UInt32) (header : RtmpHeader) (chunk : RtmpChunkData)
    (data : List UInt8) :
    recvChunk inChunkSize header chunk data =
      if lengthRefused header chunk then
        some { ret := -2, chunk := withHeader header chunk, finish := false }
      else recvBody inChunkSize (withHeader header chunk) data := by
  unfold recvChunk
  rw [applyHeader_eq]
  by_cases refused : lengthRefused header chunk
  · simp only [refused, decide_true, Bool.not_true, if_true]
  · simp only [refused, decide_false, Bool.not_false, if_false]

/-- A header that was accepted once is accepted again, and so is every later
header that agrees with it on the length. -/
theorem withHeader_msgLength {header : RtmpHeader} {chunk : RtmpChunkData}
    (fmt1 : header.chunkType ≤ rtmpChunkFmt1Type) (accepted : ¬ lengthRefused header chunk) :
    (withHeader header chunk).h.msgLength = header.msgLength :=
  if_pos ⟨fmt1, accepted⟩

/-! ## The payload -/

/-- The number of payload bytes the next chunk must bring. -/
def pieceLength (inChunkSize : UInt32) (chunk : RtmpChunkData) : Int :=
  asInt (min (chunk.h.msgLength - chunk.currentPayloadLen) inChunkSize)

/-- The payload part behind the length check. -/
def storePiece (inChunkSize : UInt32) (chunk : RtmpChunkData) (data : List UInt8) :
    Outcome (Nat × RtmpChunkData × Bool) := do
  let opened ← if chunk.currentPayloadLen = 0 then chunk.createPayload (asInt chunk.h.msgLength)
    else .ok chunk
  let stored ← opened.copyPayload data (pieceLength inChunkSize chunk)
  return ((pieceLength inChunkSize chunk).toNat, stored,
    decide (stored.currentPayloadLen = stored.h.msgLength))

theorem doRecvPayload_eq (inChunkSize : UInt32) (chunk : RtmpChunkData) (data : List UInt8) :
    doRecvPayload inChunkSize chunk data =
      if pieceLength inChunkSize chunk > data.length then .error (-1)
      else storePiece inChunkSize chunk data := rfl

theorem copyPayload_ne_error (chunk : RtmpChunkData) (data : List UInt8) (len : Int) (code : Int) :
    chunk.copyPayload data len ≠ .error code := by
  unfold RtmpChunkData.copyPayload
  cases chunk.payload with
  | none => simp
  | some block =>
      simp only [Outcome.slice]
      split_ifs <;> simp

theorem storePiece_ne_error (inChunkSize : UInt32) (chunk : RtmpChunkData) (data : List UInt8) (code : Int) :
    storePiece inChunkSize chunk data ≠ .error code := by
  intro failed
  unfold storePiece at failed
  have copyPart : forall opened : RtmpChunkData,
      ((do
        let stored ← opened.copyPayload data (pieceLength inChunkSize chunk)
        return ((pieceLength inChunkSize chunk).toNat, stored,
          decide (stored.currentPayloadLen = stored.h.msgLength))) :
          Outcome (Nat × RtmpChunkData × Bool)) ≠ .error code := by
    intro opened copyFailed
    cases copied : opened.copyPayload data (pieceLength inChunkSize chunk) with
    | ok stored => simp [copied] at copyFailed
    | error other => exact copyPayload_ne_error _ _ _ _ copied
    | fault => simp [copied] at copyFailed
  by_cases idle : chunk.currentPayloadLen = 0
  · rw [if_pos idle] at failed
    unfold RtmpChunkData.createPayload at failed
    split at failed
    · simp at failed
    · exact copyPart _ failed
  · rw [if_neg idle] at failed
    exact copyPart _ failed

/-- The payload part takes exactly the piece. -/
theorem storePiece_length {inChunkSize : UInt32} {chunk : RtmpChunkData} {data : List UInt8}
    {result : Nat × RtmpChunkData × Bool} (success : storePiece inChunkSize chunk data = .ok result) :
    result.1 = (pieceLength inChunkSize chunk).toNat := by
  unfold storePiece at success
  by_cases idle : chunk.currentPayloadLen = 0
  · rw [if_pos idle] at success
    rcases Outcome.bind_eq_ok success with ⟨opened, _, rest⟩
    rcases Outcome.bind_eq_ok rest with ⟨stored, _, last⟩
    rw [← Outcome.ok.inj last]
  · rw [if_neg idle] at success
    rcases Outcome.bind_eq_ok success with ⟨opened, _, rest⟩
    rcases Outcome.bind_eq_ok rest with ⟨stored, _, last⟩
    rw [← Outcome.ok.inj last]

theorem doRecvPayload_error {inChunkSize : UInt32} {chunk : RtmpChunkData} {data : List UInt8} {code : Int}
    (failed : doRecvPayload inChunkSize chunk data = .error code) :
    code = -1 ∧ pieceLength inChunkSize chunk > data.length := by
  rw [doRecvPayload_eq] at failed
  split at failed
  · next short => exact ⟨(Outcome.error.inj failed).symm, short⟩
  · exact absurd failed (storePiece_ne_error _ _ _ _)

/-- Copying looks at no byte behind the piece. -/
theorem copyPayload_append (chunk : RtmpChunkData) {data : List UInt8} {len : Int}
    (enough : len ≤ data.length) (more : List UInt8) :
    chunk.copyPayload (data ++ more) len = chunk.copyPayload data len := by
  unfold RtmpChunkData.copyPayload
  cases chunk.payload with
  | none => rfl
  | some block =>
      by_cases outside : len < 0 ∨ (block.size : Int) < chunk.currentPayloadLen.toNat + len
      · simp only [outside, if_true]
      · have inside : 0 + len.toNat ≤ data.length := by omega
        have same : Outcome.slice (data ++ more) 0 len.toNat = Outcome.slice data 0 len.toNat :=
          Outcome.slice_append inside
        simp only [outside, if_false, same]

/-- With the piece present, no byte behind it is looked at. -/
theorem doRecvPayload_append {inChunkSize : UInt32} {chunk : RtmpChunkData} {data : List UInt8}
    (enough : ¬ pieceLength inChunkSize chunk > data.length) (more : List UInt8) :
    doRecvPayload inChunkSize chunk (data ++ more) = doRecvPayload inChunkSize chunk data := by
  have stillEnough : ¬ pieceLength inChunkSize chunk > (data ++ more).length := by
    rw [List.length_append]
    omega
  rw [doRecvPayload_eq, doRecvPayload_eq, if_neg stillEnough, if_neg enough]
  simp only [storePiece, copyPayload_append _ (Int.not_lt.mp enough)]

/-- The result of the payload part with the timestamp replaced. -/
def retime (timestamp : UInt32) :
    Outcome (Nat × RtmpChunkData × Bool) -> Outcome (Nat × RtmpChunkData × Bool)
  | .ok (length, chunk, finish) => .ok (length, chunk.setTimestamp timestamp, finish)
  | .error code => .error code
  | .fault => .fault

theorem copyPayload_setTimestamp (chunk : RtmpChunkData) (data : List UInt8) (len : Int)
    (timestamp : UInt32) :
    (chunk.setTimestamp timestamp).copyPayload data len =
      (chunk.copyPayload data len).bind (fun stored => .ok (stored.setTimestamp timestamp)) := by
  unfold RtmpChunkData.copyPayload
  simp only [RtmpChunkData.setTimestamp_payload, RtmpChunkData.setTimestamp_currentPayloadLen]
  cases chunk.payload with
  | none => rfl
  | some block =>
      by_cases outside : len < 0 ∨ (block.size : Int) < chunk.currentPayloadLen.toNat + len
      · simp only [outside, if_true, Outcome.fault_bind]
      · simp only [outside, if_false]
        cases Outcome.slice data 0 len.toNat <;> rfl

theorem createPayload_setTimestamp (chunk : RtmpChunkData) (length : Int) (timestamp : UInt32) :
    (chunk.setTimestamp timestamp).createPayload length =
      (chunk.createPayload length).bind (fun opened => .ok (opened.setTimestamp timestamp)) := by
  unfold RtmpChunkData.createPayload
  split <;> rfl

/-- The payload part neither reads nor writes the timestamp. -/
theorem doRecvPayload_setTimestamp (inChunkSize : UInt32) (chunk : RtmpChunkData) (data : List UInt8)
    (timestamp : UInt32) :
    doRecvPayload inChunkSize (chunk.setTimestamp timestamp) data =
      retime timestamp (doRecvPayload inChunkSize chunk data) := by
  have samePiece : pieceLength inChunkSize (chunk.setTimestamp timestamp) = pieceLength inChunkSize chunk :=
    rfl
  have copyPart : forall opened : RtmpChunkData,
      ((do
        let stored ← (opened.setTimestamp timestamp).copyPayload data (pieceLength inChunkSize chunk)
        return ((pieceLength inChunkSize chunk).toNat, stored,
          decide (stored.currentPayloadLen = stored.h.msgLength))) :
          Outcome (Nat × RtmpChunkData × Bool)) =
        retime timestamp (do
          let stored ← opened.copyPayload data (pieceLength inChunkSize chunk)
          return ((pieceLength inChunkSize chunk).toNat, stored,
            decide (stored.currentPayloadLen = stored.h.msgLength))) := by
    intro opened
    rw [copyPayload_setTimestamp]
    cases opened.copyPayload data (pieceLength inChunkSize chunk) <;> rfl
  rw [doRecvPayload_eq, doRecvPayload_eq, samePiece]
  split
  · rfl
  · unfold storePiece
    rw [samePiece, RtmpChunkData.setTimestamp_currentPayloadLen, RtmpChunkData.setTimestamp_msgLength,
      createPayload_setTimestamp]
    by_cases idle : chunk.currentPayloadLen = 0
    · rw [if_pos idle, if_pos idle]
      cases chunk.createPayload (asInt chunk.h.msgLength) with
      | ok opened => exact copyPart opened
      | error code => rfl
      | fault => rfl
    · rw [if_neg idle, if_neg idle]
      exact copyPart chunk

/-! ## The extended timestamp and the payload -/

/-- A failed payload part leaves the chunk as it was, with the delta taken off
its timestamp. -/
theorem recvPayload_failed {inChunkSize : UInt32} {chunk : RtmpChunkData} {data : List UInt8} {taken : Nat}
    {result : ChunkResult} (received : recvPayload inChunkSize chunk data taken = some result)
    (failed : result.ret < 0) :
    result =
      { ret := -1
        chunk := chunk.setTimestamp (chunk.h.timestamp - chunk.timeDelta)
        finish := false } ∧
      pieceLength inChunkSize chunk > data.length := by
  unfold recvPayload at received
  cases payload : doRecvPayload inChunkSize chunk data with
  | fault => simp only [payload, reduceCtorEq] at received
  | error code =>
      have short := doRecvPayload_error payload
      simp only [payload, short.1, Option.some.injEq] at received
      exact ⟨received.symm, short.2⟩
  | ok value =>
      simp only [payload, Option.some.injEq] at received
      rw [← received] at failed
      simp only at failed
      omega

/-- A payload part that did not run short is the same on a longer buffer. -/
theorem recvPayload_append {inChunkSize : UInt32} {chunk : RtmpChunkData} {data : List UInt8} {taken : Nat}
    (settled : forall result, recvPayload inChunkSize chunk data taken = some result -> 0 ≤ result.ret)
    (more : List UInt8) :
    recvPayload inChunkSize chunk (data ++ more) taken = recvPayload inChunkSize chunk data taken := by
  have enough : ¬ pieceLength inChunkSize chunk > data.length := by
    intro short
    have failed := settled
      { ret := -1, chunk := chunk.setTimestamp (chunk.h.timestamp - chunk.timeDelta), finish := false }
    rw [recvPayload, doRecvPayload_eq, if_pos short] at failed
    have impossible : (0 : Int) ≤ -1 := failed rfl
    exact absurd impossible (by decide)
  rw [recvPayload, recvPayload, doRecvPayload_append enough more]

/-- A payload part takes no more than it is given. -/
theorem recvPayload_le {inChunkSize : UInt32} {chunk : RtmpChunkData} {data : List UInt8} {taken : Nat}
    {result : ChunkResult} (received : recvPayload inChunkSize chunk data taken = some result) :
    result.ret ≤ taken + data.length := by
  unfold recvPayload at received
  rw [doRecvPayload_eq] at received
  by_cases short : pieceLength inChunkSize chunk > data.length
  · simp only [short, if_true, Option.some.injEq] at received
    rw [← received]
    simp only
    omega
  · rw [if_neg short] at received
    cases stored : storePiece inChunkSize chunk data with
    | fault => simp only [stored, reduceCtorEq] at received
    | error code => exact absurd stored (storePiece_ne_error _ _ _ _)
    | ok value =>
        simp only [stored, Option.some.injEq] at received
        have length := storePiece_length stored
        rw [← received]
        simp only
        omega

/-- What the two kinds of short read leave behind. -/
structure ShortRead (chunk : RtmpChunkData) (data : List UInt8) (result : ChunkResult) : Prop where
  ret_eq : result.ret = -1
  finish_eq : result.finish = false
  chunk_eq : result.chunk = chunk.setTimestamp result.chunk.h.timestamp
  timestamp_plain : ¬ chunk.timeDelta ≥ rtmpExtendedTimestamp ->
    result.chunk.h.timestamp = chunk.h.timestamp - chunk.timeDelta
  timestamp_extended : chunk.timeDelta ≥ rtmpExtendedTimestamp -> data.length < 4 ->
    result.chunk.h.timestamp = chunk.h.timestamp

/-- With four bytes present the extended timestamp is read from them. -/
theorem recvBody_extended {inChunkSize : UInt32} {chunk : RtmpChunkData} {data : List UInt8}
    (extended : chunk.timeDelta ≥ rtmpExtendedTimestamp) (enough : 4 ≤ data.length) :
    recvBody inChunkSize chunk data =
      recvPayload inChunkSize
        (chunk.setTimestamp (UInt32.ofNat (beValue (data.take 4)) &&& 0x7fffffff)) (data.drop 4) 4 := by
  have notShort : ¬ data.length < 4 := by omega
  have cells : Outcome.slice data 0 4 = .ok (data.take 4) := Outcome.slice_of_le (by omega)
  unfold recvBody
  rw [if_pos extended, if_neg notShort, cells]

theorem recvBody_failed {inChunkSize : UInt32} {chunk : RtmpChunkData} {data : List UInt8}
    {result : ChunkResult} (received : recvBody inChunkSize chunk data = some result)
    (failed : result.ret < 0) : ShortRead chunk data result := by
  by_cases extended : chunk.timeDelta ≥ rtmpExtendedTimestamp
  · by_cases short : data.length < 4
    · rw [recvBody, if_pos extended, if_pos short, Option.some.injEq] at received
      rw [← received]
      exact
        { ret_eq := rfl
          finish_eq := rfl
          chunk_eq := rfl
          timestamp_plain := fun plain => absurd extended plain
          timestamp_extended := fun _ _ => rfl }
    · rw [recvBody_extended extended (Nat.le_of_not_lt short)] at received
      rw [(recvPayload_failed received failed).1]
      exact
        { ret_eq := rfl
          finish_eq := rfl
          chunk_eq := rfl
          timestamp_plain := fun plain => absurd extended plain
          timestamp_extended := fun _ short' => absurd short' short }
  · rw [recvBody, if_neg extended] at received
    rw [(recvPayload_failed received failed).1]
    exact
      { ret_eq := rfl
        finish_eq := rfl
        chunk_eq := rfl
        timestamp_plain := fun _ => rfl
        timestamp_extended := fun extended' => absurd extended' extended }

theorem recvBody_append {inChunkSize : UInt32} {chunk : RtmpChunkData} {data : List UInt8}
    (settled : forall result, recvBody inChunkSize chunk data = some result -> 0 ≤ result.ret)
    (more : List UInt8) :
    recvBody inChunkSize chunk (data ++ more) = recvBody inChunkSize chunk data := by
  by_cases extended : chunk.timeDelta ≥ rtmpExtendedTimestamp
  · by_cases short : data.length < 4
    · have failed := settled { ret := -1, chunk, finish := false }
      rw [recvBody, if_pos extended, if_pos short] at failed
      have impossible : (0 : Int) ≤ -1 := failed rfl
      exact absurd impossible (by decide)
    · have enough := Nat.le_of_not_lt short
      rw [recvBody_extended extended enough] at settled
      rw [recvBody_extended extended enough, recvBody_extended extended (by rw [List.length_append]; omega),
        List.take_append_of_le_length enough, List.drop_append_of_le_length enough]
      exact recvPayload_append settled more
  · rw [recvBody, if_neg extended] at settled
    rw [recvBody, recvBody, if_neg extended, if_neg extended]
    exact recvPayload_append settled more

theorem recvBody_le {inChunkSize : UInt32} {chunk : RtmpChunkData} {data : List UInt8} {result : ChunkResult}
    (received : recvBody inChunkSize chunk data = some result) : result.ret ≤ data.length := by
  by_cases extended : chunk.timeDelta ≥ rtmpExtendedTimestamp
  · by_cases short : data.length < 4
    · rw [recvBody, if_pos extended, if_pos short, Option.some.injEq] at received
      rw [← received]
      simp only
      omega
    · rw [recvBody_extended extended (Nat.le_of_not_lt short)] at received
      have bound := recvPayload_le received
      rw [List.length_drop] at bound
      omega
  · rw [recvBody, if_neg extended] at received
    have bound := recvPayload_le received
    omega

theorem recvChunk_append {inChunkSize : UInt32} {header : RtmpHeader} {chunk : RtmpChunkData}
    {data : List UInt8}
    (settled : forall result, recvChunk inChunkSize header chunk data = some result -> 0 ≤ result.ret)
    (more : List UInt8) :
    recvChunk inChunkSize header chunk (data ++ more) = recvChunk inChunkSize header chunk data := by
  rw [recvChunk_eq] at settled
  rw [recvChunk_eq, recvChunk_eq]
  by_cases refused : lengthRefused header chunk
  · rw [if_pos refused, if_pos refused]
  · rw [if_neg refused] at settled
    rw [if_neg refused, if_neg refused]
    exact recvBody_append settled more

theorem recvChunk_le {inChunkSize : UInt32} {header : RtmpHeader} {chunk : RtmpChunkData}
    {data : List UInt8} {result : ChunkResult}
    (received : recvChunk inChunkSize header chunk data = some result) : result.ret ≤ data.length := by
  rw [recvChunk_eq] at received
  split at received
  · rw [← Option.some.inj received]
    simp only
    omega
  · exact recvBody_le received

end Rtmp
end RtmpClient
