import RtmpClient.Client.Peer

namespace RtmpClient
namespace Client

open Library Rtmp

/-!
# What it costs to receive a message

The receiver reads a header of at least twelve bytes with every chunk, because
it takes every chunk for format 0.  A sender that continues a message with
one-byte headers sends fewer bytes than the receiver needs for it.
-/

/-- The least number of bytes that bring `missing` bytes of payload. -/
def cost (window missing : Nat) : Nat := missing + 12 * pieceCount window missing

/-- One chunk pays for its header and for its piece. -/
theorem cost_step {window : Nat} (positive : 0 < window) (missing : Nat) :
    cost window missing ≤ 12 + min missing window + cost window (missing - min missing window) := by
  by_cases more : 0 < missing
  · have pieces := pieceCount_step positive more
    rw [cost, cost, pieces]
    omega
  · rw [Nat.eq_zero_of_not_pos more, cost, pieceCount_zero]
    omega

theorem cost_mono (window : Nat) {fewer more : Nat} (less : fewer ≤ more) :
    cost window fewer ≤ cost window more :=
  Nat.add_le_add less (Nat.mul_le_mul_left 12 (pieceCount_mono window less))

/-- No message of `length` bytes can be completed with fewer than `budget`
further bytes. -/
structure Needs (assemblies : UInt32 -> Assembly UInt8) (window length budget : Nat) : Prop where
  fresh : budget ≤ cost window length
  begun : forall csId, (assemblies csId).received.length ≠ 0 -> (assemblies csId).total = length ->
    budget ≤ cost window (assemblies csId).missing

namespace Needs

variable {assemblies : UInt32 -> Assembly UInt8} {transport : RtmpMessageTransport} {length budget : Nat}
variable {header : RtmpHeader}

/-- The header of a chunk brings none of the payload. -/
theorem announced {window : Nat} (needs : Needs assemblies window length budget)
    (same : (announced assemblies header).total = length) :
    budget ≤ cost window (Rtmp.announced assemblies header).missing := by
  by_cases idle : (assemblies header.chunkStreamId).received.length = 0
  · rw [Rtmp.announced, Assembly.announce_idle idle] at same ⊢
    rw [Assembly.start_total] at same
    rw [Assembly.missing, Assembly.start_total, same]
    exact needs.fresh
  · rw [Rtmp.announced, Assembly.announce_started idle] at same ⊢
    exact needs.begun header.chunkStreamId idle same

theorem paid {window : Nat} (positive : 0 < window) (needs : Needs assemblies window length budget)
    (same : (Rtmp.announced assemblies header).total = length) :
    budget ≤ 12 + (Rtmp.announced assemblies header).pieceLength window +
      cost window ((Rtmp.announced assemblies header).missing -
        (Rtmp.announced assemblies header).pieceLength window) :=
  Nat.le_trans (needs.announced same) (cost_step positive _)

/-- The piece that a taken chunk must have had. -/
theorem pieceLength_le {body : List UInt8}
    (enough : bodyLength transport.inChunkSize assemblies header ≤ body.length) :
    (Rtmp.announced assemblies header).pieceLength transport.inChunkSize.toNat ≤
      (body.drop (fieldLength header.timestamp)).length := by
  rw [bodyLength] at enough
  rw [List.length_drop]
  omega

/-- A chunk that completes nothing lowers the budget by at most what it took. -/
theorem partly {offset : Nat} {body : List UInt8} (positive : 0 < transport.inChunkSize.toNat)
    (needs : Needs assemblies transport.inChunkSize.toNat length budget) (twelve : 12 ≤ offset)
    (enough : bodyLength transport.inChunkSize assemblies header ≤ body.length) :
    Needs (Function.update assemblies header.chunkStreamId
        (taken transport.inChunkSize assemblies header body)) transport.inChunkSize.toNat length
      (budget - (offset + bodyLength transport.inChunkSize assemblies header)) where
  fresh := Nat.le_trans (Nat.sub_le _ _) needs.fresh
  begun := by
    intro csId
    by_cases here : csId = header.chunkStreamId
    · rw [here, Function.update_self]
      intro _ same
      have paid := needs.paid positive same
      have left := Assembly.feed_missing (pieceLength_le enough)
      rw [taken, left, bodyLength]
      omega
    · rw [Function.update_of_ne here]
      intro started same
      exact Nat.le_trans (Nat.sub_le _ _) (needs.begun csId started same)

/-- The chunk that completes a message of the length has brought the budget. -/
theorem completed {offset : Nat} {body : List UInt8} (positive : 0 < transport.inChunkSize.toNat)
    (needs : Needs assemblies transport.inChunkSize.toNat length budget) (twelve : 12 ≤ offset)
    (enough : bodyLength transport.inChunkSize assemblies header ≤ body.length)
    (full : (taken transport.inChunkSize assemblies header body).Full)
    (same : (taken transport.inChunkSize assemblies header body).total = length) :
    budget ≤ offset + bodyLength transport.inChunkSize assemblies header := by
  have paid := needs.paid positive same
  have left := Assembly.feed_missing (pieceLength_le enough)
  have nothing : (taken transport.inChunkSize assemblies header body).missing = 0 := full.missing_eq
  rw [taken, left] at nothing
  rw [nothing, cost, pieceCount_zero] at paid
  rw [bodyLength]
  omega

end Needs

/-- If the first message that a run completes has the length, the run had the
budget. -/
theorem budget_le {transport : RtmpMessageTransport} {assemblies : UInt32 -> Assembly UInt8}
    (sound : Sound transport assemblies) {length budget : Nat}
    (needs : Needs assemblies transport.inChunkSize.toNat length budget) {data : List UInt8}
    {run : Run (Consumer Unit) UInt8 (RecvEvent RtmpMessage)}
    (drained : receiver.drain (receiving transport) data = some run) {msg : RtmpMessage}
    {later : List RtmpMessage} (first : completed run.events = msg :: later)
    (same : msg.rtmpBody.length = length) : budget ≤ data.length := by
  induction size : data.length using Nat.strongRecOn generalizing transport assemblies budget data run with
  | ind size inductionHypothesis =>
      have positive : 0 < transport.inChunkSize.toNat := Nat.lt_of_lt_of_le (by decide) sound.chunkSize_le
      by_cases empty : data = []
      · rw [empty, Incremental.drain_nil, Option.some.injEq] at drained
        rw [← drained] at first
        cases first
      · rcases recvUndecoded_effect sound empty with ⟨result, after, call, effect, soundAfter⟩
        by_cases failed : result.ret < 0
        · rw [Incremental.drain_wait empty (receiver_attempt_failed call failed), Option.some.injEq] at drained
          rw [← drained] at first
          cases first
        · have tried := receiver_attempt call (Int.not_lt.mp failed)
          have bounds := receiver.take_bounds tried
          rw [Incremental.drain_take empty tried] at drained
          rcases Option.map_eq_some_iff.mp drained with ⟨next, rest, shape⟩
          have events : completed [{ consumed := result.ret.toNat, packet := result.message }] ++
              completed next.events = msg :: later := by
            rw [← completed_append, ← first, ← shape]
            rfl
          cases effect with
          | noHeader _ => exact absurd (show (-1 : Int) < 0 by decide) failed
          | refused _ _ => exact absurd (show (-2 : Int) < 0 by decide) failed
          | short _ _ _ _ => exact absurd (show (-1 : Int) < 0 by decide) failed
          | partly decoded _ enough _ =>
              have twelve := (RtmpHeader.decoded_of_decode decoded).twelve_le
              have fewer := inductionHypothesis _ (by rw [List.length_drop]; omega) soundAfter
                (needs.partly positive twelve enough) rest events rfl
              rw [List.length_drop, Int.toNat_natCast] at fewer
              rw [Int.toNat_natCast] at bounds
              omega
          | @completed offset header decoded agrees enough full settled handled =>
              have twelve := (RtmpHeader.decoded_of_decode decoded).twelve_le
              have delivered := (List.cons.inj events).1
              have total : (taken transport.inChunkSize assemblies header (data.drop offset)).total = length := by
                rw [← same, ← delivered]
                exact full.symm
              have paid := needs.completed positive twelve enough full total
              rw [Int.toNat_natCast] at bounds
              omega

/-- One message that has begun, when no other has, needs what it is missing. -/
theorem needs_begun {assemblies : UInt32 -> Assembly UInt8} (empty : forall csId, (assemblies csId).received = [])
    {csId : UInt32} {assembly : Assembly UInt8} {window length taken : Nat}
    (missing : assembly.missing = length - taken) :
    Needs (Function.update assemblies csId assembly) window length (cost window (length - taken)) where
  fresh := cost_mono _ (Nat.sub_le _ _)
  begun := by
    intro other started _
    by_cases here : other = csId
    · rw [here, Function.update_self, missing]
    · rw [Function.update_of_ne here, empty other] at started
      exact absurd rfl started

/-- A message that goes out in several chunks is not the next one to be
completed from its own bytes. -/
theorem receiver_misfit {transport : RtmpMessageTransport} (idle : Idle transport) (header : RtmpHeader)
    {payload : List UInt8} (csLow : 2 ≤ header.chunkStreamId.toNat)
    (csHigh : header.chunkStreamId.toNat < 64) (length : header.msgLength.toNat = payload.length)
    (small : payload.length < 2 ^ 24) (long : transport.inChunkSize.toNat < payload.length)
    {run : Run (Consumer Unit) UInt8 (RecvEvent RtmpMessage)}
    (drained : receiver.drain (receiving transport)
      (messageChunks transport.inChunkSize header payload).flatten = some run)
    {msg : RtmpMessage} {later : List RtmpMessage} (first : completed run.events = msg :: later) :
    msg.rtmpBody.length ≠ payload.length := by
  intro same
  rcases idle with ⟨assemblies, sound, empty⟩
  have positive : 0 < transport.inChunkSize.toNat := Nat.lt_of_lt_of_le (by decide) sound.chunkSize_le
  have nothing := empty header.chunkStreamId
  have piece : (payload.take transport.inChunkSize.toNat).length =
      min header.msgLength.toNat transport.inChunkSize.toNat := by
    rw [List.length_take, length, Nat.min_comm]
  have width : (payload.take transport.inChunkSize.toNat).length = transport.inChunkSize.toNat := by
    rw [piece, length, Nat.min_eq_right (Nat.le_of_lt long)]
  rcases messageChunks_first header long with ⟨fuel, chunks⟩
  have rest := chunkList_length_le positive header payload fuel positive
  generalize (chunkList transport.inChunkSize header payload fuel
    transport.inChunkSize.toNat).flatten = continued at chunks rest
  rcases firstChunk_effect sound nothing csLow csHigh (by rw [length]; exact small) piece continued with
    ⟨result, after, call, counted, soundAfter, effect⟩
  have received : (firstAssembly transport assemblies header (payload.take transport.inChunkSize.toNat)
      continued).received = payload.take transport.inChunkSize.toNat :=
    taken_wireHeader nothing piece continued
  have total : (firstAssembly transport assemblies header (payload.take transport.inChunkSize.toNat)
      continued).total = payload.length := (taken_wireHeader_total nothing _).trans length
  have success : 0 ≤ result.ret := by
    rw [counted]
    exact Int.natCast_nonneg _
  have nonempty : RtmpHeader.fmt0Bytes header ++
      (payload.take transport.inChunkSize.toNat ++ continued) ≠ [] := by
    rw [← List.append_assoc]
    exact wholeBytes_ne_nil header _ continued
  rw [chunks, Incremental.drain_take nonempty (receiver_attempt call success), counted,
    Int.toNat_natCast, ← List.append_assoc, List.drop_left] at drained
  rcases Option.map_eq_some_iff.mp drained with ⟨next, drainedRest, shape⟩
  cases effect with
  | whole full _ _ _ _ =>
      rw [Assembly.Full, received, total, width] at full
      omega
  | begun _ size message =>
      have needs : Needs (Function.update assemblies header.chunkStreamId
          (firstAssembly transport assemblies header (payload.take transport.inChunkSize.toNat) continued))
          result.transport.inChunkSize.toNat payload.length
          (cost transport.inChunkSize.toNat (payload.length - transport.inChunkSize.toNat)) := by
        rw [size]
        apply needs_begun empty
        rw [Assembly.missing, received, total, width]
      have events : completed next.events = msg :: later := by
        rw [← first, ← shape, message]
        rfl
      have budget := budget_le soundAfter needs drainedRest events same
      have pieces := pieceCount_step positive (Nat.sub_pos_of_lt long)
      rw [cost] at budget
      omega

end Client
end RtmpClient
