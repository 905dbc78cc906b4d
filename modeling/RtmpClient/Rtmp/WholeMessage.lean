import RtmpClient.Rtmp.HeaderRoundTrip
import RtmpClient.Rtmp.Receive

namespace RtmpClient
namespace Rtmp

open Library

/-!
# A message that arrives in one chunk

When no message is in progress on its stream, the first chunk of a message is
taken at once.  A payload that fits the receive chunk size is complete then.
-/

/-! ## What the settings become -/

/-- A chunk size is taken over unless it is below the default as an unsigned number. -/
theorem onRecvMessage_setChunkSize {transport after : RtmpMessageTransport} {msg : RtmpMessage}
    (kind : msg.rtmpHeader.msgTypeId = rtmpMsgSetChunkSize) {packet : RtmpSetChunkSizePacket}
    (body : msg.rtmpBody = packet.encodePkg) (length : msg.rtmpBodyLen = 4)
    (handled : onRecvMessage transport msg = .ok after) :
    after.inChunkSize =
      if packet.chunkSize.toUInt32 < rtmpDefaultChunksize then transport.inChunkSize
      else packet.chunkSize.toUInt32 := by
  have decoded : RtmpSetChunkSizePacket.new.decode msg.rtmpBody (asInt msg.rtmpBodyLen) =
      .ok (4, packet) := by
    have encoded := RtmpSetChunkSizePacket.decode_encodePkg RtmpSetChunkSizePacket.new packet []
      (show (4 : Int) ≤ asInt 4 by decide)
    rw [List.append_nil] at encoded
    rw [body, length]
    exact encoded
  unfold onRecvMessage at handled
  rw [if_pos kind, decoded] at handled
  by_cases low : packet.chunkSize.toUInt32 < rtmpDefaultChunksize
  · simp only [low, if_true, Outcome.ok.injEq] at handled
    rw [if_pos low, handled]
  · simp only [low, if_false, Outcome.ok.injEq] at handled
    rw [if_neg low, ← handled]

/-! ## The first chunk of a message -/

section FirstChunk

variable {transport : RtmpMessageTransport} {assemblies : UInt32 -> Assembly UInt8} {header : RtmpHeader}
variable {piece : List UInt8}

theorem announced_wireHeader (idle : (assemblies header.chunkStreamId).received = []) :
    announced assemblies (RtmpHeader.wireHeader header) = Assembly.start header.msgLength.toNat :=
  Assembly.announce_idle (List.length_eq_zero_iff.mpr idle) header.msgLength.toNat

theorem fieldLength_wireHeader (header : RtmpHeader) :
    fieldLength (RtmpHeader.wireHeader header).timestamp = fieldLength header.timestamp := by
  unfold fieldLength
  simp only [RtmpHeader.wireHeader_extended]

theorem agrees_wireHeader (idle : (assemblies header.chunkStreamId).received = []) :
    Agrees assemblies (RtmpHeader.wireHeader header) := by
  intro started
  exact absurd (List.length_eq_zero_iff.mpr idle) started

theorem bodyLength_wireHeader (idle : (assemblies header.chunkStreamId).received = [])
    (length : piece.length = min header.msgLength.toNat transport.inChunkSize.toNat) :
    bodyLength transport.inChunkSize assemblies (RtmpHeader.wireHeader header) =
      fieldLength header.timestamp + piece.length := by
  rw [bodyLength, fieldLength_wireHeader, announced_wireHeader idle, length]
  rfl

/-- The first chunk leaves its piece of the payload. -/
theorem taken_wireHeader (idle : (assemblies header.chunkStreamId).received = [])
    (length : piece.length = min header.msgLength.toNat transport.inChunkSize.toNat) (rest : List UInt8) :
    (taken transport.inChunkSize assemblies (RtmpHeader.wireHeader header)
      (RtmpHeader.extendedTimestampBytes header.timestamp ++ (piece ++ rest))).received = piece := by
  have behind : (RtmpHeader.extendedTimestampBytes header.timestamp ++ (piece ++ rest)).drop
      (fieldLength header.timestamp) = piece ++ rest := by
    rw [← RtmpHeader.extendedTimestampBytes_length, List.drop_left]
  have whole : (Assembly.start header.msgLength.toNat : Assembly UInt8).pieceLength
      transport.inChunkSize.toNat = piece.length := length.symm
  rw [taken, fieldLength_wireHeader, behind, announced_wireHeader idle, Assembly.feed_received, whole,
    List.take_left]
  rfl

theorem taken_wireHeader_total (idle : (assemblies header.chunkStreamId).received = [])
    (body : List UInt8) :
    (taken transport.inChunkSize assemblies (RtmpHeader.wireHeader header) body).total =
      header.msgLength.toNat := by
  rw [taken, Assembly.feed_total, announced_wireHeader idle]
  rfl

/-- The timestamp of a stream once a format-0 chunk is taken. -/
theorem takenChunk_timestamp (fmt0 : header.chunkType = rtmpChunkFmt0Type) (body : List UInt8) :
    (takenChunk transport assemblies header body).h.timestamp =
      fieldTimestamp header.timestamp
        (nextTimestamp header (transport.chunkCache header.chunkStreamId)) body := by
  rw [← withHeader_timeDelta fmt0 (transport.chunkCache header.chunkStreamId)]
  rfl

/-- The receiver keeps the sender's timestamp, from the three bytes or from the
extended field. -/
theorem takenChunk_wireHeader_timestamp (small : header.timestamp.toNat < 2 ^ 31) (rest : List UInt8) :
    (takenChunk transport assemblies (RtmpHeader.wireHeader header)
      (RtmpHeader.extendedTimestampBytes header.timestamp ++ rest)).h.timestamp = header.timestamp := by
  rw [takenChunk_timestamp rfl, fieldTimestamp]
  by_cases extended : header.timestamp ≥ rtmpExtendedTimestamp
  · have field := RtmpHeader.extendedTimestampBytes_eq extended
    have read : ((RtmpHeader.extendedTimestampBytes header.timestamp ++ rest).take 4) =
        beBytes 4 header.timestamp.toNat := by
      rw [field, List.take_left' (beBytes_length 4 header.timestamp.toNat)]
    rw [if_pos ((RtmpHeader.wireHeader_extended header).mpr extended), read]
    exact RtmpHeader.extendedTimestamp_read small
  · have same : (RtmpHeader.wireHeader header).timestamp = header.timestamp := if_neg extended
    have noField : ¬ (RtmpHeader.wireHeader header).timestamp ≥ rtmpExtendedTimestamp := by
      rw [same]
      exact extended
    have fmt2 : (RtmpHeader.wireHeader header).chunkType ≤ rtmpChunkFmt2Type :=
      show (0 : UInt8) ≤ 2 by decide
    have fmt0 : (RtmpHeader.wireHeader header).chunkType = rtmpChunkFmt0Type := rfl
    rw [if_neg noField, nextTimestamp, if_pos fmt2, if_pos (UInt32.not_le.mp noField), if_pos fmt0, same]

/-- What is behind the twelve bytes that `decode` reads. -/
def wireBody (header : RtmpHeader) (piece rest : List UInt8) : List UInt8 :=
  RtmpHeader.extendedTimestampBytes header.timestamp ++ (piece ++ rest)

/-- The chunk stream once the first chunk of a message is taken. -/
def firstTaken (transport : RtmpMessageTransport) (assemblies : UInt32 -> Assembly UInt8)
    (header : RtmpHeader) (piece rest : List UInt8) : RtmpChunkData :=
  takenChunk transport assemblies (RtmpHeader.wireHeader header) (wireBody header piece rest)

/-- The message so far once its first chunk is taken. -/
def firstAssembly (transport : RtmpMessageTransport) (assemblies : UInt32 -> Assembly UInt8)
    (header : RtmpHeader) (piece rest : List UInt8) : Assembly UInt8 :=
  taken transport.inChunkSize assemblies (RtmpHeader.wireHeader header) (wireBody header piece rest)

/-- The two things the first chunk of a message can do. -/
inductive FirstChunkEffect (transport : RtmpMessageTransport) (assemblies : UInt32 -> Assembly UInt8)
    (header : RtmpHeader) (piece rest : List UInt8) (result : RecvResult) :
    (UInt32 -> Assembly UInt8) -> Prop where
  | whole (full : (firstAssembly transport assemblies header piece rest).Full)
      (settled : RtmpMessageTransport)
      (handled : onRecvMessage
          (transport.setChunk header.chunkStreamId (firstTaken transport assemblies header piece rest))
          (firstTaken transport assemblies header piece rest).createMsg = .ok settled)
      (size : result.transport.inChunkSize = settled.inChunkSize)
      (message : result.message = some (firstTaken transport assemblies header piece rest).createMsg) :
      FirstChunkEffect transport assemblies header piece rest result
        (Function.update assemblies header.chunkStreamId (Assembly.start header.msgLength.toNat))
  | begun (unfinished : ¬ (firstAssembly transport assemblies header piece rest).Full)
      (size : result.transport.inChunkSize = transport.inChunkSize) (message : result.message = none) :
      FirstChunkEffect transport assemblies header piece rest result
        (Function.update assemblies header.chunkStreamId
          (firstAssembly transport assemblies header piece rest))

/-- A call on the first chunk of a message takes the chunk. -/
theorem firstChunk_effect (sound : Sound transport assemblies)
    (idle : (assemblies header.chunkStreamId).received = []) (csLow : 2 ≤ header.chunkStreamId.toNat)
    (csHigh : header.chunkStreamId.toNat < 64) (small : header.msgLength.toNat < 2 ^ 24)
    (length : piece.length = min header.msgLength.toNat transport.inChunkSize.toNat) (rest : List UInt8) :
    Exists fun result => Exists fun after =>
      recvUndecoded transport (RtmpHeader.fmt0Bytes header ++ (piece ++ rest)) = some result ∧
      result.ret = ((RtmpHeader.fmt0Bytes header ++ piece).length : Nat) ∧ Sound result.transport after ∧
      FirstChunkEffect transport assemblies header piece rest result after := by
  rcases RtmpHeader.decode_fmt0Bytes csLow csHigh small (piece ++ rest) with ⟨decoded, behind⟩
  have nonempty : RtmpHeader.fmt0Bytes header ++ (piece ++ rest) ≠ [] := by
    intro empty
    have length := congrArg List.length empty
    rw [List.length_append, RtmpHeader.fmt0Bytes_length, List.length_nil] at length
    omega
  have body := bodyLength_wireHeader idle length
  have available : bodyLength transport.inChunkSize assemblies (RtmpHeader.wireHeader header) ≤
      (wireBody header piece rest).length := by
    rw [body, wireBody, List.length_append, List.length_append, RtmpHeader.extendedTimestampBytes_length]
    omega
  have consumed : 12 + bodyLength transport.inChunkSize assemblies (RtmpHeader.wireHeader header) =
      (RtmpHeader.fmt0Bytes header ++ piece).length := by
    rw [body, List.length_append, RtmpHeader.fmt0Bytes_length]
    omega
  rcases recvUndecoded_effect sound nonempty with ⟨result, after, call, effect, soundAfter⟩
  refine ⟨result, after, call, ?_⟩
  cases effect with
  | noHeader incomplete =>
      rw [decoded] at incomplete
      cases incomplete
  | refused decodedToo disagrees =>
      rw [decoded, Outcome.ok.injEq, Prod.mk.injEq] at decodedToo
      rcases decodedToo with ⟨rfl, rfl⟩
      exact absurd (agrees_wireHeader idle) disagrees
  | short decodedToo _ incomplete _ =>
      rw [decoded, Outcome.ok.injEq, Prod.mk.injEq] at decodedToo
      rcases decodedToo with ⟨rfl, rfl⟩
      rw [behind] at incomplete
      exact absurd available (Nat.not_le.mpr incomplete)
  | partly decodedToo _ _ unfinished =>
      rw [decoded, Outcome.ok.injEq, Prod.mk.injEq] at decodedToo
      rcases decodedToo with ⟨rfl, rfl⟩
      rw [behind] at unfinished soundAfter ⊢
      exact ⟨congrArg Int.ofNat consumed, soundAfter, FirstChunkEffect.begun unfinished rfl rfl⟩
  | completed decodedToo _ _ full settled handled =>
      rw [decoded, Outcome.ok.injEq, Prod.mk.injEq] at decodedToo
      rcases decodedToo with ⟨rfl, rfl⟩
      rw [behind] at full handled soundAfter ⊢
      rw [taken_wireHeader_total idle] at soundAfter ⊢
      exact ⟨congrArg Int.ofNat consumed, soundAfter,
        FirstChunkEffect.whole full settled handled rfl rfl⟩

/-- What the receiver makes of a sent message. -/
structure Delivered (header : RtmpHeader) (payload : List UInt8) (msg : RtmpMessage) : Prop where
  chunkStreamId_eq : msg.rtmpHeader.chunkStreamId = header.chunkStreamId
  timestamp_eq : header.timestamp.toNat < 2 ^ 31 -> msg.rtmpHeader.timestamp = header.timestamp
  msgLength_eq : msg.rtmpHeader.msgLength = header.msgLength
  msgTypeId_eq : msg.rtmpHeader.msgTypeId = header.msgTypeId
  body_eq : msg.rtmpBody = payload
  bodyLen_eq : msg.rtmpBodyLen = header.msgLength

theorem firstTaken_delivered (idle : (assemblies header.chunkStreamId).received = [])
    (sound : Sound transport assemblies)
    (length : piece.length = min header.msgLength.toNat transport.inChunkSize.toNat) (rest : List UInt8) :
    Delivered header piece (firstTaken transport assemblies header piece rest).createMsg := by
  have accepted : ¬ lengthRefused (RtmpHeader.wireHeader header)
      (transport.chunkCache header.chunkStreamId) := by
    intro refused
    have started := ((sound.holds header.chunkStreamId).refused_iff rfl).mp refused
    exact started.1 (List.length_eq_zero_iff.mpr idle)
  have fmt1 : (RtmpHeader.wireHeader header).chunkType ≤ rtmpChunkFmt1Type :=
    show (0 : UInt8) ≤ 1 by decide
  have takes : takesMessage (RtmpHeader.wireHeader header) (transport.chunkCache header.chunkStreamId) :=
    ⟨fmt1, accepted⟩
  have msgLength : (nextHeader (RtmpHeader.wireHeader header)
      (transport.chunkCache header.chunkStreamId)).msgLength = header.msgLength := if_pos takes
  have msgTypeId : (nextHeader (RtmpHeader.wireHeader header)
      (transport.chunkCache header.chunkStreamId)).msgTypeId = header.msgTypeId := if_pos takes
  have timestamp : header.timestamp.toNat < 2 ^ 31 ->
      (firstTaken transport assemblies header piece rest).h.timestamp = header.timestamp :=
    fun small => takenChunk_wireHeader_timestamp small (piece ++ rest)
  exact
    { chunkStreamId_eq := rfl
      timestamp_eq := timestamp
      msgLength_eq := msgLength
      msgTypeId_eq := msgTypeId
      body_eq := taken_wireHeader idle length rest
      bodyLen_eq := msgLength }

/-- The message stream id is not taken from the header. -/
theorem firstTaken_msgStreamId (csLow : 2 ≤ header.chunkStreamId.toNat) (rest : List UInt8) :
    (firstTaken transport assemblies header piece rest).createMsg.rtmpHeader.msgStreamId =
      (transport.chunkCache header.chunkStreamId).h.msgStreamId := by
  have notZero : ¬ header.chunkStreamId = 0 := by
    intro zero
    rw [zero] at csLow
    exact absurd csLow (by decide)
  exact if_neg (fun copied => notZero copied.2)

end FirstChunk

/-! ## Between messages -/

/-- No message is in progress on any stream. -/
def Idle (transport : RtmpMessageTransport) : Prop :=
  Exists fun assemblies : UInt32 -> Assembly UInt8 =>
    Sound transport assemblies ∧ forall csId, (assemblies csId).received = []

theorem Idle.new (stale : UInt32 -> UInt32) : Idle (RtmpMessageTransport.new stale) :=
  ⟨_, Sound.new stale, fun _ => rfl⟩

/-- A message was received whole: what was handed over, and that the receiver
waits for the next one. -/
structure WholeReceived (transport : RtmpMessageTransport) (header : RtmpHeader) (payload : List UInt8)
    (result : RecvResult) (msg : RtmpMessage) : Prop where
  ret_eq : result.ret = ((RtmpHeader.fmt0Bytes header ++ payload).length : Nat)
  message_eq : result.message = some msg
  delivered : Delivered header payload msg
  msgStreamId_eq : msg.rtmpHeader.msgStreamId = (transport.chunkCache header.chunkStreamId).h.msgStreamId
  idle : Idle result.transport
  settings : Exists fun before => Exists fun settled =>
    before.inChunkSize = transport.inChunkSize ∧ onRecvMessage before msg = .ok settled ∧
      result.transport.inChunkSize = settled.inChunkSize

/-- A message that fits the chunk size is received by one call. -/
theorem recv_wholeMessage {transport : RtmpMessageTransport} (idle : Idle transport) (header : RtmpHeader)
    {payload : List UInt8} (csLow : 2 ≤ header.chunkStreamId.toNat)
    (csHigh : header.chunkStreamId.toNat < 64) (length : header.msgLength.toNat = payload.length)
    (small : payload.length < 2 ^ 24) (fits : payload.length ≤ transport.inChunkSize.toNat)
    (rest : List UInt8) :
    Exists fun result => Exists fun msg =>
      recvUndecoded transport (RtmpHeader.fmt0Bytes header ++ (payload ++ rest)) = some result ∧
        WholeReceived transport header payload result msg := by
  rcases idle with ⟨assemblies, sound, empty⟩
  have piece : payload.length = min header.msgLength.toNat transport.inChunkSize.toNat := by
    rw [length, Nat.min_eq_left fits]
  have nothing := empty header.chunkStreamId
  rcases firstChunk_effect sound nothing csLow csHigh (by rw [length]; exact small) piece rest with
    ⟨result, after, call, counted, soundAfter, effect⟩
  have full : (firstAssembly transport assemblies header payload rest).Full := by
    rw [Assembly.Full, firstAssembly, taken_wireHeader_total nothing, wireBody,
      taken_wireHeader nothing piece, length]
  cases effect with
  | begun unfinished _ _ => exact absurd full unfinished
  | whole _ settled handled size message =>
      have between : Idle result.transport := by
        refine ⟨_, soundAfter, ?_⟩
        intro other
        by_cases same : other = header.chunkStreamId
        · rw [same, Function.update_self]
          rfl
        · rw [Function.update_of_ne same]
          exact empty other
      refine ⟨result, (firstTaken transport assemblies header payload rest).createMsg, call, ?_⟩
      exact
        { ret_eq := counted
          message_eq := message
          delivered := firstTaken_delivered nothing sound piece rest
          msgStreamId_eq := firstTaken_msgStreamId csLow rest
          idle := between
          settings := ⟨_, settled, RtmpMessageTransport.setChunk_inChunkSize _ _ _, handled, size⟩ }

namespace WholeReceived

variable {transport : RtmpMessageTransport} {header : RtmpHeader} {payload : List UInt8}
variable {result : RecvResult} {msg : RtmpMessage}

theorem inChunkSize_other (received : WholeReceived transport header payload result msg)
    (other : header.msgTypeId ≠ rtmpMsgSetChunkSize) :
    result.transport.inChunkSize = transport.inChunkSize := by
  rcases received.settings with ⟨before, settled, sameSize, handled, size⟩
  have kind : msg.rtmpHeader.msgTypeId ≠ rtmpMsgSetChunkSize := by
    rw [received.delivered.msgTypeId_eq]
    exact other
  rw [size, onRecvMessage_inChunkSize kind handled, sameSize]

theorem inChunkSize_set (received : WholeReceived transport header payload result msg)
    (setChunkSize : header.msgTypeId = rtmpMsgSetChunkSize) {packet : RtmpSetChunkSizePacket}
    (body : payload = packet.encodePkg) (length : header.msgLength.toNat = payload.length) :
    result.transport.inChunkSize =
      if packet.chunkSize.toUInt32 < rtmpDefaultChunksize then transport.inChunkSize
      else packet.chunkSize.toUInt32 := by
  rcases received.settings with ⟨before, settled, sameSize, handled, size⟩
  have kind : msg.rtmpHeader.msgTypeId = rtmpMsgSetChunkSize := by
    rw [received.delivered.msgTypeId_eq, setChunkSize]
  have content : msg.rtmpBody = packet.encodePkg := by
    rw [received.delivered.body_eq, body]
  have four : msg.rtmpBodyLen = 4 := by
    apply UInt32.toNat.inj
    rw [received.delivered.bodyLen_eq, length, body]
    exact Net.writeInt32_length packet.chunkSize
  rw [size, onRecvMessage_setChunkSize kind content four handled, sameSize]

end WholeReceived

end Rtmp
end RtmpClient
