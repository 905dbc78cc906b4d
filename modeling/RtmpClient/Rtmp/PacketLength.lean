import RtmpClient.Amf0.Written
import RtmpClient.Rtmp.HeaderRoundTrip
import RtmpClient.Rtmp.PacketClasses

namespace RtmpClient
namespace Rtmp

open Library Net Amf0

/-!
# Length agreement

`get_pkg_len` and `encode_pkg` compute the same length in two places.  A body
of AMF0 values has one description, the list of its values, and both functions
follow it; the other bodies are compared one by one.
-/

namespace RtmpPacket

/-- The AMF0 values of the body, in the order in which they are written. -/
def values : RtmpPacket -> List RtmpAmf0Any
  | connect packet => [.string packet.commandName, .number packet.number, .object packet.commandObject]
  | connectResponse packet =>
      [.string packet.commandName, .number packet.number, .object packet.object, .object packet.info]
  | call packet =>
      [.string packet.commandName, .number packet.number] ++ packet.object.toList ++ packet.args.toList
  | callResponse packet =>
      [.string packet.commandName, .number packet.number] ++ packet.object.toList ++ packet.response.toList
  | createStream packet => [.string packet.commandName, .number packet.number, .null]
  | createStreamResponse packet =>
      [.string packet.commandName, .number packet.number, .null, .number packet.streamid]
  | fmleStart packet =>
      [.string packet.commandName, .number packet.number, .null, .string packet.streamName]
  | fmleStartResponse packet => [.string packet.commandName, .number packet.number, .null, .undefined]
  | publish packet =>
      [.string packet.commandName, .number packet.number, .null, .string packet.streamName, .string packet.type]
  | play packet =>
      [.string packet.commandName, .number packet.number, .null, .string packet.streamName] ++
        (if packet.hasStart then [.number packet.start] else []) ++
        (if packet.hasDuration then [.number packet.duration] else []) ++
        (if packet.hasReset then [.boolean packet.reset] else [])
  | playResponse packet => [.string packet.commandName, .number packet.number, .null, .object packet.desc]
  | onBwDone packet => [.string packet.commandName, .number packet.number, .null]
  | onStatusCall packet => [.string packet.commandName, .number packet.number, .null, .object packet.data]
  | onStatusData packet => [.string packet.commandName, .object packet.data]
  | sampleAccess packet =>
      [.string packet.commandName, .boolean packet.videoSampleAccess, .boolean packet.audioSampleAccess]
  | onMetaData packet => [.string packet.commandName, .object packet.metadata]
  | _ => []

attribute [local simp] values

/-- The content that can be encoded: strings and names with a 16-bit length, a
parameter set with its profile bytes, and a NAL unit to send. -/
def Fits (packet : RtmpPacket) : Prop :=
  (forall value, value ∈ packet.values -> value.Short) ∧
    match packet with
    | avc packet => 4 ≤ packet.sps.length
    | video packet => packet.naluItem ≠ []
    | _ => True

/-- These cells are the body: as many as `get_pkg_len` says, and what
`encode_pkg` writes. -/
def Body (packet : RtmpPacket) (cells : List UInt8) : Prop :=
  cells.length = packet.getPkgLen ∧ Emits packet.encodePkg cells

/-- The sum over a list of values, written out as `get_pkg_len` has it. -/
theorem anySize_eq (value : Option RtmpAmf0Any) :
    anySize value = (value.toList.map RtmpAmf0Any.byteSize).sum := by
  cases value with
  | none => rfl
  | some value => exact (Nat.add_zero _).symm

theorem getPkgLen_play (packet : RtmpPlayPacket) :
    packet.getPkgLen = ((play packet).values.map RtmpAmf0Any.byteSize).sum := by
  rw [RtmpPlayPacket.getPkgLen, values]
  cases packet.hasStart <;> cases packet.hasDuration <;> cases packet.hasReset <;>
    simp only [Bool.false_eq_true, if_true, if_false, List.append_nil, List.cons_append, List.nil_append,
      List.map_cons, List.map_nil, List.sum_cons, List.sum_nil, Nat.add_assoc, Nat.add_zero] <;> rfl

theorem encodePkg_play (packet : RtmpPlayPacket) :
    packet.encodePkg = writeAll ((play packet).values.map RtmpAmf0Any.write) := by
  rw [RtmpPlayPacket.encodePkg, values]
  cases packet.hasStart <;> cases packet.hasDuration <;> cases packet.hasReset <;> rfl

theorem getPkgLen_call (packet : RtmpCallPacket) :
    packet.getPkgLen = ((call packet).values.map RtmpAmf0Any.byteSize).sum := by
  rw [RtmpCallPacket.getPkgLen, anySize_eq, anySize_eq, values, List.map_append, List.map_append,
    List.sum_append, List.sum_append]
  rfl

theorem getPkgLen_callResponse (packet : RtmpCallResponsePacket) :
    packet.getPkgLen = ((callResponse packet).values.map RtmpAmf0Any.byteSize).sum := by
  rw [RtmpCallResponsePacket.getPkgLen, anySize_eq, anySize_eq, values, List.map_append, List.map_append,
    List.sum_append, List.sum_append]
  rfl

theorem encodePkg_call (packet : RtmpCallPacket) : packet.encodePkg = fun size =>
    (writeAll ((call packet).values.map RtmpAmf0Any.write) size).errorAs (-1) := by
  rw [values, List.map_append, List.map_append]
  rfl

theorem encodePkg_callResponse (packet : RtmpCallResponsePacket) :
    packet.encodePkg = writeAll ((callResponse packet).values.map RtmpAmf0Any.write) := by
  rw [values, List.map_append, List.map_append]
  rfl

/-- Both functions follow the list of values.  Two classes answer every error
with a code of their own. -/
theorem follows_values {packet : RtmpPacket} (described : packet.values ≠ []) :
    packet.getPkgLen = (packet.values.map RtmpAmf0Any.byteSize).sum ∧
      (packet.encodePkg = writeAll (packet.values.map RtmpAmf0Any.write) ∨
        packet.encodePkg = fun size => (writeAll (packet.values.map RtmpAmf0Any.write) size).errorAs (-1)) := by
  cases packet with
  | audio packet => exact absurd rfl described
  | avc packet => exact absurd rfl described
  | video packet => exact absurd rfl described
  | setWindowAckSize packet => exact absurd rfl described
  | acknowledgement packet => exact absurd rfl described
  | setChunkSize packet => exact absurd rfl described
  | setPeerBandwidth packet => exact absurd rfl described
  | userControl packet => exact absurd rfl described
  | closeStream packet => exact absurd rfl described
  | pause packet => exact absurd rfl described
  | play packet => exact ⟨getPkgLen_play packet, Or.inl (encodePkg_play packet)⟩
  | call packet => exact ⟨getPkgLen_call packet, Or.inr (encodePkg_call packet)⟩
  | callResponse packet => exact ⟨getPkgLen_callResponse packet, Or.inl (encodePkg_callResponse packet)⟩
  | _ =>
      refine ⟨?_, Or.inl rfl⟩
      simp only [getPkgLen, RtmpConnectPacket.getPkgLen, RtmpConnectResponsePacket.getPkgLen,
        RtmpCreateStreamPacket.getPkgLen, RtmpCreateStreamResponsePacket.getPkgLen,
        RtmpFmleStartPacket.getPkgLen, RtmpFmleStartResponsePacket.getPkgLen, RtmpPublishPacket.getPkgLen,
        RtmpPlayResponsePacket.getPkgLen, RtmpOnBwDonePacket.getPkgLen, RtmpOnStatusCallPacket.getPkgLen,
        RtmpOnStatusDataPacket.getPkgLen, RtmpSampleAccessPacket.getPkgLen, RtmpOnMetaDataPacket.getPkgLen,
        values, List.map_cons, List.map_nil, List.sum_cons, List.sum_nil, Nat.add_zero, Nat.add_assoc]
      rfl

/-- The encodings of the values are as long as `get_pkg_len` says. -/
theorem encodings_length {packet : RtmpPacket} (described : packet.values ≠ []) :
    (packet.values.flatMap RtmpAmf0Any.encoding).length = packet.getPkgLen := by
  have lengths : packet.values.map (fun value => value.encoding.length) =
      packet.values.map RtmpAmf0Any.byteSize :=
    List.map_congr_left fun value _ => value.encoding_length
  rw [List.length_flatMap, (follows_values described).1, lengths]

/-- The body of a packet with values is their encodings. -/
theorem body_values {packet : RtmpPacket} (described : packet.values ≠ [])
    (short : forall value, value ∈ packet.values -> value.Short) (inInt : packet.getPkgLen < 2 ^ 31) :
    packet.Body (packet.values.flatMap RtmpAmf0Any.encoding) := by
  have length := encodings_length described
  have inside (value : RtmpAmf0Any) (member : value ∈ packet.values) : value.byteSize < 2 ^ 31 := by
    have part := length_encode_le RtmpAmf0Any.encoding member
    rw [value.encoding_length] at part
    omega
  have emits : Emits (writeAll (packet.values.map RtmpAmf0Any.write))
      (packet.values.flatMap RtmpAmf0Any.encoding) :=
    writeAll_emits fun value member => RtmpAmf0Any.Short.emits (short value member) (inside value member)
  constructor
  · exact length
  · rcases (follows_values described).2 with same | checked
    · rw [same]
      exact emits
    · rw [checked]
      exact emits.errorAs (-1)

/-- Every packet that fits has a body. -/
theorem body_exists {packet : RtmpPacket} (fits : packet.Fits) (inInt : packet.getPkgLen < 2 ^ 31) :
    Exists packet.Body := by
  by_cases described : packet.values = []
  · cases packet with
    | audio packet => exact packet.encodePkg_emits
    | avc packet => exact RtmpAvcPacket.encodePkg_emits fits.2
    | video packet => exact RtmpVideoPacket.encodePkg_emits fits.2
    | setWindowAckSize packet => exact ⟨_, writeInt32_length _, writeChecked_emits (writeInt32_length _)⟩
    | acknowledgement packet => exact ⟨_, writeInt32_length _, writeChecked_emits (writeInt32_length _)⟩
    | setChunkSize packet => exact ⟨_, writeInt32_length _, writeChecked_emits (writeInt32_length _)⟩
    | setPeerBandwidth packet => exact ⟨_, rfl, writeChecked_emits rfl⟩
    | userControl packet => exact ⟨_, packet.body_length, writeChecked_emits packet.body_length⟩
    | closeStream packet => exact ⟨[], rfl, fun _ _ => rfl⟩
    | pause packet => exact ⟨[], rfl, fun _ _ => rfl⟩
    | _ => exact absurd described (List.cons_ne_nil _ _)
  · exact ⟨_, body_values described fits.1 inInt⟩

/-- The body is what `encode` leaves, whatever the memory held before. -/
theorem Body.encode_eq {packet : RtmpPacket} {cells fresh : List UInt8} (body : packet.Body cells)
    (block : fresh.length = packet.getPkgLen) : packet.encode fresh = .ok cells := by
  rcases body with ⟨length, emits⟩
  have whole := emits packet.getPkgLen (Nat.le_of_eq length)
  have full : cells.length = fresh.length := length.trans block.symm
  rw [encode]
  split
  · rw [whole, Outcome.errorAs_ok, Outcome.ok_bind_do, overlay_full full]
    rfl
  next empty =>
    have none : cells = [] := List.eq_nil_of_length_eq_zero (by omega)
    rw [none]

theorem Body.payload_eq {packet : RtmpPacket} {cells : List UInt8} (body : packet.Body cells) :
    packet.payload = some cells := by
  rw [payload, body.encode_eq List.length_replicate]

/-- A packet with values is encoded in any case, however long its strings are. -/
theorem payload_of_values {packet : RtmpPacket} (described : packet.values ≠ []) :
    packet.payload.isSome = true := by
  rcases follows_values described with ⟨size, writes⟩
  have ends : EndsWithin (writeAll (packet.values.map RtmpAmf0Any.write)) packet.getPkgLen := by
    rw [size]
    exact .all fun value _ => value.write_takes.endsWithin value.byteSize_reached
  have encodes : EndsWithin packet.encodePkg packet.getPkgLen := by
    rcases writes with same | checked
    · rw [same]
      exact ends
    · rw [checked]
      exact ends.errorAs (-1)
  rcases encodes packet.getPkgLen (Nat.le_refl _) with ⟨cells, written, _⟩
  rw [payload, encode]
  split
  · rfl
  next failed =>
    exfalso
    rw [written] at failed
    split at failed
    · exact failed _ rfl
    · exact failed _ rfl

/-- The three bytes that tell the length in the header of a first chunk. -/
def lengthBytes (bytes : List UInt8) : List UInt8 := (bytes.drop 4).take 3

/-- They have room for 24 bits of it. -/
theorem lengthBytes_encode (pkg : RtmpBasePacket) (streamid : UInt32) : Exists fun bytes =>
    (packetHeader pkg streamid).encode rtmpChunkFmt0HeaderMaxSize = .ok bytes ∧
      beValue (lengthBytes bytes) = pkg.getPkgLen % 2 ^ 24 := by
  refine ⟨_, RtmpHeader.encode_fmt0 rfl, ?_⟩
  have place : lengthBytes (RtmpHeader.fmt0Bytes (packetHeader pkg streamid)) =
      RtmpHeader.msgLengthBytes (packetHeader pkg streamid).msgLength := by
    have before := RtmpHeader.timestampBytes_length (packetHeader pkg streamid).timestamp
    have front : ([RtmpHeader.baseHeaderByte 0x00 (packetHeader pkg streamid).chunkStreamId] ++
        RtmpHeader.timestampBytes (packetHeader pkg streamid).timestamp).length = 4 := by
      rw [List.length_append, before, List.length_singleton]
    rw [lengthBytes, RtmpHeader.fmt0Bytes, List.append_assoc, List.append_assoc, List.append_assoc, ← front,
      List.drop_left]
    rfl
  have value : beValue (RtmpHeader.msgLengthBytes (packetHeader pkg streamid).msgLength) =
      (packetHeader pkg streamid).msgLength.toNat % 256 ^ 3 := beValue_beBytes 3 _
  have header : (packetHeader pkg streamid).msgLength.toNat = pkg.getPkgLen % 2 ^ 32 := UInt32.toNat_ofNat'
  rw [place, value, header]
  omega

/-- Length agreement.  On `get_pkg_len` bytes `encode_pkg` succeeds and writes
every one of them, none beyond: what `encode` hands out does not depend on what
the memory held.  The length in the header of the first chunk is the number of
these bytes if it has 24 bits. -/
theorem encode_fills {packet : RtmpPacket} (fits : packet.Fits) (small : packet.getPkgLen < 2 ^ 31) :
    Exists fun cells => cells.length = packet.getPkgLen ∧
      packet.encodePkg packet.getPkgLen = .ok cells ∧
      (forall fresh, fresh.length = packet.getPkgLen -> packet.encode fresh = .ok cells) ∧
      packet.toBase.payload = some cells ∧
      forall streamid, Exists fun bytes =>
        (packetHeader packet.toBase streamid).encode rtmpChunkFmt0HeaderMaxSize = .ok bytes ∧
          (beValue (lengthBytes bytes) = cells.length ↔ packet.getPkgLen < 2 ^ 24) := by
  rcases body_exists fits small with ⟨cells, body⟩
  refine ⟨cells, body.1, body.2 _ (Nat.le_of_eq body.1), fun fresh => body.encode_eq, body.payload_eq,
    fun streamid => ?_⟩
  rcases lengthBytes_encode packet.toBase streamid with ⟨bytes, encoded, length⟩
  refine ⟨bytes, encoded, ?_⟩
  have same : packet.toBase.getPkgLen = packet.getPkgLen := rfl
  rw [length, same, body.1]
  omega

/-- A call without an object and with a nested argument. -/
theorem encode_fills_call :
    let packet := call { RtmpCallPacket.new with
      commandName := ascii "seek", args := some (.strictArray 7 [.object [(ascii "to", .number 9)], .null]) }
    Exists fun cells => cells.length = packet.getPkgLen ∧
      packet.encodePkg packet.getPkgLen = .ok cells ∧
      (forall fresh, fresh.length = packet.getPkgLen -> packet.encode fresh = .ok cells) ∧
      packet.toBase.payload = some cells ∧
      forall streamid, Exists fun bytes =>
        (packetHeader packet.toBase streamid).encode rtmpChunkFmt0HeaderMaxSize = .ok bytes ∧
          (beValue (lengthBytes bytes) = cells.length ↔ packet.getPkgLen < 2 ^ 24) := by
  intro packet
  have nameLength : (ascii "seek").length ≤ 32767 := by decide
  have keyLength : (ascii "to").length ≤ 32767 := by decide
  have name : (RtmpAmf0Any.string (ascii "seek")).Short := .leaf nameLength rfl
  have object : (RtmpAmf0Any.object [(ascii "to", .number 9)]).Short := by
    refine .intro (List.forall_mem_cons.mpr ⟨keyLength, List.forall_mem_nil _⟩) ?_
    exact List.forall_mem_cons.mpr ⟨.leaf trivial rfl, List.forall_mem_nil _⟩
  have argument : (RtmpAmf0Any.strictArray 7 [.object [(ascii "to", .number 9)], .null]).Short := by
    refine .intro trivial ?_
    exact List.forall_mem_cons.mpr ⟨object, List.forall_mem_cons.mpr ⟨.leaf trivial rfl,
      List.forall_mem_nil _⟩⟩
  have each : forall value, value ∈ packet.values -> value.Short :=
    List.forall_mem_cons.mpr ⟨name, List.forall_mem_cons.mpr ⟨.leaf trivial rfl,
      List.forall_mem_cons.mpr ⟨argument, List.forall_mem_nil _⟩⟩⟩
  exact encode_fills ⟨each, trivial⟩ (by decide)

/-- Audio with a body of 2^24 bytes: the length in the chunk header is 0. -/
theorem encode_fills_beyond :
    ¬ forall packet : RtmpPacket, packet.Fits -> packet.getPkgLen < 2 ^ 31 -> forall streamid,
      Exists fun cells => packet.toBase.payload = some cells ∧ Exists fun bytes =>
        (packetHeader packet.toBase streamid).encode rtmpChunkFmt0HeaderMaxSize = .ok bytes ∧
          beValue (lengthBytes bytes) = cells.length := by
  intro claimed
  have some : Exists fun data : List UInt8 => data.length = 2 ^ 24 - 1 := ⟨List.replicate _ 0, List.length_replicate⟩
  rcases some with ⟨data, long⟩
  have length : (audio ⟨0, 0, data⟩).getPkgLen = 2 ^ 24 := by
    show 1 + data.length = 2 ^ 24
    omega
  have inInt : (audio ⟨0, 0, data⟩).getPkgLen < 2 ^ 31 := by omega
  have fits : (audio ⟨0, 0, data⟩).Fits := ⟨fun _ nothing => absurd nothing List.not_mem_nil, trivial⟩
  rcases claimed _ fits inInt 0 with ⟨cells, payload, bytes, encoded, same⟩
  rcases body_exists fits inInt with ⟨written, body⟩
  rcases lengthBytes_encode (audio ⟨0, 0, data⟩).toBase 0 with ⟨bytes', encoded', short⟩
  have base : (audio ⟨0, 0, data⟩).toBase.getPkgLen = 2 ^ 24 := length
  rw [base] at short
  rw [Outcome.ok.inj (encoded.symm.trans encoded'), Option.some.inj (payload.symm.trans body.payload_eq), body.1, length,
    short] at same
  omega

end RtmpPacket

end Rtmp
end RtmpClient
