import RtmpClient.Library.Returns
import RtmpClient.Net.WsHeader

namespace RtmpClient
namespace Net

open Library

/-!
# Frames of `WebSocketProtocolBase`

What `encodeData` appends, and what `decodeData` finds in it.  The header
announces all of the data, and only the opcodes of text and binary frames put
it behind the header.
-/

/-! ## What a header takes of the bytes in front of it -/

theorem readLen_inside {header : List UInt8} {shifts : List Nat} {offset : Nat} {len value : UInt64}
    (inside : offset ≤ header.length) (found : WsHeader.readLen header offset shifts len = .ok value) :
    offset + shifts.length ≤ header.length := by
  induction shifts generalizing offset len with
  | nil => exact inside
  | cons shift shifts inductionHypothesis =>
      rcases Outcome.bind_eq_ok found with ⟨byte, cell, rest⟩
      rcases Outcome.bind_eq_ok rest with ⟨part, -, later⟩
      have behind := inductionHypothesis (Outcome.lt_of_read cell) later
      rw [List.length_cons]
      omega

theorem decodeLen_inside {header : List UInt8} {code len : UInt64} {offset : Nat} (two : 2 ≤ header.length)
    (found : WsHeader.decodeLen header code = .ok (len, offset)) :
    2 ≤ offset ∧ offset ≤ 10 ∧ offset ≤ header.length := by
  rw [WsHeader.decodeLen] at found
  split at found
  · rcases Outcome.bind_eq_ok found with ⟨value, read, last⟩
    have inside := readLen_inside two read
    cases last
    exact ⟨by decide, by decide, inside⟩
  · split at found
    · rcases Outcome.bind_eq_ok found with ⟨value, read, last⟩
      have inside := readLen_inside two read
      cases last
      exact ⟨by decide, by decide, inside⟩
    · cases found
      exact ⟨by decide, by decide, two⟩

/-- A header is read to its end before its length is known. -/
theorem decode_inside {self header : WsHeader} {data : List UInt8} {hlen : Nat}
    (found : self.decode data = .ok (header, hlen)) : 2 ≤ hlen ∧ hlen ≤ 14 ∧ hlen ≤ data.length := by
  rcases Outcome.bind_eq_ok found with ⟨first, -, rest⟩
  rcases Outcome.bind_eq_ok rest with ⟨second, cell, rest⟩
  rcases Outcome.bind_eq_ok rest with ⟨⟨len, offset⟩, length, rest⟩
  have inside := decodeLen_inside (Outcome.lt_of_read cell) length
  dsimp only at rest
  split at rest
  · rcases Outcome.bind_eq_ok rest with ⟨key, keyRead, last⟩
    rcases Outcome.bind_eq_ok keyRead with ⟨key0, -, keyRest⟩
    rcases Outcome.bind_eq_ok keyRest with ⟨key1, -, keyRest⟩
    rcases Outcome.bind_eq_ok keyRest with ⟨key2, -, keyRest⟩
    rcases Outcome.bind_eq_ok keyRest with ⟨key3, lastKey, -⟩
    have fourth := Outcome.lt_of_read lastKey
    cases last
    exact ⟨by omega, by omega, by omega⟩
  · cases rest
    exact ⟨by omega, by omega, by omega⟩

/-- What stands behind a header, unmasked. -/
def WsHeader.payload (header : WsHeader) (cells : List UInt8) : List UInt8 :=
  if header.mask then unmasked header.maskKey cells else cells

theorem payload_length (header : WsHeader) (cells : List UInt8) : (header.payload cells).length = cells.length := by
  rw [WsHeader.payload]
  split
  · exact List.length_mapIdx
  · rfl

/-- The length that `decodeData` returns for a header. -/
def WsHeader.announced (header : WsHeader) : Int := asInt header.len.toNat

/-- `decodeData` of all the bytes at the pointer: everything behind the header
is taken for data. -/
theorem decodeData_eq {data : List UInt8} {header : WsHeader} {hlen : Nat}
    (found : WsHeader.new.decode data = .ok (header, hlen)) (small : data.length < 2 ^ 31) (dest : List UInt8) :
    decodeData data data.length dest =
      .ok {
        ret := header.announced
        dest := dest ++ header.payload (data.drop hlen)
        finish := header.eof
        opcode := header.opcode
        hlen := hlen } := by
  have inside := decode_inside found
  have count : checkedInt ((data.length : Int) - hlen) = .ok ((data.length : Int) - hlen) :=
    checkedInt_of_fits ⟨by omega, by omega⟩
  have positive : ¬ (data.length : Int) - hlen < 0 := by omega
  have cells : Outcome.slice data hlen ((data.length : Int) - hlen).toNat = .ok (data.drop hlen) := by
    have width : ((data.length : Int) - hlen).toNat = data.length - hlen := by omega
    rw [width, Outcome.slice_of_le (by omega), List.take_of_length_le (by rw [List.length_drop])]
  rw [decodeData, found, Outcome.ok_bind_do]
  dsimp only
  rw [count, Outcome.ok_bind_do, cells, WsHeader.payload]
  cases header.mask with
  | true => rfl
  | false =>
      rw [if_neg positive]
      rfl

/-! ## Frames that are encoded -/

/-- A call of `encodeData`, with what its string parameter holds before. -/
structure FrameCall where
  opcode : WsOpCode
  data : List UInt8
  dest : List UInt8
  named : opcode.Named
  small : data.length < 2 ^ 31

namespace FrameCall

variable (call : FrameCall)

/-- The header that `encodeData` builds. -/
def header : WsHeader :=
  { WsHeader.new with eof := true, opcode := call.opcode, len := UInt64.ofNat call.data.length }

/-- What the call appends to its string. -/
def appended : List UInt8 :=
  match encodeData call.data call.opcode call.dest with
  | .ok (dest, _) => dest.drop call.dest.length
  | _ => []

/-- What was appended is one frame, and `decodeData` finds in it what was put
into it. -/
def RoundTrips : Prop :=
  Exists fun ret => Exists fun header => Exists fun hlen =>
    encodeData call.data call.opcode call.dest = .ok (call.dest ++ call.appended, ret) ∧
      WsHeader.new.decode call.appended = .ok (header, hlen) ∧
      hlen + header.len.toNat = call.appended.length ∧
      forall into, decodeData call.appended (asInt call.appended.length) into =
        .ok { ret := call.data.length, dest := into ++ call.data, finish := true, opcode := call.opcode, hlen }

/-- The opcode is one that data is appended for, or there is no data, and the
sums that `encodeData` and `decodeData` form of the lengths are `int`s. -/
def Fits : Prop :=
  (call.opcode.CarriesData ∨ call.data = []) ∧
    FitsInt (asInt (call.dest ++ call.header.bytes).length + call.data.length) ∧
    call.header.bytes.length + call.data.length < 2 ^ 31

theorem header_len : call.header.len.toNat = call.data.length := by
  have small := call.small
  show (UInt64.ofNat call.data.length).toNat = call.data.length
  rw [UInt64.toNat_ofNat', Nat.mod_eq_of_lt (by omega)]

theorem header_decode (rest : List UInt8) :
    WsHeader.new.decode (call.header.bytes ++ rest) = .ok (call.header, call.header.bytes.length) := by
  have kept := (WsHeader.signExtended_len_iff call.header.len).mpr (call.header_len ▸ call.small)
  rw [WsHeader.decode_bytes (show call.header.opcode.Named from call.named), if_pos kept.1, kept.2]
  rfl

theorem encodeData_carries (carries : call.opcode.CarriesData)
    (fits : FitsInt (asInt (call.dest ++ call.header.bytes).length + call.data.length)) :
    encodeData call.data call.opcode call.dest =
      .ok (call.dest ++ (call.header.bytes ++ call.data),
        asInt (call.dest ++ call.header.bytes).length + call.data.length) := by
  rw [encodeData]
  show (if call.opcode.CarriesData then
      checkedInt (asInt (call.dest ++ call.header.bytes).length + call.data.length) >>= fun ret =>
        pure (call.dest ++ call.header.bytes ++ call.data, ret)
    else _) = _
  rw [if_pos carries, checkedInt_of_fits fits, List.append_assoc]
  rfl

theorem encodeData_bare (bare : ¬ call.opcode.CarriesData) :
    encodeData call.data call.opcode call.dest =
      .ok (call.dest ++ call.header.bytes, asInt (call.dest ++ call.header.bytes).length) :=
  if_neg bare

/-- A frame that `decodeData` is given whole. -/
theorem decodeData_frame (short : call.header.bytes.length + call.data.length < 2 ^ 31) (into : List UInt8) :
    decodeData (call.header.bytes ++ call.data) (call.header.bytes ++ call.data).length into =
      .ok {
        ret := call.data.length
        dest := into ++ call.data
        finish := true
        opcode := call.opcode
        hlen := call.header.bytes.length } := by
  have small : (call.header.bytes ++ call.data).length < 2 ^ 31 := by
    rw [List.length_append]
    exact short
  have ret : call.header.announced = call.data.length := by
    have bound := call.small
    rw [WsHeader.announced, call.header_len, asInt_of_fits ⟨by omega, by omega⟩]
  rw [decodeData_eq (call.header_decode call.data) small, ret, List.drop_left]
  rfl

theorem header_length_le : call.header.bytes.length ≤ 14 := by
  have decoded := call.header_decode []
  exact (decode_inside decoded).2.1

/-- The string behind a call that fits, and what was appended to it. -/
theorem encodeData_fits {call : FrameCall} (fits : call.Fits) : call.appended = call.header.bytes ++ call.data ∧
    Exists fun ret => encodeData call.data call.opcode call.dest = .ok (call.dest ++ call.appended, ret) := by
  have result : Exists fun ret => encodeData call.data call.opcode call.dest =
      .ok (call.dest ++ (call.header.bytes ++ call.data), ret) := by
    by_cases carries : call.opcode.CarriesData
    · exact ⟨_, call.encodeData_carries carries fits.2.1⟩
    · have empty : call.data = [] := fits.1.resolve_left carries
      rw [call.encodeData_bare carries, empty, List.append_nil]
      exact ⟨_, rfl⟩
  rcases result with ⟨ret, encoded⟩
  have appended : call.appended = call.header.bytes ++ call.data := by
    rw [FrameCall.appended, encoded]
    exact List.drop_left
  rw [appended]
  exact ⟨rfl, ret, encoded⟩

theorem roundTrips_of_fits {call : FrameCall} (fits : call.Fits) : call.RoundTrips := by
  rcases encodeData_fits fits with ⟨appended, ret, encoded⟩
  have short := fits.2.2
  refine ⟨ret, call.header, call.header.bytes.length, encoded, ?_, ?_, ?_⟩
  · rw [appended]
    exact call.header_decode call.data
  · rw [appended, call.header_len, List.length_append]
  · intro into
    have length : asInt call.appended.length = (call.header.bytes ++ call.data).length := by
      rw [appended]
      apply asInt_of_fits
      rw [List.length_append]
      exact ⟨by omega, by omega⟩
    rw [length, appended]
    exact call.decodeData_frame short into

/-- A frame too long for its length to be passed to `decodeData`. -/
theorem decodeData_beyond (long : 2 ^ 31 ≤ call.header.bytes.length + call.data.length) (into : List UInt8) :
    decodeData (call.header.bytes ++ call.data) (asInt (call.header.bytes ++ call.data).length) into = .fault := by
  have small := call.small
  have header := call.header_length_le
  have wrapped : asInt (call.header.bytes ++ call.data).length =
      call.header.bytes.length + call.data.length - 2 ^ 32 := by
    rw [asInt, Int.bmod_def, List.length_append]
    split <;> omega
  have unfit : ¬ FitsInt (asInt (call.header.bytes ++ call.data).length - call.header.bytes.length) := by
    rw [wrapped]
    rintro ⟨low, -⟩
    omega
  rw [decodeData, call.header_decode, Outcome.ok_bind_do]
  dsimp only
  rw [checkedInt, if_neg unfit]
  rfl

theorem fits_of_roundTrips {call : FrameCall} (roundTrips : call.RoundTrips) : call.Fits := by
  rcases roundTrips with ⟨ret, header, hlen, encoded, decoded, announced, found⟩
  by_cases carries : call.opcode.CarriesData
  · have fits : FitsInt (asInt (call.dest ++ call.header.bytes).length + call.data.length) := by
      by_contra unfit
      have overflow : encodeData call.data call.opcode call.dest = .fault := by
        rw [encodeData]
        show (if call.opcode.CarriesData then
            checkedInt (asInt (call.dest ++ call.header.bytes).length + call.data.length) >>= _
          else _) = _
        rw [if_pos carries, checkedInt, if_neg unfit]
        rfl
      rw [overflow] at encoded
      cases encoded
    have appended : call.appended = call.header.bytes ++ call.data := by
      rw [FrameCall.appended, call.encodeData_carries carries fits]
      exact List.drop_left
    refine ⟨.inl carries, fits, ?_⟩
    by_contra long
    have beyond := call.decodeData_beyond (Nat.not_lt.mp long) []
    rw [← appended, found []] at beyond
    cases beyond
  · have appended : call.appended = call.header.bytes := by
      rw [FrameCall.appended, call.encodeData_bare carries]
      exact List.drop_left
    have own := call.header_decode []
    rw [List.append_nil, ← appended, decoded, Outcome.ok.injEq, Prod.mk.injEq] at own
    rw [own.1, own.2, call.header_len] at announced
    rw [appended] at announced
    have empty : call.data = [] := List.eq_nil_of_length_eq_zero (by omega)
    have header := call.header_length_le
    refine ⟨.inr empty, ?_, ?_⟩
    · rw [empty, List.length_nil, Nat.cast_zero, Int.add_zero]
      exact asInt_fits _
    · rw [empty, List.length_nil]
      omega

end FrameCall

/-! ## Streams of frames -/

/-- Cut the first frame off a stream: what its header announces is passed to
`decodeData`. -/
def cutFrame (stream : List UInt8) : Option ((WsOpCode × List UInt8) × List UInt8) :=
  match WsHeader.new.decode stream with
  | .ok (header, hlen) =>
      let size := hlen + header.len.toNat
      match decodeData (stream.take size) (asInt size) [] with
      | .ok decoded => some ((decoded.opcode, decoded.dest), stream.drop size)
      | _ => none
  | _ => none

/-- Cut a stream to its end; every frame takes a byte at least. -/
def cutFrames : (fuel : Nat) -> (stream : List UInt8) -> Option (List (WsOpCode × List UInt8))
  | 0, stream => if stream = [] then some [] else none
  | fuel + 1, stream =>
      if stream = [] then some []
      else (cutFrame stream).bind fun found => (cutFrames fuel found.2).map (found.1 :: ·)

/-- The bytes of the frames, one behind the other. -/
def frameStream (calls : List FrameCall) : List UInt8 := calls.flatMap FrameCall.appended

/-- Each call makes one frame, and their stream is cut back into these. -/
def StreamRoundTrips (calls : List FrameCall) : Prop :=
  (forall call, call ∈ calls -> call.RoundTrips) ∧
    cutFrames (frameStream calls).length (frameStream calls) = some (calls.map fun call => (call.opcode, call.data))

theorem cutFrame_fits {call : FrameCall} (fits : call.Fits) (rest : List UInt8) :
    cutFrame (call.appended ++ rest) = some ((call.opcode, call.data), rest) := by
  have appended := (FrameCall.encodeData_fits fits).1
  have size : call.header.bytes.length + call.header.len.toNat = (call.header.bytes ++ call.data).length := by
    rw [call.header_len, List.length_append]
  have narrowed : asInt (call.header.bytes ++ call.data).length = (call.header.bytes ++ call.data).length := by
    have short := fits.2.2
    apply asInt_of_fits
    rw [List.length_append]
    exact ⟨by omega, by omega⟩
  have header := call.header_decode (call.data ++ rest)
  rw [← List.append_assoc] at header
  rw [appended, cutFrame, header]
  simp only [size, List.take_left, List.drop_left, narrowed, call.decodeData_frame fits.2.2, List.nil_append]

theorem cutFrames_fits {calls : List FrameCall} (fits : forall call, call ∈ calls -> call.Fits) {fuel : Nat}
    (enough : (frameStream calls).length ≤ fuel) :
    cutFrames fuel (frameStream calls) = some (calls.map fun call => (call.opcode, call.data)) := by
  induction calls generalizing fuel with
  | nil =>
      cases fuel with
      | zero => rfl
      | succ fuel => rfl
  | cons call calls inductionHypothesis =>
      have here := fits call List.mem_cons_self
      have taken : 2 ≤ call.appended.length := by
        rw [(FrameCall.encodeData_fits here).1, List.length_append]
        have header := (decode_inside (call.header_decode [])).1
        omega
      have split : frameStream (call :: calls) = call.appended ++ frameStream calls := List.flatMap_cons
      have nonempty : frameStream (call :: calls) ≠ [] := by
        intro empty
        rw [split, List.append_eq_nil_iff] at empty
        rw [empty.1] at taken
        exact absurd taken (by decide)
      rw [split, List.length_append] at enough
      cases fuel with
      | zero => omega
      | succ fuel =>
          have later := inductionHypothesis (fun other member => fits other (List.mem_cons_of_mem call member))
            (show (frameStream calls).length ≤ fuel by omega)
          rw [cutFrames, if_neg nonempty, split, cutFrame_fits here, Option.bind_some, later]
          rfl

/-- The frames of a stream round trip where each of them fits. -/
theorem streamRoundTrips_iff (calls : List FrameCall) :
    StreamRoundTrips calls ↔ forall call, call ∈ calls -> call.Fits := by
  constructor
  · rintro ⟨each, -⟩ call member
    exact FrameCall.fits_of_roundTrips (each call member)
  · intro fits
    exact ⟨fun call member => FrameCall.roundTrips_of_fits (fits call member), cutFrames_fits fits (Nat.le_refl _)⟩

/-- The reply to a close frame, as `WebSocketClient::process` makes it. -/
def closeReply (dest : List UInt8) : FrameCall where
  opcode := .closeFrame
  data := [0x45, 0x4f, 0x46]
  dest := dest
  named := WsOpCode.closeFrame_named
  small := by decide

/-- The reply announces three bytes and has none. -/
theorem closeReply_hollow : ¬ StreamRoundTrips [closeReply []] := by
  rintro ⟨each, -⟩
  have fits := FrameCall.fits_of_roundTrips (each (closeReply []) List.mem_cons_self)
  exact absurd fits.1 (by decide)

end Net
end RtmpClient
