import RtmpClient.Net.WsParse

namespace RtmpClient
namespace Net

open Library

/-!
# What the WebSocket client delivers

The frames of a server on the wire, cut into calls of `onMessage` at any
places.  A frame is delivered as it was sent where each call meets the
condition that `process` needs of the frames that begin in it.
-/

/-- The frames a server sends, other than continuations. -/
inductive FrameKind where
  | text
  | binary
  | ping
  | pong
  | close
  deriving DecidableEq, Repr

namespace FrameKind

def opcode : FrameKind -> WsOpCode
  | text => .textFrame
  | binary => .binaryFrame
  | ping => .pingFrame
  | pong => .pongFrame
  | close => .closeFrame

def IsData (kind : FrameKind) : Prop := kind = text ∨ kind = binary

instance (kind : FrameKind) : Decidable kind.IsData := inferInstanceAs (Decidable (_ ∨ _))

theorem opcode_named (kind : FrameKind) : kind.opcode.Named := by
  intro bits equal
  cases kind with
  | text => cases equal
  | binary => cases equal
  | ping => cases equal
  | pong => cases equal
  | close => exact WsOpCode.closeFrame_named bits equal

theorem opcode_close {kind : FrameKind} : kind.opcode = .closeFrame ↔ kind = close := by
  cases kind with
  | close => exact ⟨fun _ => rfl, fun _ => rfl⟩
  | text => exact ⟨nofun, nofun⟩
  | binary => exact ⟨nofun, nofun⟩
  | ping => exact ⟨nofun, nofun⟩
  | pong => exact ⟨nofun, nofun⟩

end FrameKind

/-- An unmasked frame of the protocol. -/
structure ServerFrame where
  finish : Bool
  kind : FrameKind
  payload : List UInt8
  small : payload.length < 2 ^ 31
  control : kind.IsData ∨ payload.length ≤ 125

namespace ServerFrame

/-- The second byte and the length behind it, in as few bytes as possible. -/
def lengthBytes (length : Nat) : List UInt8 :=
  if length < 126 then [UInt8.ofNat length]
  else if length < 2 ^ 16 then 126 :: beBytes 2 length
  else 127 :: beBytes 8 length

def header (frame : ServerFrame) : List UInt8 :=
  ((if frame.finish then 0x80 else 0x00) ||| (frame.kind.opcode.value &&& 0x0f)) ::
    lengthBytes frame.payload.length

def wire (frame : ServerFrame) : List UInt8 := frame.header ++ frame.payload

variable (frame : ServerFrame)

/-- The header that `decode` finds. -/
def decoded : WsHeader :=
  { WsHeader.new with eof := frame.finish, opcode := frame.kind.opcode, len := UInt64.ofNat frame.payload.length }

theorem wire_length : frame.wire.length = frame.header.length + frame.payload.length := List.length_append

theorem header_pos : 2 ≤ frame.header.length := by
  rw [header, List.length_cons, lengthBytes]
  split
  · exact Nat.le_refl 2
  · split
    · rw [List.length_cons]
      omega
    · rw [List.length_cons]
      omega

theorem announced : frame.decoded.announced = frame.payload.length := by
  have small := frame.small
  have length : (UInt64.ofNat frame.payload.length).toNat = frame.payload.length := by
    rw [UInt64.toNat_ofNat', Nat.mod_eq_of_lt (by omega)]
  show asInt (UInt64.ofNat frame.payload.length).toNat = frame.payload.length
  rw [length, asInt_of_fits ⟨by omega, by omega⟩]

/-- A second byte without the flag, and the length that follows it. -/
theorem decode_unmasked {code : UInt8} (low : code.toNat < 128) {behind : List UInt8} {len : UInt64} {hlen : Nat}
    (length : WsHeader.decodeLen
      (((if frame.finish then 0x80 else 0x00) ||| (frame.kind.opcode.value &&& 0x0f)) :: code :: behind)
        code.toUInt64 = .ok (len, hlen)) :
    WsHeader.new.decode
      (((if frame.finish then 0x80 else 0x00) ||| (frame.kind.opcode.value &&& 0x0f)) :: code :: behind) =
      .ok ({ WsHeader.new with eof := frame.finish, opcode := frame.kind.opcode, len }, hlen) := by
  have flags := WsHeader.firstByte frame.kind.opcode_named frame.finish
  have sizes := WsHeader.secondByte false low
  have plain : (if false then 0x80 else 0x00) ||| code = code := UInt8.zero_or
  rw [plain] at sizes
  generalize (if frame.finish then 0x80 else 0x00) ||| (frame.kind.opcode.value &&& 0x0f) = first at flags length
  rw [WsHeader.decode]
  show (WsHeader.decodeLen (first :: code :: behind) (code &&& 0x7f).toUInt64 >>= _) = _
  rw [sizes.2, length, Outcome.ok_bind_do]
  have unmasked : ¬ code >>> 7 > 0 := of_decide_eq_false sizes.1
  simp only [flags.1, flags.2]
  rw [if_neg unmasked]
  rfl

theorem decode_header (rest : List UInt8) :
    WsHeader.new.decode (frame.header ++ rest) = .ok (frame.decoded, frame.header.length) := by
  have small := frame.small
  rw [header, lengthBytes, decoded]
  by_cases short : frame.payload.length < 126
  · rw [if_pos short]
    have code : (UInt8.ofNat frame.payload.length).toNat = frame.payload.length := by
      rw [UInt8.toNat_ofNat', Nat.mod_eq_of_lt (by omega)]
    have same : (UInt8.ofNat frame.payload.length).toUInt64 = UInt64.ofNat frame.payload.length := by
      apply UInt64.toNat.inj
      rw [UInt8.toNat_toUInt64, code, UInt64.toNat_ofNat', Nat.mod_eq_of_lt (by omega)]
    have less : UInt64.ofNat frame.payload.length < 126 := by
      rw [UInt64.lt_iff_toNat_lt, ← same, UInt8.toNat_toUInt64, code]
      exact short
    apply frame.decode_unmasked (by omega)
    rw [same]
    exact WsHeader.decodeLen_short _ less
  · rw [if_neg short]
    by_cases middle : frame.payload.length < 2 ^ 16
    · rw [if_pos middle]
      apply frame.decode_unmasked (by decide)
      exact WsHeader.decodeLen_middle _ _ middle rest
    · rw [if_neg middle]
      apply frame.decode_unmasked (by decide)
      refine (WsHeader.decodeLen_long _ 127 (show frame.payload.length < 2 ^ 64 by omega) rest).trans ?_
      rw [if_pos (show frame.payload.length < 2 ^ 32 by omega), WsHeader.signExtended_small small]
      rfl

end ServerFrame

/-! ## What the client should have delivered -/

/-- The payloads of the text and binary frames that are whole after this many
bytes, up to the first close frame. -/
def delivered : (frames : List ServerFrame) -> (count : Nat) -> List (List UInt8)
  | [], _ => []
  | frame :: frames, count =>
      if count < frame.wire.length ∨ frame.kind = .close then []
      else (if frame.kind.IsData then [frame.payload] else []) ++ delivered frames (count - frame.wire.length)

/-- All of the frames deliver all of the payloads. -/
theorem delivered_all (frames : List ServerFrame) :
    delivered frames (frames.flatMap ServerFrame.wire).length =
      ((frames.takeWhile fun frame => frame.kind ≠ .close).filter fun frame => frame.kind.IsData).map
        ServerFrame.payload := by
  induction frames with
  | nil => rfl
  | cons frame frames inductionHypothesis =>
      rw [List.flatMap_cons, List.length_append, delivered, List.takeWhile_cons]
      by_cases closes : frame.kind = .close
      · rw [if_pos (.inr closes), if_neg (by rw [closes]; decide)]
        rfl
      · have whole : ¬ (frame.wire.length + (frames.flatMap ServerFrame.wire).length < frame.wire.length ∨
            frame.kind = .close) := by
          rintro (cut | closes')
          · omega
          · exact closes closes'
        rw [if_neg whole, Nat.add_sub_cancel_left, inductionHypothesis, if_pos (decide_eq_true closes), List.filter_cons]
        by_cases carried : frame.kind.IsData
        · rw [if_pos carried, if_pos (decide_eq_true carried)]
          rfl
        · rw [if_neg carried, if_neg (by rw [decide_eq_false carried]; decide)]
          rfl

/-! ## What `process` needs of the calls -/

/-- A frame that begins at this place of a call: the call has its header and the
first byte behind it, the place behind the frame is an `int`, and it has a
payload if and only if it is one that is delivered. -/
def ServerFrame.Fits (frame : ServerFrame) (offset length : Nat) : Prop :=
  offset + frame.header.length + min 1 frame.payload.length ≤ length ∧
    offset + frame.wire.length < 2 ^ 31 ∧ (frame.kind.IsData ↔ frame.payload ≠ [])

instance (frame : ServerFrame) (offset length : Nat) : Decidable (frame.Fits offset length) :=
  inferInstanceAs (Decidable (_ ∧ _ ∧ (_ ↔ _)))

/-- The frames that begin in a call, from this place on. -/
def BeginFit : (frames : List ServerFrame) -> (offset length : Nat) -> Prop
  | [], _, _ => True
  | frame :: frames, offset, length =>
      offset < length -> frame.Fits offset length ∧
        (frame.kind ≠ .close -> BeginFit frames (offset + frame.wire.length) length)

instance BeginFit.decide : (frames : List ServerFrame) -> (offset length : Nat) ->
    Decidable (BeginFit frames offset length)
  | [], _, _ => isTrue trivial
  | frame :: frames, offset, length =>
      let _ : Decidable (BeginFit frames (offset + frame.wire.length) length) := BeginFit.decide frames _ length
      inferInstanceAs (Decidable (_ -> _ ∧ (_ -> _)))

/-- A call that begins behind this many bytes of the frames: none comes behind
the close frame. -/
def CallFits : (frames : List ServerFrame) -> (start length : Nat) -> Prop
  | [], _, _ => True
  | frame :: frames, start, length =>
      if start = 0 then BeginFit (frame :: frames) 0 length
      else if start < frame.wire.length then BeginFit frames (frame.wire.length - start) length
      else frame.kind ≠ .close ∧ CallFits frames (start - frame.wire.length) length

instance CallFits.decide : (frames : List ServerFrame) -> (start length : Nat) ->
    Decidable (CallFits frames start length)
  | [], _, _ => isTrue trivial
  | frame :: frames, start, length =>
      let _ : Decidable (CallFits frames (start - frame.wire.length) length) := CallFits.decide frames _ length
      inferInstanceAs (Decidable (if start = 0 then BeginFit (frame :: frames) 0 length
        else if start < frame.wire.length then BeginFit frames (frame.wire.length - start) length
        else frame.kind ≠ .close ∧ CallFits frames (start - frame.wire.length) length))

/-- Every call, each behind the bytes of those before it. -/
def CallsFit (frames : List ServerFrame) : (start : Nat) -> (calls : List Reception) -> Prop
  | _, [] => True
  | start, call :: calls =>
      CallFits frames start call.bytes.length ∧ CallsFit frames (start + call.bytes.length) calls

instance CallsFit.decide (frames : List ServerFrame) : (start : Nat) -> (calls : List Reception) ->
    Decidable (CallsFit frames start calls)
  | _, [] => isTrue trivial
  | start, call :: calls =>
      let _ : Decidable (CallsFit frames (start + call.bytes.length) calls) := CallsFit.decide frames _ calls
      inferInstanceAs (Decidable (_ ∧ _))

/-- `process` of one call after the other. -/
inductive ProcessesAll : WebSocketClient -> List Reception -> WebSocketClient -> Prop where
  | none (client : WebSocketClient) : ProcessesAll client [] client
  | call {client next last : WebSocketClient} {data : Reception} {calls : List Reception}
      (processes : client.Processes data next) (rest : ProcessesAll next calls last) :
      ProcessesAll client (data :: calls) last

/-! ## Where a call leaves the client -/

/-- The client behind this many bytes of the frames.  Nothing is said of one
that has come to a close frame. -/
def StandsAt : (frames : List ServerFrame) -> (count : Nat) -> (client : WebSocketClient) -> Prop
  | [], _, client => client.cacheMsg = [] ∧ client.msgLen = 0
  | frame :: frames, count, client =>
      if count = 0 then client.cacheMsg = [] ∧ client.msgLen = 0
      else if count < frame.wire.length then
        frame.kind.IsData ∧ frame.header.length < count ∧
          client.cacheMsg = frame.payload.take (count - frame.header.length) ∧
            client.msgLen.toNat = frame.payload.length
      else frame.kind ≠ .close -> StandsAt frames (count - frame.wire.length) client

/-- A client that has nothing cached is at the start of a frame. -/
theorem standsAt_zero {client : WebSocketClient} (frames : List ServerFrame) (uncached : client.cacheMsg = [])
    (unset : client.msgLen = 0) : StandsAt frames 0 client := by
  cases frames with
  | nil => exact ⟨uncached, unset⟩
  | cons frame frames =>
      rw [StandsAt, if_pos rfl]
      exact ⟨uncached, unset⟩

theorem delivered_zero (frames : List ServerFrame) : delivered frames 0 = [] := by
  cases frames with
  | nil => rfl
  | cons frame frames =>
      have header := frame.header_pos
      rw [delivered, if_pos (.inl (by rw [frame.wire_length]; omega))]

section Frame

variable {client : WebSocketClient} {frame : ServerFrame} {frames : List ServerFrame} {count : Nat}

theorem delivered_open (cut : count < frame.wire.length) : delivered (frame :: frames) count = [] :=
  if_pos (.inl cut)

theorem delivered_close (closes : frame.kind = .close) : delivered (frame :: frames) count = [] :=
  if_pos (.inr closes)

theorem delivered_whole (whole : frame.wire.length ≤ count) (goesOn : frame.kind ≠ .close) :
    delivered (frame :: frames) count =
      (if frame.kind.IsData then [frame.payload] else []) ++ delivered frames (count - frame.wire.length) := by
  apply if_neg
  rintro (cut | closes)
  · omega
  · exact goesOn closes

theorem standsAt_inside (begun : 0 < count) (cut : count < frame.wire.length) :
    StandsAt (frame :: frames) count client ↔ frame.kind.IsData ∧ frame.header.length < count ∧
      client.cacheMsg = frame.payload.take (count - frame.header.length) ∧
        client.msgLen.toNat = frame.payload.length := by
  rw [StandsAt, if_neg (Nat.ne_of_gt begun), if_pos cut]

theorem standsAt_behind (whole : frame.wire.length ≤ count) :
    StandsAt (frame :: frames) count client ↔
      (frame.kind ≠ .close -> StandsAt frames (count - frame.wire.length) client) := by
  have header := frame.header_pos
  have length := frame.wire_length
  rw [StandsAt, if_neg (show count ≠ 0 by omega), if_neg (Nat.not_lt.mpr whole)]

end Frame

/-- From this place of the data the loop ends, with these frames delivered. -/
def Parse.Arrives (data : List UInt8) (start : Parse) (frames : List ServerFrame) (count : Nat) : Prop :=
  Exists fun after => Exists fun last => Leaves (Parse.round data) start { client := after, index := last } ∧
    after.sockCb = true ∧ after.received = start.client.received ++ delivered frames count ∧
      StandsAt frames count after

/-! ## One call -/

namespace ServerFrame

variable {data rest : List UInt8} {frame : ServerFrame} {index : Nat}

/-- The data from the start of a frame on, where the call has its header. -/
theorem header_split (cut : data.drop index <+: frame.wire ++ rest)
    (whole : index + frame.header.length ≤ data.length) :
    data.drop index = frame.header ++ data.drop (index + frame.header.length) := by
  have header : frame.header <+: frame.wire ++ rest := by
    rw [wire, List.append_assoc]
    exact List.prefix_append _ _
  have front : frame.header <+: data.drop index := by
    apply List.prefix_of_prefix_length_le header cut
    rw [List.length_drop]
    omega
  rcases front with ⟨behind, split⟩
  have same : behind = data.drop (index + frame.header.length) := by
    rw [← List.drop_drop, ← split, List.drop_left]
  rw [← same, split]

/-- What stands behind the header. -/
theorem payload_cut (cut : data.drop index <+: frame.wire ++ rest)
    (whole : index + frame.header.length ≤ data.length) :
    data.drop (index + frame.header.length) <+: frame.payload ++ rest := by
  rw [header_split cut whole, wire, List.append_assoc] at cut
  exact (List.prefix_append_right_inj _).mp cut

/-- What stands behind a frame that began before the data. -/
theorem rest_behind {start : Nat} (cut : data <+: frame.wire.drop start ++ rest)
    (whole : frame.wire.length - start ≤ data.length) : data.drop (frame.wire.length - start) <+: rest := by
  have front : frame.wire.drop start <+: data := by
    apply List.prefix_of_prefix_length_le (List.prefix_append _ _) cut
    rw [List.length_drop]
    exact whole
  rcases front with ⟨behind, rfl⟩
  have width : frame.wire.length - start = (frame.wire.drop start).length := List.length_drop.symm
  rw [width, List.drop_left]
  exact (List.prefix_append_right_inj _).mp cut

/-- What stands behind the frame. -/
theorem rest_cut (cut : data.drop index <+: frame.wire ++ rest) (whole : index + frame.wire.length ≤ data.length) :
    data.drop (index + frame.wire.length) <+: rest := by
  have front : frame.wire <+: data.drop index := by
    apply List.prefix_of_prefix_length_le (List.prefix_append _ _) cut
    rw [List.length_drop]
    omega
  rcases front with ⟨behind, split⟩
  rw [← List.drop_drop, ← split, List.drop_left]
  rw [← split] at cut
  exact (List.prefix_append_right_inj _).mp cut

end ServerFrame

namespace Parse

variable {data rest : List UInt8} {client : WebSocketClient} {frame : ServerFrame} {index : Nat}

/-- The round of a frame whose header the call has. -/
theorem round_frame (uncached : client.cacheMsg = []) (small : data.length ≤ maxDataLen)
    (cut : data.drop index <+: frame.wire ++ rest) (fits : frame.Fits index data.length) :
    round data { client, index } =
      handle data client (frameAt data index frame.decoded frame.header.length)
        ((index + frame.wire.length : Nat) : Int) := by
  have whole : index + frame.header.length ≤ data.length := by
    have first := fits.1
    omega
  have found := frame.decode_header (data.drop (index + frame.header.length))
  rw [← frame.header_split cut whole] at found
  have length := frame.wire_length
  have int := fits.2.1
  have announced := frame.announced
  have place : (index : Int) + (frame.decoded.announced + frame.header.length) =
      ((index + frame.wire.length : Nat) : Int) := by
    rw [announced, length]
    omega
  rw [← place]
  exact round_handle uncached (by omega) small found ⟨by omega, by omega⟩ ⟨by omega, by omega⟩

section Data

variable (uncached : client.cacheMsg = []) (small : data.length ≤ maxDataLen)
  (cut : data.drop index <+: frame.wire ++ rest) (fits : frame.Fits index data.length) (carried : frame.kind.IsData)

include uncached small cut fits carried

/-- A frame that the call has all of. -/
theorem round_delivers (whole : index + frame.wire.length ≤ data.length) :
    round data { client, index } = .ok (test data
      { client := client.onRecvData frame.payload, index := ((index + frame.wire.length : Nat) : Int) }) := by
  have length := frame.wire_length
  have bound := frame.small
  have pos := List.length_pos_of_ne_nil (fits.2.2.mp carried)
  have ret : (frameAt data index frame.decoded frame.header.length).ret = frame.payload.length := frame.announced
  have dest : (frameAt data index frame.decoded frame.header.length).dest =
    data.drop (index + frame.header.length) := rfl
  have front : frame.payload <+: data.drop (index + frame.header.length) := by
    apply List.prefix_of_prefix_length_le (List.prefix_append _ rest) (frame.payload_cut cut (by omega))
    rw [List.length_drop]
    omega
  have payload : (data.drop (index + frame.header.length)).take frame.payload.length = frame.payload :=
    (List.prefix_iff_eq_take.mp front).symm
  have enough : ¬ (data.drop (index + frame.header.length)).length < frame.payload.length := by
    rw [List.length_drop]
    omega
  rw [round_frame uncached small cut fits, handle_delivered, ret, Int.toNat_natCast, dest, payload]
  · omega
  · rw [ret, asSize_of_nonneg (by omega) (by omega), Int.toNat_natCast, dest]
    exact enough

/-- A frame that the call has the front of. -/
theorem round_caches (open' : data.length < index + frame.wire.length) :
    round data { client, index } = .ok (.leave
      { client :=
          { client with
            cacheMsg := frame.payload.take (data.length - (index + frame.header.length))
            msgLen := UInt32.ofNat frame.payload.length }
        index := ((index + frame.wire.length : Nat) : Int) }) := by
  have length := frame.wire_length
  have bound := frame.small
  have pos := List.length_pos_of_ne_nil (fits.2.2.mp carried)
  have head := fits.1
  have ret : (frameAt data index frame.decoded frame.header.length).ret = frame.payload.length := frame.announced
  have dest : (frameAt data index frame.decoded frame.header.length).dest =
    data.drop (index + frame.header.length) := rfl
  have behind : data.drop (index + frame.header.length) =
      frame.payload.take (data.length - (index + frame.header.length)) := by
    have front := List.prefix_iff_eq_take.mp (frame.payload_cut cut (show index + frame.header.length ≤ data.length by omega))
    rw [List.length_drop, List.take_append_of_le_length (by omega)] at front
    exact front
  have short : (data.drop (index + frame.header.length)).length < frame.payload.length := by
    rw [List.length_drop]
    omega
  rw [round_frame uncached small cut fits, handle_cached, test_leave, ret, asUint32_of_nonneg (by omega) (by omega),
    Int.toNat_natCast, dest, uncached, List.nil_append, behind]
  · show (data.length : Int) ≤ (index + frame.wire.length : Nat)
    omega
  · omega
  · rw [ret, asSize_of_nonneg (by omega) (by omega), Int.toNat_natCast, dest]
    exact short

end Data

/-- The test at the foot of a round that has come to the start of a frame, or to
the end of the data. -/
theorem leaves_of_test {start : Parse} {next : WebSocketClient} {frames : List ServerFrame} {place : Nat}
    (went : round data start = .ok (test data { client := next, index := (place : Int) }))
    (callback : next.sockCb = true) (uncached : next.cacheMsg = []) (unset : next.msgLen = 0)
    (within : place ≤ data.length)
    (later : place < data.length ->
      Arrives data { client := next, index := (place : Int) } frames (data.length - place)) :
    Exists fun after => Exists fun last => Leaves (round data) start { client := after, index := last } ∧
      after.sockCb = true ∧ after.received = next.received ++ delivered frames (data.length - place) ∧
        StandsAt frames (data.length - place) after := by
  by_cases inside : place < data.length
  · rcases later inside with ⟨after, last, leaves, found⟩
    rw [test_again (by show (place : Int) < data.length; omega)] at went
    exact ⟨after, last, .later went leaves, found⟩
  · rw [test_leave (by show (data.length : Int) ≤ place; omega)] at went
    have done : data.length - place = 0 := by omega
    rw [done, delivered_zero, List.append_nil]
    exact ⟨next, _, .now went, callback, rfl, standsAt_zero frames uncached unset⟩

/-- A loop that goes on behind a frame. -/
theorem arrives_of_test {next : WebSocketClient} {frames : List ServerFrame} (goesOn : frame.kind ≠ .close)
    (went : round data { client, index } =
      .ok (test data { client := next, index := ((index + frame.wire.length : Nat) : Int) }))
    (callback : next.sockCb = true) (uncached : next.cacheMsg = []) (unset : next.msgLen = 0)
    (received : next.received = client.received ++ if frame.kind.IsData then [frame.payload] else [])
    (within : index + frame.wire.length ≤ data.length)
    (later : index + frame.wire.length < data.length ->
      Arrives data { client := next, index := ((index + frame.wire.length : Nat) : Int) } frames
        (data.length - (index + frame.wire.length))) :
    Arrives data { client, index } (frame :: frames) (data.length - index) := by
  have count : data.length - index - frame.wire.length = data.length - (index + frame.wire.length) := Nat.sub_sub _ _ _
  have whole : frame.wire.length ≤ data.length - index := by omega
  rcases leaves_of_test went callback uncached unset within later with ⟨after, last, leaves, callback', received', stands⟩
  refine ⟨after, last, leaves, callback', ?_, ?_⟩
  · rw [received', received, delivered_whole whole goesOn, count, List.append_assoc]
  · rw [standsAt_behind whole, count]
    exact fun _ => stands

/-- A data frame whose end the data does not have is the last of the call. -/
theorem open_arrives {frames : List ServerFrame} (callback : client.sockCb = true) (uncached : client.cacheMsg = [])
    (small : data.length ≤ maxDataLen) (cut : data.drop index <+: frame.wire ++ rest)
    (fits : frame.Fits index data.length) (carried : frame.kind.IsData) (inside : index < data.length)
    (short : data.length < index + frame.wire.length) :
    Arrives data { client, index } (frame :: frames) (data.length - index) := by
  have length := frame.wire_length
  have header := frame.header_pos
  have whole := fits.1
  have bound := frame.small
  refine ⟨_, _, .now (round_caches uncached small cut fits carried short), callback, ?_, ?_⟩
  · rw [delivered_open (by omega), List.append_nil]
  · rw [standsAt_inside (by omega) (by omega)]
    refine ⟨carried, by omega, ?_, ?_⟩
    · rw [Nat.sub_sub]
    · rw [UInt32.toNat_ofNat', Nat.mod_eq_of_lt (by omega)]

/-- So is a close frame, and nothing behind it is asked for. -/
theorem close_arrives {frames : List ServerFrame} (callback : client.sockCb = true) (uncached : client.cacheMsg = [])
    (small : data.length ≤ maxDataLen) (cut : data.drop index <+: frame.wire ++ rest)
    (fits : frame.Fits index data.length) (closes : frame.kind = .close) (empty : frame.payload = []) :
    Arrives data { client, index } (frame :: frames) (data.length - index) := by
  have length := frame.wire_length
  have whole := fits.1
  have ret : (frameAt data index frame.decoded frame.header.length).ret = frame.payload.length := frame.announced
  rw [empty, List.length_nil] at length ret
  have handled : Exists fun reply => handle data client
      (frameAt data index frame.decoded frame.header.length) ((index + frame.wire.length : Nat) : Int) =
      .ok (.leave { client := client.sendData reply, index := ((index + frame.wire.length : Nat) : Int) }) :=
    handle_close ret (FrameKind.opcode_close.mpr closes)
  rcases handled with ⟨reply, handled⟩
  have went := (round_frame uncached small cut fits).trans handled
  refine ⟨client.sendData reply, _, .now went, callback, ?_, ?_⟩
  · rw [delivered_close closes, List.append_nil]
    rfl
  · rw [standsAt_behind (by omega)]
    exact fun goesOn => absurd closes goesOn

/-- From the start of a frame on. -/
theorem fresh_arrives {frames : List ServerFrame} (callback : client.sockCb = true) (uncached : client.cacheMsg = [])
    (unset : client.msgLen = 0) (small : data.length ≤ maxDataLen) (inside : index < data.length)
    (cut : data.drop index <+: frames.flatMap ServerFrame.wire) (fit : BeginFit frames index data.length) :
    Arrives data { client, index } frames (data.length - index) := by
  induction frames generalizing client index with
  | nil =>
      have length := cut.length_le
      rw [List.length_drop, List.flatMap_nil, List.length_nil] at length
      omega
  | cons frame frames inductionHypothesis =>
      rw [List.flatMap_cons] at cut
      rcases fit inside with ⟨fits, fit⟩
      have length := frame.wire_length
      have whole := fits.1
      by_cases carried : frame.kind.IsData
      · have goesOn : frame.kind ≠ .close := by
          intro closes
          rw [closes] at carried
          exact absurd carried (by decide)
        by_cases short : data.length < index + frame.wire.length
        · exact open_arrives callback uncached small cut fits carried inside short
        · have whole : index + frame.wire.length ≤ data.length := by omega
          have received : (client.onRecvData frame.payload) =
              { client with received := client.received ++ [frame.payload] } := if_pos callback
          have went := round_delivers uncached small cut fits carried whole
          rw [received] at went
          refine arrives_of_test goesOn went callback uncached unset ?_ whole ?_
          · rw [if_pos carried]
          · intro inside'
            exact inductionHypothesis callback uncached unset inside' (frame.rest_cut cut whole) (fit goesOn)
      · have empty : frame.payload = [] := by
          by_contra carries
          exact carried (fits.2.2.mpr carries)
        have ret : (frameAt data index frame.decoded frame.header.length).ret = frame.payload.length :=
          frame.announced
        have went := round_frame uncached small cut fits
        rw [empty, List.length_nil] at length whole ret
        by_cases closes : frame.kind = .close
        · exact close_arrives callback uncached small cut fits closes empty
        · rw [handle_empty ret fun same => closes (FrameKind.opcode_close.mp same)] at went
          refine arrives_of_test closes went callback uncached unset ?_ (by omega) ?_
          · rw [if_neg carried, List.append_nil]
          · intro inside'
            exact inductionHypothesis callback uncached unset inside' (frame.rest_cut cut (by omega)) (fit closes)

/-! ## A call that begins inside a frame -/

section Cached

variable {start : Nat} (header : frame.header.length < start) (inside : start < frame.wire.length)
  (cached : client.cacheMsg = frame.payload.take (start - frame.header.length))
  (total : client.msgLen.toNat = frame.payload.length) (small : data.length ≤ maxDataLen)
  (cut : data <+: frame.wire.drop start ++ rest)

include header inside cached

theorem cached_length : client.cacheMsg.length = start - frame.header.length := by
  have length := frame.wire_length
  rw [cached, List.length_take, Nat.min_eq_left (by omega)]

theorem cached_some : client.cacheMsg ≠ [] := by
  have length := cached_length header inside cached
  apply List.ne_nil_of_length_pos
  omega

include total

/-- The message lacks what the frame has behind this place. -/
theorem cached_missing : client.missing = frame.wire.length - start := by
  have length := frame.wire_length
  have taken := cached_length header inside cached
  have bounds := (missing_bounds client).2.1 (by omega)
  omega

omit total

include cut

/-- What the call adds to the message. -/
theorem cached_joined {count : Nat} (within : start + count ≤ frame.wire.length) (held : count ≤ data.length) :
    client.cacheMsg ++ data.take count = frame.payload.take (start + count - frame.header.length) := by
  have length := frame.wire_length
  have behind : frame.wire.drop start = frame.payload.drop (start - frame.header.length) := by
    rw [ServerFrame.wire, List.drop_append, List.drop_of_length_le (by omega), List.nil_append]
  have part : data.take count = (frame.payload.drop (start - frame.header.length)).take count := by
    rw [List.prefix_iff_eq_take.mp cut, List.take_take, Nat.min_eq_left held, behind,
      List.take_append_of_le_length (by rw [List.length_drop]; omega)]
  have sum : start + count - frame.header.length = start - frame.header.length + count := by omega
  rw [sum, List.take_add, part, cached]

include total small

theorem cached_continues (short : data.length < frame.wire.length - start) :
    round data { client, index := 0 } = .ok (.leave
      { client := { client with cacheMsg := frame.payload.take (start + data.length - frame.header.length) }
        index := data.length }) := by
  have bound : data.length ≤ 65535 := small
  have length := frame.wire_length
  have joined := cached_joined header inside cached cut (show start + data.length ≤ frame.wire.length by omega)
    (Nat.le_refl _)
  have lacks : ¬ (frame.payload.take (start + data.length - frame.header.length)).length = client.msgLen.toNat := by
    rw [List.length_take, total]
    omega
  rw [round_cached (cached_some header inside cached), cachedRound]
  dsimp only
  rw [← WebSocketClient.missing, cached_missing header inside cached total, Nat.min_eq_right (Nat.le_of_lt short), joined,
    if_neg lacks, checkedInt_of_fits ⟨by omega, by omega⟩, Int.zero_add]
  exact congrArg Outcome.ok (test_leave (Int.le_refl _))

theorem cached_completes (enough : frame.wire.length - start ≤ data.length) :
    round data { client, index := 0 } = .ok (test data
      { client := { client.onRecvData frame.payload with cacheMsg := [], msgLen := 0 }
        index := ((frame.wire.length - start : Nat) : Int) }) := by
  have bound : data.length ≤ 65535 := small
  have length := frame.wire_length
  have joined := cached_joined header inside cached cut
    (show start + (frame.wire.length - start) ≤ frame.wire.length by omega) enough
  have all : frame.payload.take (start + (frame.wire.length - start) - frame.header.length) = frame.payload := by
    apply List.take_of_length_le
    omega
  rw [all] at joined
  rw [round_cached (cached_some header inside cached), cachedRound]
  dsimp only
  rw [← WebSocketClient.missing, cached_missing header inside cached total, Nat.min_eq_left enough, joined,
    if_pos total.symm, checkedInt_of_fits ⟨by omega, by omega⟩, Int.zero_add]
  rfl

end Cached

end Parse

/-- A call that begins in the payload of a frame. -/
theorem WebSocketClient.process_cached {frame : ServerFrame} {frames : List ServerFrame} {start : Nat}
    {client : WebSocketClient} {data : Reception} {before : List (List UInt8)} (carried : frame.kind.IsData)
    (callback : client.sockCb = true) (behind : frame.header.length < start) (inside : start < frame.wire.length)
    (cached : client.cacheMsg = frame.payload.take (start - frame.header.length))
    (total : client.msgLen.toNat = frame.payload.length) (received : client.received = before)
    (cut : data.bytes <+: frame.wire.drop start ++ frames.flatMap ServerFrame.wire)
    (fits : BeginFit frames (frame.wire.length - start) data.bytes.length) :
    Exists fun after => client.Processes data after ∧ after.sockCb = true ∧
      after.received = before ++ delivered (frame :: frames) (start + data.bytes.length) ∧
        StandsAt (frame :: frames) (start + data.bytes.length) after := by
  have goesOn : frame.kind ≠ .close := by
    intro closes
    rw [closes] at carried
    exact absurd carried (by decide)
  by_cases short : data.bytes.length < frame.wire.length - start
  · have went := Parse.cached_continues behind inside cached total data.inside cut short
    refine ⟨_, ⟨_, .now went⟩, callback, ?_, ?_⟩
    · rw [delivered_open (by omega), List.append_nil]
      exact received
    · rw [standsAt_inside (by omega) (by omega)]
      exact ⟨carried, by omega, rfl, total⟩
  · have enough := Nat.not_lt.mp short
    have went := Parse.cached_completes behind inside cached total data.inside cut enough
    have received' : client.onRecvData frame.payload =
        { client with received := client.received ++ [frame.payload] } := if_pos callback
    rw [received'] at went
    have whole : frame.wire.length ≤ start + data.bytes.length := by omega
    have left : start + data.bytes.length - frame.wire.length = data.bytes.length - (frame.wire.length - start) := by
      omega
    rcases Parse.leaves_of_test went callback rfl rfl enough fun inside' =>
        Parse.fresh_arrives callback rfl rfl data.inside inside' (frame.rest_behind cut enough) fits with
      ⟨after, last, leaves, callback', received', stands'⟩
    refine ⟨after, ⟨last, leaves⟩, callback', ?_, ?_⟩
    · rw [received', delivered_whole whole goesOn, if_pos carried, left, ← List.append_assoc, ← received]
    · rw [standsAt_behind whole, left]
      exact fun _ => stands'

/-- What one call adds to what is delivered, and where it leaves the client. -/
theorem WebSocketClient.process_call {frames : List ServerFrame} {start : Nat} {client : WebSocketClient}
    {data : Reception} {before : List (List UInt8)} (callback : client.sockCb = true)
    (stands : StandsAt frames start client) (received : client.received = before ++ delivered frames start)
    (cut : data.bytes <+: (frames.flatMap ServerFrame.wire).drop start)
    (fits : CallFits frames start data.bytes.length) : Exists fun after => client.Processes data after ∧
      after.sockCb = true ∧ after.received = before ++ delivered frames (start + data.bytes.length) ∧
        StandsAt frames (start + data.bytes.length) after := by
  have nonempty := List.length_pos_of_ne_nil data.nonempty
  induction frames generalizing start before with
  | nil =>
      have length := cut.length_le
      rw [List.flatMap_nil, List.drop_nil, List.length_nil] at length
      omega
  | cons frame frames inductionHypothesis =>
      have header := frame.header_pos
      have length := frame.wire_length
      rw [List.flatMap_cons] at cut
      by_cases fresh : start = 0
      · subst fresh
        rw [StandsAt, if_pos rfl] at stands
        rw [CallFits, if_pos rfl] at fits
        rw [delivered_zero, List.append_nil] at received
        rw [← List.flatMap_cons] at cut
        rcases Parse.fresh_arrives callback stands.1 stands.2 data.inside nonempty cut fits with
          ⟨after, last, leaves, callback', received', stands'⟩
        rw [Nat.sub_zero] at received' stands'
        rw [Nat.zero_add, ← received]
        exact ⟨after, ⟨last, leaves⟩, callback', received', stands'⟩
      · by_cases inside : start < frame.wire.length
        · rw [standsAt_inside (Nat.pos_of_ne_zero fresh) inside] at stands
          rw [CallFits, if_neg fresh, if_pos inside] at fits
          rw [delivered_open inside, List.append_nil] at received
          rw [List.drop_append_of_le_length (Nat.le_of_lt inside)] at cut
          rcases stands with ⟨carried, behind, cached, total⟩
          exact process_cached carried callback behind inside cached total received cut fits
        · have whole := Nat.not_lt.mp inside
          rw [CallFits, if_neg fresh, if_neg inside] at fits
          rw [standsAt_behind whole] at stands
          rw [delivered_whole whole fits.1, ← List.append_assoc] at received
          rw [List.drop_append, List.drop_of_length_le whole, List.nil_append] at cut
          have sum : start + data.bytes.length - frame.wire.length =
              start - frame.wire.length + data.bytes.length := by omega
          rw [delivered_whole (by omega) fits.1, ← List.append_assoc, sum]
          rcases inductionHypothesis (stands fits.1) received cut fits.2 with
            ⟨after, processes, callback', received', stands'⟩
          refine ⟨after, processes, callback', received', ?_⟩
          rw [standsAt_behind (by omega), sum]
          exact fun _ => stands'

/-- What each call keeps, all of them keep. -/
theorem WebSocketClient.process_calls {frames : List ServerFrame} {start : Nat} {client : WebSocketClient}
    {calls : List Reception} (callback : client.sockCb = true) (stands : StandsAt frames start client)
    (received : client.received = delivered frames start)
    (cut : calls.flatMap Reception.bytes <+: (frames.flatMap ServerFrame.wire).drop start)
    (fits : CallsFit frames start calls) : Exists fun after => ProcessesAll client calls after ∧
      after.received = delivered frames (start + (calls.flatMap Reception.bytes).length) := by
  induction calls generalizing start client with
  | nil => exact ⟨client, .none client, received⟩
  | cons data calls inductionHypothesis =>
      rw [List.flatMap_cons] at cut
      have here : data.bytes <+: (frames.flatMap ServerFrame.wire).drop start := (List.prefix_append _ _).trans cut
      have later : calls.flatMap Reception.bytes <+:
          (frames.flatMap ServerFrame.wire).drop (start + data.bytes.length) := by
        rcases cut with ⟨rest, split⟩
        rw [← List.drop_drop, ← split, List.append_assoc, List.drop_left]
        exact List.prefix_append _ rest
      have nothing : client.received = [] ++ delivered frames start := received
      rcases process_call callback stands nothing here fits.1 with
        ⟨next, processes, callback', received', stands'⟩
      rcases inductionHypothesis callback' stands' received' later fits.2 with ⟨after, rest, total⟩
      refine ⟨after, .call processes rest, ?_⟩
      rw [total, List.flatMap_cons, List.length_append, Nat.add_assoc]

theorem CallsFit.of_append {frames : List ServerFrame} {start : Nat} {done later : List Reception}
    (fits : CallsFit frames start (done ++ later)) : CallsFit frames start done := by
  induction done generalizing start with
  | nil => trivial
  | cons call done inductionHypothesis => exact ⟨fits.1, inductionHypothesis fits.2⟩

/-- In a run whose calls all meet the condition, every call leaves behind what
should have been delivered so far. -/
theorem WebSocketClient.process_delivers (frames : List ServerFrame) (calls : List Reception)
    (cut : calls.flatMap Reception.bytes <+: frames.flatMap ServerFrame.wire) (fits : CallsFit frames 0 calls)
    (done later : List Reception) (split : calls = done ++ later) : Exists fun client =>
      ProcessesAll .new done client ∧ client.received = delivered frames (done.flatMap Reception.bytes).length := by
  rw [split] at cut fits
  rw [List.flatMap_append] at cut
  have initially : StandsAt frames 0 .new := standsAt_zero frames rfl rfl
  have nothing : WebSocketClient.new.received = delivered frames 0 := (delivered_zero frames).symm
  rcases process_calls rfl initially nothing ((List.prefix_append _ _).trans cut) fits.of_append with
    ⟨client, processes, received⟩
  rw [Nat.zero_add] at received
  exact ⟨client, processes, received⟩

/-- A text frame in two calls, with an empty ping and the close frame behind it. -/
def greeting : ServerFrame where
  finish := true
  kind := .text
  payload := [0x48, 0x69]
  small := by decide
  control := .inl (.inl rfl)

def bareFrame (kind : FrameKind) : ServerFrame where
  finish := true
  kind := kind
  payload := []
  small := by decide
  control := .inr (by decide)

theorem WebSocketClient.process_delivers_greeting : Exists fun client =>
    ProcessesAll .new [⟨[0x81, 0x02, 0x48], by decide, by decide⟩,
        ⟨[0x69, 0x89, 0x00, 0x88, 0x00], by decide, by decide⟩] client ∧
      client.received = [[0x48, 0x69]] :=
  process_delivers [greeting, bareFrame .ping, bareFrame .close] _ (by decide) (by decide) _ [] (List.append_nil _).symm

/-- A ping with data. -/
def pinged : ServerFrame where
  finish := true
  kind := .ping
  payload := [0x41]
  small := by decide
  control := .inr (by decide)

/-- The data of the ping is delivered. -/
theorem pinged_round : Parse.round pinged.wire { client := .new, index := ((0 : Nat) : Int) } =
    .ok (.leave { client := WebSocketClient.new.onRecvData [0x41], index := 3 }) := by
  have uncached : WebSocketClient.new.cacheMsg = [] := rfl
  have inside : pinged.wire.length ≤ maxDataLen := by decide
  have announced : pinged.decoded.announced = 1 := pinged.announced
  have size : asSize 1 = 1 := asSize_of_nonneg (by decide) (by decide)
  have went := Parse.round_handle uncached (Nat.zero_le _) inside (pinged.decode_header [0x41])
    (by rw [announced]; decide) (by rw [announced]; decide)
  have carries : (Parse.frameAt pinged.wire 0 pinged.decoded pinged.header.length).ret ≠ 0 := by
    show pinged.decoded.announced ≠ 0
    rw [announced]
    decide
  have whole : ¬ (Parse.frameAt pinged.wire 0 pinged.decoded pinged.header.length).dest.length <
      asSize (Parse.frameAt pinged.wire 0 pinged.decoded pinged.header.length).ret := by
    show ¬ 1 < asSize pinged.decoded.announced
    rw [announced, size]
    decide
  rw [Parse.handle_delivered carries whole, announced] at went
  rw [went]
  show Outcome.ok (Parse.test pinged.wire
    { client := WebSocketClient.new.onRecvData (List.take pinged.decoded.announced.toNat [0x41]), index := 3 }) = _
  rw [announced, Parse.test_leave (by decide)]
  rfl

theorem pinged_delivered : ¬ Exists fun client =>
    ProcessesAll .new [⟨pinged.wire, by decide, by decide⟩] client ∧
      client.received = delivered [pinged] pinged.wire.length := by
  rintro ⟨client, processes, received⟩
  cases processes with
  | call processes rest =>
      cases rest with
      | none =>
          rcases processes with ⟨last, leaves⟩
          have same := congrArg Parse.client (leaves.unique (.now pinged_round))
          rw [show client = _ from same] at received
          exact absurd received (by decide)

end Net
end RtmpClient
