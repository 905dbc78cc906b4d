import Mathlib.Data.List.Infix
import RtmpClient.Rtmp.HarmfulCall

namespace RtmpClient
namespace Rtmp

open Library

/-!
# Which failed calls can still succeed

The caller answers every negative result by waiting for more bytes.  That helps
unless the buffer already spells a length that the started message of its
stream does not have, which is refused whatever follows, or already begins a body
that no decoder comes to the end of.
-/

/-- As far as the length bytes of the first chunk in the buffer are there, they
spell the length of the message that its stream has started. -/
def LengthBytesAgree (transport : RtmpMessageTransport) (data : List UInt8) : Prop :=
  match RtmpHeader.decodeBaseHeader data with
  | .ok (length, _, csId) =>
      (transport.chunkCache csId).currentPayloadLen = 0 ∨
        (data.drop (length + 3)).take 3 <+: beBytes 3 (transport.chunkCache csId).h.msgLength.toNat
  | _ => True

/-- The part of the message length field that is in the buffer. -/
theorem lengthBytes_of_decode {data : List UInt8} {length : Nat} {fmt : UInt8} {csId : UInt32}
    {offset : Nat} {header : RtmpHeader}
    (base : RtmpHeader.decodeBaseHeader data = .ok (length, fmt, csId))
    (decoded : RtmpHeader.decode data = .ok (offset, header)) :
    header.chunkStreamId = csId ∧ (data.drop (length + 3)).take 3 = beBytes 3 header.msgLength.toNat := by
  rw [RtmpHeader.decode_of_base base] at decoded
  split at decoded
  · cases decoded
  · next long =>
      simp only [Outcome.ok.injEq, Prod.mk.injEq] at decoded
      have bytes : (data.drop (length + 3)).take 3 = ((data.drop length).drop 3).take 3 := by
        rw [List.drop_drop]
      have three : (((data.drop length).drop 3).take 3).length = 3 := by
        rw [List.length_take, List.length_drop]
        omega
      constructor
      · rw [← decoded.2]
        rfl
      · rw [bytes, ← decoded.2, RtmpHeader.messageHeader_msgLength csId (by omega)]
        have back := beBytes_beValue (((data.drop length).drop 3).take 3)
        rw [three] at back
        exact back.symm

/-- Filling a buffer up from a template that agrees with it in a window puts
the template's window into the result. -/
private theorem window_of_fill {α : Type} (body template : List α) (start width : Nat)
    (agrees : (body.drop start).take width <+: (template.drop start).take width) :
    ((body ++ template.drop body.length).drop start).take width = (template.drop start).take width := by
  rcases agrees with ⟨rest, joined⟩
  apply List.ext_getElem?
  intro index
  have cell := congrArg (fun cells => cells[index]?) joined
  simp only [List.getElem?_append, List.getElem?_take, List.getElem?_drop, List.length_take,
    List.length_drop] at cell ⊢
  grind

/-- A message header that announces `total` and is zero elsewhere. -/
def headerTemplate (total : Nat) : List UInt8 :=
  List.replicate 3 0 ++ (beBytes 3 total ++ List.replicate 5 0)

/-- The bytes of the template that a buffer behind its base header does not have. -/
def headerRest (total : Nat) (body : List UInt8) : List UInt8 := (headerTemplate total).drop body.length

theorem headerRest_length {body : List UInt8} (short : body.length < 11) (total : Nat) :
    (body ++ headerRest total body).length = 11 := by
  have eleven : (headerTemplate total).length = 11 := by
    simp only [headerTemplate, List.length_append, List.length_replicate, beBytes_length]
  rw [List.length_append, headerRest, List.length_drop, eleven]
  omega

/-- A base header with less than a message header behind it is completed by the
rest of the template. -/
theorem decode_headerRest {data : List UInt8} {length : Nat} {fmt : UInt8} {csId : UInt32}
    (base : RtmpHeader.decodeBaseHeader data = .ok (length, fmt, csId)) (short : (data.drop length).length < 11)
    (total : Nat) :
    RtmpHeader.decode (data ++ headerRest total (data.drop length)) = .ok (length + 11,
        RtmpHeader.messageHeader csId (data.drop length ++ headerRest total (data.drop length))) ∧
      (data ++ headerRest total (data.drop length)).drop (length + 11) = [] := by
  have inside : length ≤ data.length := RtmpHeader.decodeBaseHeader_length base
  have eleven := headerRest_length short total
  have filled : (data ++ headerRest total (data.drop length)).drop length =
      data.drop length ++ headerRest total (data.drop length) := List.drop_append_of_le_length inside
  constructor
  · rw [RtmpHeader.decode_of_base (RtmpHeader.decodeBaseHeader_append base _), filled,
      if_neg (Nat.not_lt.mpr (Nat.le_of_eq eleven.symm))]
  · rw [← List.drop_drop, filled, ← eleven, List.drop_length]

/-- The completed header has the length that its buffer agrees with. -/
theorem headerRest_msgLength (csId : UInt32) {body : List UInt8} (short : body.length < 11) {total : Nat}
    (small : total < 2 ^ 24) (agree : (body.drop 3).take 3 <+: beBytes 3 total) :
    (RtmpHeader.messageHeader csId (body ++ headerRest total body)).msgLength.toNat = total := by
  have window : ((headerTemplate total).drop 3).take 3 = beBytes 3 total := by
    rw [headerTemplate, List.drop_left' (List.length_replicate ..),
      List.take_left' (beBytes_length 3 total)]
  have eleven := headerRest_length short total
  have spelled : ((body ++ headerRest total body).drop 3).take 3 = beBytes 3 total := by
    rw [headerRest, window_of_fill, window]
    rw [window]
    exact agree
  rw [RtmpHeader.messageHeader_msgLength csId (by omega), spelled, beValue_beBytes_of_lt small]

/-- A completed header without a type byte of its own is of type 0. -/
theorem headerRest_msgTypeId (csId : UInt32) {body : List UInt8} (short : body.length < 7) (total : Nat) :
    (RtmpHeader.messageHeader csId (body ++ headerRest total body)).msgTypeId = 0 := by
  show (body ++ headerRest total body).getD 6 0 = 0
  have six : (beBytes 3 total).length = 3 := beBytes_length 3 total
  rw [headerRest, headerTemplate, List.getD_eq_getElem?_getD]
  have cell : (body ++ (List.replicate 3 0 ++ (beBytes 3 total ++ List.replicate 5 0)).drop body.length)[6]? =
      some (0 : UInt8) := by
    rw [List.getElem?_append_right (by omega), List.getElem?_drop,
      List.getElem?_append_right (by rw [List.length_replicate]; omega),
      List.getElem?_append_right (by rw [List.length_replicate]; omega), List.getElem?_replicate, if_pos]
    rw [List.length_replicate]
    omega
  rw [cell]
  rfl

/-- What seven bytes say, more bytes behind them do not change. -/
theorem messageHeader_append (csId : UInt32) {body : List UInt8} (long : 7 ≤ body.length) (more : List UInt8) :
    (RtmpHeader.messageHeader csId (body ++ more)).timestamp = (RtmpHeader.messageHeader csId body).timestamp ∧
    (RtmpHeader.messageHeader csId (body ++ more)).msgLength = (RtmpHeader.messageHeader csId body).msgLength ∧
    (RtmpHeader.messageHeader csId (body ++ more)).msgTypeId = (RtmpHeader.messageHeader csId body).msgTypeId := by
  match body, long with
  | _ :: _ :: _ :: _ :: _ :: _ :: _ :: _, _ => exact ⟨rfl, rfl, rfl⟩

/-- Where the type of the first chunk is in the buffer and the chunk is the last of
its message, the bytes of the message that are there begin a body of the announced
length that does no harm. -/
def BodyCanPass (transport : RtmpMessageTransport) (data : List UInt8) : Prop :=
  match RtmpHeader.decodeBaseHeader data with
  | .ok (length, _, csId) =>
      let header := RtmpHeader.messageHeader csId (data.drop length)
      let present := (transport.chunkCache csId).held ++ data.drop (length + 11 + fieldLength header.timestamp)
      length + 7 ≤ data.length -> missingBytes transport header ≤ transport.inChunkSize.toNat ->
        Exists fun rest => (present ++ rest).length = header.msgLength.toNat ∧
          ¬ HarmfulBody transport.requestsMap header.msgTypeId (present ++ rest)
  | _ => True

section Sound

variable {transport : RtmpMessageTransport} {assemblies : UInt32 -> Assembly UInt8}

/-- A stream is idle in the transport exactly when its partial message is empty. -/
theorem Sound.idle_iff (sound : Sound transport assemblies) (csId : UInt32) :
    (transport.chunkCache csId).currentPayloadLen = 0 ↔ (assemblies csId).received.length = 0 :=
  (sound.holds csId).idle_iff

/-- Bytes are consumed only from a buffer whose length bytes agree. -/
theorem lengthBytesAgree_of_progress (sound : Sound transport assemblies) {data more : List UInt8}
    {later : RecvResult} (nonempty : data ≠ [])
    (call : recvUndecoded transport (data ++ more) = some later) (progress : 0 < later.ret) :
    LengthBytesAgree transport data := by
  have consumed : Exists fun offset => Exists fun header =>
      RtmpHeader.decode (data ++ more) = .ok (offset, header) ∧ Agrees assemblies header := by
    rcases recvUndecoded_effect sound (List.append_ne_nil_of_left_ne_nil nonempty more) with
      ⟨result, after, found, effect, _⟩
    rw [found, Option.some.injEq] at call
    rw [← call] at progress
    cases effect with
    | noHeader incomplete => exact absurd progress (show ¬ (0 : Int) < -1 by decide)
    | refused decoded disagrees => exact absurd progress (show ¬ (0 : Int) < -2 by decide)
    | short decoded agrees incomplete timestamp => exact absurd progress (show ¬ (0 : Int) < -1 by decide)
    | partly decoded agrees enough unfinished => exact ⟨_, _, decoded, agrees⟩
    | completed decoded agrees enough full after handled => exact ⟨_, _, decoded, agrees⟩
  rcases consumed with ⟨offset, header, decoded, agrees⟩
  unfold LengthBytesAgree
  cases base : RtmpHeader.decodeBaseHeader data with
  | fault => trivial
  | error code => trivial
  | ok value =>
      rcases value with ⟨length, fmt, csId⟩
      rcases lengthBytes_of_decode (RtmpHeader.decodeBaseHeader_append base more) decoded with
        ⟨sameStream, spelled⟩
      by_cases idle : (transport.chunkCache csId).currentPayloadLen = 0
      · exact Or.inl idle
      · right
        have started : (assemblies header.chunkStreamId).received.length ≠ 0 := by
          rw [sameStream]
          exact fun empty => idle ((sound.idle_iff csId).mpr empty)
        have sameLength : header.msgLength.toNat = (transport.chunkCache csId).h.msgLength.toNat := by
          rw [agrees started, sameStream, (sound.holds csId).total_eq]
        rw [← sameLength, ← spelled]
        have grows : data <+: data ++ more := List.prefix_append data more
        have dropped : data.drop (length + 3) <+: (data ++ more).drop (length + 3) :=
          List.IsPrefix.drop grows (length + 3)
        exact List.prefix_take_iff.mpr
          ⟨List.IsPrefix.trans (List.take_prefix 3 _) dropped, List.length_take_le 3 _⟩

/-- The bytes of a chunk that are not there yet, the extended timestamp first. -/
theorem drop_padded {behind rest : List UInt8} (field : Nat) :
    (behind ++ (List.replicate (field - behind.length) 0 ++ rest)).drop field = behind.drop field ++ rest := by
  by_cases inside : field ≤ behind.length
  · rw [Nat.sub_eq_zero_of_le inside, List.replicate_zero, List.nil_append, List.drop_append_of_le_length inside]
  · have full : (behind ++ List.replicate (field - behind.length) (0 : UInt8)).length = field := by
      rw [List.length_append, List.length_replicate]
      omega
    rw [← List.append_assoc, List.drop_left' full, List.drop_of_length_le (by omega), List.nil_append]

/-- The message in progress is no longer than its header says. -/
theorem held_le (sound : Sound transport assemblies) {header : RtmpHeader} (agrees : Agrees assemblies header) :
    (transport.chunkCache header.chunkStreamId).held.length ≤ header.msgLength.toNat := by
  rw [← announced_received sound, ← announced_total agrees]
  exact (announced assemblies header).fits

/-- A whole chunk that is not the end of a harmful message is consumed. -/
theorem progress_of_chunk (sound : Sound transport assemblies) {data : List UInt8} {offset : Nat}
    {header : RtmpHeader} (decoded : RtmpHeader.decode data = .ok (offset, header))
    (agrees : Agrees assemblies header)
    (enough : bodyLength transport.inChunkSize assemblies header ≤ (data.drop offset).length)
    (harmless : ¬ EndsHarmful transport data) :
    Exists fun later => recvRtmpMessage decodeCompleted transport data = some later ∧ 0 < later.ret := by
  have nonempty : data ≠ [] := by
    rintro rfl
    cases decoded
  rcases (recvUndecoded_succeeds_iff sound data).mpr ⟨offset, header, decoded, agrees, enough⟩ with
    ⟨result, undecoded, success⟩
  rcases Option.ne_none_iff_exists'.mp fun faults => harmless ((recvRtmpMessage_fault_iff sound nonempty).mp faults)
    with ⟨later, called⟩
  rcases recvRtmpMessage_undecoded called with ⟨found, again, _, ret, _⟩
  have bounds := recvUndecoded_bounds undecoded success
  rw [undecoded, Option.some.injEq] at again
  rw [← again] at ret
  exact ⟨later, called, by omega⟩

/-- A complete header that agrees with its stream is enough: if the chunk is the last
of its message, a body that does no harm completes it, and else zeros do. -/
theorem progress_of_header (sound : Sound transport assemblies) {data : List UInt8} {offset : Nat}
    {header : RtmpHeader} (decoded : RtmpHeader.decode data = .ok (offset, header))
    (agrees : Agrees assemblies header)
    (passes : missingBytes transport header ≤ transport.inChunkSize.toNat -> Exists fun rest =>
      ((transport.chunkCache header.chunkStreamId).held ++
        (data.drop offset).drop (fieldLength header.timestamp) ++ rest).length = header.msgLength.toNat ∧
      ¬ HarmfulBody transport.requestsMap header.msgTypeId ((transport.chunkCache header.chunkStreamId).held ++
        (data.drop offset).drop (fieldLength header.timestamp) ++ rest)) :
    Exists fun more => Exists fun later =>
      recvRtmpMessage decodeCompleted transport (data ++ more) = some later ∧ 0 < later.ret := by
  have inside := (RtmpHeader.decoded_of_decode decoded).length_le
  have grown : forall more, (data ++ more).drop offset = data.drop offset ++ more :=
    fun more => List.drop_append_of_le_length inside
  have length := bodyLength_eq sound agrees
  by_cases last : missingBytes transport header ≤ transport.inChunkSize.toNat
  · rcases passes last with ⟨rest, whole, harmless⟩
    rw [Nat.min_eq_left last] at length
    rw [List.append_assoc] at harmless
    rw [List.append_assoc, List.length_append] at whole
    have missing : missingBytes transport header =
        ((data.drop offset).drop (fieldLength header.timestamp) ++ rest).length := by
      rw [missingBytes]
      omega
    refine ⟨List.replicate (fieldLength header.timestamp - (data.drop offset).length) 0 ++ rest, ?_⟩
    refine progress_of_chunk sound (RtmpHeader.decode_append decoded _) agrees ?_ ?_
    · rw [length, missing, grown, List.length_append, List.length_append, List.length_append,
        List.length_replicate, List.length_drop]
      omega
    · rw [EndsHarmful, endsMessage_iff (RtmpHeader.decode_append decoded _), grown, drop_padded, missing, List.take_length]
      exact fun harmful => harmless harmful.2.2.2
  · refine ⟨List.replicate (bodyLength transport.inChunkSize assemblies header) 0, ?_⟩
    refine progress_of_chunk sound (RtmpHeader.decode_append decoded _) agrees ?_ ?_
    · rw [grown, List.length_append, List.length_replicate]
      exact Nat.le_add_left _ _
    · rw [EndsHarmful, endsMessage_iff (RtmpHeader.decode_append decoded _)]
      exact fun harmful => last harmful.2.1

/-- A base header with less than a message header behind it whose length bytes agree
can be completed, unless what is there is the type of a message that does harm. -/
theorem progress_of_base (sound : Sound transport assemblies) {data : List UInt8} {length : Nat}
    {fmt : UInt8} {csId : UInt32} (base : RtmpHeader.decodeBaseHeader data = .ok (length, fmt, csId))
    (short : (data.drop length).length < 11) (agree : LengthBytesAgree transport data)
    (passes : BodyCanPass transport data) :
    Exists fun more => Exists fun later =>
      recvRtmpMessage decodeCompleted transport (data ++ more) = some later ∧ 0 < later.ret := by
  have near : data.length ≤ length + 11 := by
    rw [List.length_drop] at short
    omega
  have total := (sound.holds csId).total_eq
  have small : (transport.chunkCache csId).h.msgLength.toNat < 2 ^ 24 := by
    rw [total]
    exact (sound.holds csId).total_lt
  rw [LengthBytesAgree, base] at agree
  rw [BodyCanPass, base] at passes
  simp only at agree passes
  rcases decode_headerRest base short (transport.chunkCache csId).h.msgLength.toNat with ⟨decoded, nothing⟩
  have agrees : Agrees assemblies (RtmpHeader.messageHeader csId
      (data.drop length ++ headerRest (transport.chunkCache csId).h.msgLength.toNat (data.drop length))) := by
    intro started
    rcases agree with idle | spelled
    · exact absurd ((sound.idle_iff csId).mp idle) started
    · rw [← List.drop_drop] at spelled
      rw [headerRest_msgLength csId short small spelled, total]
      rfl
  have completed := progress_of_header sound decoded agrees
  rw [nothing, List.drop_nil, List.append_nil] at completed
  have goesOn : Exists fun more => Exists fun later =>
      recvRtmpMessage decodeCompleted transport
        (data ++ headerRest (transport.chunkCache csId).h.msgLength.toNat (data.drop length) ++ more) = some later ∧
      0 < later.ret := by
    apply completed
    intro last
    by_cases typed : 7 ≤ (data.drop length).length
    · rcases messageHeader_append csId typed
        (headerRest (transport.chunkCache csId).h.msgLength.toNat (data.drop length)) with ⟨_, sameLength, sameType⟩
      rw [List.length_drop] at typed
      rw [missingBytes, sameLength] at last
      rw [sameLength, sameType]
      rw [List.drop_eq_nil_of_le (Nat.le_trans near (Nat.le_add_right _ _)), List.append_nil] at passes
      exact passes (Nat.add_le_of_le_sub' (RtmpHeader.decodeBaseHeader_length base) typed) last
    · refine ⟨List.replicate (missingBytes transport (RtmpHeader.messageHeader csId (data.drop length ++
        headerRest (transport.chunkCache csId).h.msgLength.toNat (data.drop length)))) 0, ?_, ?_⟩
      · have fits := held_le sound agrees
        rw [List.length_append, List.length_replicate, missingBytes]
        omega
      · rw [headerRest_msgTypeId csId (Nat.lt_of_not_le typed)]
        exact not_harmfulBody (by decide) (by decide)
  rcases goesOn with ⟨more, later, called, progress⟩
  rw [List.append_assoc] at called
  exact ⟨_, later, called, progress⟩

/-- What is there of a chunk that cannot be taken yet is less than it misses. -/
theorem present_le (sound : Sound transport assemblies) {data : List UInt8} {length : Nat} {fmt : UInt8}
    {csId : UInt32} (base : RtmpHeader.decodeBaseHeader data = .ok (length, fmt, csId))
    (waits : forall result, recvUndecoded transport data = some result -> result.ret < 0)
    (agrees : Agrees assemblies (RtmpHeader.messageHeader csId (data.drop length)))
    (last : missingBytes transport (RtmpHeader.messageHeader csId (data.drop length)) ≤
      transport.inChunkSize.toNat) :
    (data.drop (length + 11 +
        fieldLength (RtmpHeader.messageHeader csId (data.drop length)).timestamp)).length ≤
      missingBytes transport (RtmpHeader.messageHeader csId (data.drop length)) := by
  have decoded := RtmpHeader.decode_of_base base
  by_cases short : (data.drop length).length < 11
  · rw [List.length_drop] at short ⊢
    omega
  · rw [if_neg short] at decoded
    have incomplete : ¬ bodyLength transport.inChunkSize assemblies
        (RtmpHeader.messageHeader csId (data.drop length)) ≤ (data.drop (length + 11)).length := by
      intro enough
      rcases (recvUndecoded_succeeds_iff sound data).mpr ⟨_, _, decoded, agrees, enough⟩ with ⟨result, call, success⟩
      exact absurd success (Int.not_le.mpr (waits result call))
    rw [bodyLength_eq sound agrees, Nat.min_eq_left last, List.length_drop] at incomplete
    rw [List.length_drop]
    omega

/-- What a longer buffer is decoded to is what the first seven bytes say. -/
theorem decode_append_of_base {data more : List UInt8} {length : Nat} {fmt : UInt8} {csId : UInt32}
    (base : RtmpHeader.decodeBaseHeader data = .ok (length, fmt, csId)) (typed : 7 ≤ (data.drop length).length)
    {offset : Nat} {header : RtmpHeader} (decoded : RtmpHeader.decode (data ++ more) = .ok (offset, header)) :
    offset = length + 11 ∧ header.chunkStreamId = csId ∧
      header.timestamp = (RtmpHeader.messageHeader csId (data.drop length)).timestamp ∧
      header.msgLength = (RtmpHeader.messageHeader csId (data.drop length)).msgLength ∧
      header.msgTypeId = (RtmpHeader.messageHeader csId (data.drop length)).msgTypeId := by
  have spelled := RtmpHeader.decode_of_base (RtmpHeader.decodeBaseHeader_append base more)
  rw [decoded, List.drop_append_of_le_length (RtmpHeader.decodeBaseHeader_length base)] at spelled
  split at spelled
  · cases spelled
  · rw [Outcome.ok.injEq, Prod.mk.injEq] at spelled
    rw [spelled.1, spelled.2]
    exact ⟨rfl, rfl, messageHeader_append csId typed more⟩

/-- Bytes are consumed only behind a buffer whose bytes begin a body that does no
harm. -/
theorem bodyCanPass_of_progress (sound : Sound transport assemblies) {data more : List UInt8}
    (waits : forall result, recvUndecoded transport data = some result -> result.ret < 0)
    {later : RecvCall RtmpPacket} (called : recvRtmpMessage decodeCompleted transport (data ++ more) = some later)
    (progress : 0 < later.ret) : BodyCanPass transport data := by
  rcases recvRtmpMessage_undecoded called with ⟨found, undecoded, _, ret, _⟩
  rcases (recvUndecoded_succeeds_iff sound (data ++ more)).mp ⟨found, undecoded, by omega⟩ with
    ⟨offset, header, decoded, agrees, enough⟩
  rw [BodyCanPass]
  split
  next length fmt csId base =>
    intro front present typed last
    have seven : 7 ≤ (data.drop length).length := by
      rw [List.length_drop]
      omega
    rcases decode_append_of_base base seven decoded with ⟨offsetEq, stream, sameTime, sameLength, sameType⟩
    have missing : missingBytes transport header = missingBytes transport front := by
      rw [missingBytes, stream, sameLength]
      rfl
    have frontAgrees : Agrees assemblies front := by
      rw [Agrees, stream, sameLength] at agrees
      exact agrees
    have wait := present_le sound base waits frontAgrees last
    have fits := held_le sound frontAgrees
    rw [bodyLength_eq sound agrees, missing, Nat.min_eq_left last] at enough
    -- the call that consumes them has completed a body that begins with what was there
    have begins : data.drop (length + 11 + fieldLength front.timestamp) <+:
        (((data ++ more).drop offset).drop (fieldLength header.timestamp)).take (missingBytes transport front) := by
      rw [List.drop_drop, offsetEq, sameTime]
      exact List.prefix_take_iff.mpr ⟨(List.prefix_append data more).drop _, wait⟩
    rcases begins with ⟨rest, joined⟩
    have whole := congrArg List.length joined
    rw [List.length_append, List.length_take, List.length_drop] at whole
    refine ⟨rest, ?_, fun harmful => ?_⟩
    · have all : (data.drop (length + 11 + fieldLength front.timestamp)).length + rest.length =
          front.msgLength.toNat - (transport.chunkCache front.chunkStreamId).held.length := by
        rw [List.length_drop, whole, List.length_drop, ← missingBytes]
        omega
      rw [List.length_append, List.length_append, Nat.add_assoc, all]
      exact Nat.add_sub_cancel' fits
    · have nonempty : data ++ more ≠ [] := by
        apply List.ne_nil_of_length_pos
        rw [List.length_append]
        omega
      have ends : EndsHarmful transport (data ++ more) := by
        rw [EndsHarmful, endsMessage_iff decoded, ← agrees_iff_sameLength sound, missing, ← joined, stream, sameType,
          ← List.append_assoc]
        exact ⟨agrees, last, enough, harmful⟩
      cases ((recvRtmpMessage_fault_iff sound nonempty).mpr ends).symm.trans called
  · trivial

/-- An incomplete base header can be completed: all of the message is still open. -/
theorem progress_of_shortBase (sound : Sound transport assemblies) {data : List UInt8} {length : Nat}
    {csId : UInt32} (completed : RtmpHeader.decodeBaseHeader (data ++ [0, 0]) = .ok (length, 0, csId))
    (short : (data ++ [0, 0]).length ≤ length + 3) :
    Exists fun more => Exists fun later =>
      recvRtmpMessage decodeCompleted transport (data ++ more) = some later ∧ 0 < later.ret := by
  have noHeader : ((data ++ [0, 0]).drop length).length < 11 := by
    rw [List.length_drop]
    omega
  have agree : LengthBytesAgree transport (data ++ [0, 0]) := by
    rw [LengthBytesAgree, completed]
    right
    rw [List.drop_eq_nil_of_le short, List.take_nil]
    exact List.nil_prefix
  have passes : BodyCanPass transport (data ++ [0, 0]) := by
    rw [BodyCanPass, completed]
    exact fun typed => absurd typed (by omega)
  rcases progress_of_base sound completed noHeader agree passes with ⟨more, later, called, progress⟩
  rw [List.append_assoc] at called
  exact ⟨[0, 0] ++ more, later, called, progress⟩

/-- A whole header whose length bytes agree can be completed when the body can. -/
theorem progress_of_wholeHeader (sound : Sound transport assemblies) {data : List UInt8} {length : Nat}
    {fmt : UInt8} {csId : UInt32} (base : RtmpHeader.decodeBaseHeader data = .ok (length, fmt, csId))
    (long : ¬ (data.drop length).length < 11) (agree : LengthBytesAgree transport data)
    (passes : BodyCanPass transport data) :
    Exists fun more => Exists fun later =>
      recvRtmpMessage decodeCompleted transport (data ++ more) = some later ∧ 0 < later.ret := by
  have inside := RtmpHeader.decodeBaseHeader_length base
  have decoded := RtmpHeader.decode_of_base base
  rw [if_neg long] at decoded
  have spelled := (lengthBytes_of_decode base decoded).2
  rw [LengthBytesAgree, base] at agree
  rw [BodyCanPass, base] at passes
  simp only at agree passes
  refine progress_of_header sound decoded ?_ ?_
  · intro started
    rcases agree with idle | agree
    · exact absurd ((sound.idle_iff csId).mp idle) started
    · rw [spelled] at agree
      have same := congrArg beValue (List.IsPrefix.eq_of_length agree (by rw [beBytes_length, beBytes_length]))
      have small := (RtmpHeader.decoded_of_decode decoded).msgLength_lt
      have total := (sound.holds csId).total_eq
      have smallToo := (sound.holds csId).total_lt
      rw [beValue_beBytes_of_lt small, beValue_beBytes_of_lt (total ▸ smallToo), total] at same
      exact same
  · rw [List.drop_drop]
    rw [List.length_drop] at long
    exact passes (by omega)

end Sound

/-- From a reachable transport, a buffer that a call refused can still be
completed to one that it consumes, if and only if the length bytes that the
buffer already holds agree with the message its stream has started, and what it
holds of a body can end in one that does no harm. -/
theorem progress_iff_lengthBytesAgree {transport : RtmpMessageTransport} (reached : Reachable transport)
    {data : List UInt8} (nonempty : data ≠ []) {call : RecvCall RtmpPacket}
    (called : recvRtmpMessage decodeCompleted transport data = some call) (failed : call.ret < 0) :
    (Exists fun more => Exists fun later =>
      recvRtmpMessage decodeCompleted call.transport (data ++ more) = some later ∧ 0 < later.ret) ↔
      LengthBytesAgree transport data ∧ BodyCanPass transport data := by
  rcases sound_of_reachable reached with ⟨assemblies, sound⟩
  have waits : forall result, recvUndecoded transport data = some result -> result.ret < 0 := by
    intro result undecoded
    rcases recvRtmpMessage_undecoded called with ⟨found, again, _, ret, _⟩
    rw [undecoded, Option.some.injEq] at again
    rw [again, ← ret]
    exact failed
  have retried : forall more, recvRtmpMessage decodeCompleted call.transport (data ++ more) =
      recvRtmpMessage decodeCompleted transport (data ++ more) := recvRtmpMessage_retry called failed
  simp only [retried]
  constructor
  · rintro ⟨more, later, again, progress⟩
    rcases recvRtmpMessage_undecoded again with ⟨found, undecoded, _, ret, _⟩
    exact ⟨lengthBytesAgree_of_progress sound nonempty undecoded (ret ▸ progress),
      bodyCanPass_of_progress sound waits again progress⟩
  · rintro ⟨agree, passes⟩
    cases base : RtmpHeader.decodeBaseHeader data with
    | fault =>
        have faulted : RtmpHeader.decode data = .fault := by
          simp only [RtmpHeader.decode, base, Outcome.fault_bind_do]
        exact absurd faulted (RtmpHeader.decode_ne_fault nonempty)
    | error code =>
        rcases RtmpHeader.decodeBaseHeader_completed nonempty base with ⟨length, csId, completed, short⟩
        exact progress_of_shortBase sound completed short
    | ok value =>
        rcases value with ⟨length, fmt, csId⟩
        by_cases short : (data.drop length).length < 11
        · exact progress_of_base sound base short agree passes
        · exact progress_of_wholeHeader sound base short agree passes

/-- A lone base header of a fresh stream can be completed. -/
theorem progress_after_baseHeader :
    Exists fun call =>
      recvRtmpMessage decodeCompleted (RtmpMessageTransport.new fun _ => 0) [0x03] = some call ∧ call.ret = -1 ∧
      Exists fun more => Exists fun later =>
        recvRtmpMessage decodeCompleted call.transport ([0x03] ++ more) = some later ∧ 0 < later.ret := by
  have runs : (recvRtmpMessage decodeCompleted (RtmpMessageTransport.new fun _ => 0) [0x03]).map RecvCall.ret =
      some (-1) := by
    decide
  rcases Option.map_eq_some_iff.mp runs with ⟨call, called, ret⟩
  have failed : call.ret < 0 := by
    rw [ret]
    decide
  refine ⟨call, called, ret, ?_⟩
  exact (progress_iff_lengthBytesAgree (Reachable.new fun _ => 0) (List.cons_ne_nil _ _) called failed).mpr
    ⟨Or.inl rfl, fun typed => absurd typed (by decide)⟩

/-- The rest of the message that `firstVideoChunk` starts, behind the one-byte
header that a sender puts in front of it. -/
def lastVideoChunk : List UInt8 := 0xC3 :: List.replicate 72 0

/-- The second chunk of a 200-byte message is refused, and stays refused
whatever arrives behind it. -/
theorem lastVideoChunk_stalls :
    Exists fun transport => Exists fun call =>
      Reachable transport ∧ recvRtmpMessage decodeCompleted transport lastVideoChunk = some call ∧ call.ret = -2 ∧
      ¬ Exists fun more => Exists fun later =>
        recvRtmpMessage decodeCompleted call.transport (lastVideoChunk ++ more) = some later ∧ 0 < later.ret := by
  have runs : ((recvUndecoded (RtmpMessageTransport.new fun _ => 0) firstVideoChunk).bind fun first =>
      (recvRtmpMessage decodeCompleted first.transport lastVideoChunk).map fun second =>
        (second.ret, (first.transport.chunkCache 3).currentPayloadLen,
          (first.transport.chunkCache 3).h.msgLength)) = some (-2, 128, 200) := by
    decide +kernel
  rcases Option.bind_eq_some_iff.mp runs with ⟨first, firstCall, rest⟩
  rcases Option.map_eq_some_iff.mp rest with ⟨second, secondCall, facts⟩
  simp only [Prod.mk.injEq] at facts
  have reached : Reachable first.transport :=
    Reachable.received (Reachable.new fun _ => 0) (List.cons_ne_nil _ _) firstCall
  refine ⟨first.transport, second, reached, secondCall, facts.1, ?_⟩
  rintro ⟨more, later, again, progress⟩
  have failed : second.ret < 0 := by
    rw [facts.1]
    decide
  rw [recvRtmpMessage_retry secondCall failed more] at again
  rcases recvRtmpMessage_undecoded again with ⟨found, undecoded, _, ret, _⟩
  rcases sound_of_reachable reached with ⟨assemblies, sound⟩
  have nonempty : lastVideoChunk ≠ [] := List.cons_ne_nil _ _
  have agree := lengthBytesAgree_of_progress sound nonempty undecoded (ret ▸ progress)
  have base : RtmpHeader.decodeBaseHeader lastVideoChunk = .ok (1, 0, 3) := rfl
  rw [LengthBytesAgree, base] at agree
  rcases agree with idle | spelled
  · rw [facts.2.1] at idle
    exact absurd idle (by decide)
  · rw [facts.2.2] at spelled
    exact absurd spelled (by decide)

end Rtmp
end RtmpClient
