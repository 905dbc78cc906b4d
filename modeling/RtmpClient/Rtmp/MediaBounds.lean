import RtmpClient.Rtmp.DecodeMsg

namespace RtmpClient
namespace Rtmp

open Library Net

/-!
# Where the decoders of media stay inside the body

The layouts that the decoders of the configuration and of the NAL units follow,
and the bodies that have them.  On every other body a decoder reads past the
end or asks for a block of negative size.
-/

/-! ## NAL units -/

/-- NAL units, each behind its length. -/
def unitsEncoding (nalus : List (List UInt8)) : List UInt8 :=
  nalus.flatMap fun nalu => writeUint32 (UInt32.ofNat nalu.length) ++ nalu

/-- The bytes are NAL units, each behind its length, and nothing else. -/
structure Units (data : List UInt8) (nalus : List (List UInt8)) : Prop where
  short : forall nalu, nalu ∈ nalus -> nalu.length < 2 ^ 31
  layout : data = unitsEncoding nalus

theorem lengthField_toNat {length : Nat} (short : length < 2 ^ 31) : (UInt32.ofNat length).toNat = length := by
  rw [UInt32.toNat_ofNat', Nat.mod_eq_of_lt (by omega)]

theorem unitsEncoding_cons (nalu : List UInt8) (nalus : List (List UInt8)) :
    unitsEncoding (nalu :: nalus) = writeUint32 (UInt32.ofNat nalu.length) ++ (nalu ++ unitsEncoding nalus) := by
  rw [unitsEncoding, List.flatMap_cons, List.append_assoc]
  rfl

/-- Every unit takes the bytes of its length at least. -/
theorem length_le_unitsEncoding (nalus : List (List UInt8)) : nalus.length ≤ (unitsEncoding nalus).length := by
  apply length_le_flatMap
  intro nalu _
  rw [List.length_append, writeUint32_length]
  omega

/-- Behind the last byte there is no unit. -/
theorem Units.behind {data : List UInt8} {offset : Nat} (outside : ¬ offset < data.length) :
    Units (data.drop offset) [] where
  short := fun _ member => absurd member List.not_mem_nil
  layout := List.drop_eq_nil_of_le (Nat.not_lt.mp outside)

namespace RtmpVideoPacket

/-- One round at a unit. -/
theorem decodeNalus_unit {nalu : List UInt8} (short : nalu.length < 2 ^ 31) (before rest : List UInt8) (rounds : Nat)
    (held : List (List UInt8)) :
    decodeNalus (before ++ (writeUint32 (UInt32.ofNat nalu.length) ++ (nalu ++ rest))) (rounds + 1) before.length held =
      decodeNalus (before ++ (writeUint32 (UInt32.ofNat nalu.length) ++ (nalu ++ rest))) rounds
        (before.length + 4 + nalu.length) (held ++ [nalu]) := by
  have inside : before.length < (before ++ (writeUint32 (UInt32.ofNat nalu.length) ++ (nalu ++ rest))).length := by
    rw [List.length_append, List.length_append, writeUint32_length]
    omega
  have piece := Outcome.slice_middle (before ++ writeUint32 (UInt32.ofNat nalu.length)) nalu rest
  rw [List.append_assoc, List.length_append, writeUint32_length] at piece
  have positive : ¬ 2 ^ 31 ≤ nalu.length := by omega
  rw [decodeNalus, if_pos inside, readUint32_write, Outcome.ok_bind_do, lengthField_toNat short, if_neg positive, piece,
    Outcome.ok_bind_do]

theorem decodeNalus_units {nalus : List (List UInt8)} (short : forall nalu, nalu ∈ nalus -> nalu.length < 2 ^ 31)
    (before : List UInt8) {rounds : Nat} (enough : nalus.length ≤ rounds) (held : List (List UInt8)) :
    decodeNalus (before ++ unitsEncoding nalus) rounds before.length held = .ok (held ++ nalus) := by
  induction nalus generalizing before rounds held with
  | nil =>
      have ends : ¬ before.length < (before ++ unitsEncoding []).length := by
        rw [unitsEncoding, List.flatMap_nil, List.append_nil]
        exact Nat.lt_irrefl _
      rw [List.append_nil]
      cases rounds with
      | zero => rw [decodeNalus, if_neg ends]
      | succ rounds => rw [decodeNalus, if_neg ends]
  | cons nalu nalus inductionHypothesis =>
      rcases rounds with - | rounds
      · exact absurd enough (Nat.not_succ_le_zero _)
      have rest := inductionHypothesis (fun later member => short later (List.mem_cons_of_mem nalu member))
        (before ++ (writeUint32 (UInt32.ofNat nalu.length) ++ nalu)) (Nat.le_of_succ_le_succ enough) (held ++ [nalu])
      simp only [List.length_append, writeUint32_length, List.append_assoc, List.singleton_append] at rest
      rw [unitsEncoding_cons, decodeNalus_unit (short nalu List.mem_cons_self), Nat.add_assoc]
      exact rest

/-- Units behind the five bytes of the head, or no byte behind them. -/
theorem decodeNalus_behind {data : List UInt8} {nalus held : List (List UInt8)} (units : Units (data.drop 5) nalus) :
    decodeNalus data data.length 5 held = .ok (held ++ nalus) := by
  have enough : nalus.length ≤ data.length := by
    have fewer := length_le_unitsEncoding nalus
    rw [← units.layout, List.length_drop] at fewer
    omega
  by_cases head : 5 ≤ data.length
  · have looped := decodeNalus_units units.short (data.take 5) enough held
    rw [← units.layout, List.take_append_drop, List.length_take, Nat.min_eq_left head] at looped
    exact looped
  · have none : nalus = [] := by
      have fewer := length_le_unitsEncoding nalus
      rw [← units.layout, List.drop_eq_nil_of_le (by omega)] at fewer
      exact List.eq_nil_of_length_eq_zero (Nat.le_zero.mp fewer)
    have ends : ¬ 5 < data.length := by omega
    rw [none, List.append_nil]
    cases data.length with
    | zero => exact if_neg ends
    | succ rounds => exact if_neg ends

/-- What a round of the loop has read is a unit. -/
theorem decodeNalus_ok {data : List UInt8} {rounds offset : Nat} {held found : List (List UInt8)}
    (decoded : decodeNalus data rounds offset held = .ok found) :
    Exists fun nalus => found = held ++ nalus ∧ Units (data.drop offset) nalus := by
  induction rounds generalizing offset held with
  | zero =>
      rw [decodeNalus] at decoded
      split at decoded
      · cases decoded
      next outside =>
        exact ⟨[], (Outcome.ok.inj decoded).symm.trans (List.append_nil held).symm, Units.behind outside⟩
  | succ rounds inductionHypothesis =>
      rw [decodeNalus] at decoded
      split at decoded
      next inside =>
        rcases Outcome.bind_eq_ok decoded with ⟨nalulen, measured, decoded⟩
        split at decoded
        · cases decoded
        next positive =>
          rcases Outcome.bind_eq_ok decoded with ⟨nalu, sliced, decoded⟩
          rcases inductionHypothesis decoded with ⟨nalus, all, units⟩
          rcases writeUint32_of_read measured with ⟨_, field⟩
          rcases Outcome.slice_splits sliced with ⟨length, _, behind⟩
          refine ⟨nalu :: nalus, by rw [all, List.append_assoc, List.singleton_append], ?_, ?_⟩
          · intro other member
            rcases List.mem_cons.mp member with rfl | later
            · omega
            · exact units.short other later
          · rw [unitsEncoding_cons, ← units.layout, ← behind, length, UInt32.ofNat_toNat, field, ← List.drop_drop,
              List.take_append_drop]
      next outside =>
        exact ⟨[], (Outcome.ok.inj decoded).symm.trans (List.append_nil held).symm, Units.behind outside⟩

theorem decodeNalus_unchecked (data : List UInt8) (rounds offset : Nat) (held : List (List UInt8)) :
    (decodeNalus data rounds offset held).Unchecked := by
  induction rounds generalizing offset held with
  | zero =>
      rw [decodeNalus]
      split
      · exact Outcome.unchecked_fault
      · exact Outcome.unchecked_ok held
  | succ rounds inductionHypothesis =>
      rw [decodeNalus]
      split
      · refine (unchecked_readUint32 data offset).bind fun nalulen => ?_
        split
        · exact Outcome.unchecked_fault
        · exact (Outcome.unchecked_slice _ _ _).bind fun nalu => inductionHypothesis _ _
      · exact Outcome.unchecked_ok held

/-- The loop of `decode` ends inside the body on NAL units only. -/
theorem decode_ok_iff (packet found : RtmpVideoPacket) (data : List UInt8) :
    packet.decode data = .ok found ↔
      Exists fun nalus => data ≠ [] ∧ Units (data.drop 5) nalus ∧
        found = { packet with keyframe := data.head? = some 0x17, naluItem := packet.naluItem ++ nalus } := by
  cases data with
  | nil =>
      constructor
      · intro decoded
        cases decoded
      · rintro ⟨_, empty, -⟩
        exact absurd rfl empty
  | cons val tail =>
      have first : (decide ((val :: tail).head? = some 0x17)) = decide (val = 0x17) := by
        rw [List.head?_cons, decide_eq_decide, Option.some.injEq]
      rw [decode, Outcome.read_cons_zero, Outcome.ok_bind_do, first]
      constructor
      · intro decoded
        rcases Outcome.bind_eq_ok decoded with ⟨naluItem, looped, last⟩
        rcases decodeNalus_ok looped with ⟨nalus, all, units⟩
        refine ⟨nalus, List.cons_ne_nil val tail, units, ?_⟩
        rw [← all]
        exact (Outcome.ok.inj last).symm
      · rintro ⟨nalus, -, units, rfl⟩
        rw [decodeNalus_behind units, Outcome.ok_bind_do]
        rfl

theorem decode_unchecked (packet : RtmpVideoPacket) (data : List UInt8) : (packet.decode data).Unchecked :=
  (Outcome.unchecked_read data 0).bind fun _ =>
    (decodeNalus_unchecked data _ 5 _).bind fun _ => Outcome.unchecked_ok _

theorem decode_ne_fault_iff (packet : RtmpVideoPacket) (data : List UInt8) :
    packet.decode data ≠ .fault ↔ data ≠ [] ∧ Exists fun nalus => Units (data.drop 5) nalus := by
  rw [(decode_unchecked packet data).ne_fault_iff]
  constructor
  · rintro ⟨found, decoded⟩
    rcases (decode_ok_iff packet found data).mp decoded with ⟨nalus, nonempty, units, -⟩
    exact ⟨nonempty, nalus, units⟩
  · rintro ⟨nonempty, nalus, units⟩
    exact ⟨_, (decode_ok_iff packet _ data).mpr ⟨nalus, nonempty, units, rfl⟩⟩

end RtmpVideoPacket

/-! ## The configuration -/

/-- A configuration: eleven bytes, the parameter sets behind their lengths, one
byte between them, and whatever follows. -/
structure Configuration (data sps pps : List UInt8) : Prop where
  spsShort : sps.length < 2 ^ 16
  ppsShort : pps.length < 2 ^ 16
  head : 11 ≤ data.length
  layout : Exists fun count => Exists fun rest => data.drop 11 =
    writeInt16 (Int16.ofNat sps.length) ++ (sps ++ ([count] ++ (writeInt16 (Int16.ofNat pps.length) ++ (pps ++ rest))))

theorem shortField_toNat {length : Nat} (short : length < 2 ^ 16) : (Int16.ofNat length).toUInt16.toNat = length := by
  have field : (Int16.ofNat length).toUInt16 = UInt16.ofNat length := rfl
  rw [field, UInt16.toNat_ofNat', Nat.mod_eq_of_lt short]

theorem shortField_ofNat (value : Int16) : Int16.ofNat value.toUInt16.toNat = value := by
  have field : Int16.ofNat value.toUInt16.toNat = (UInt16.ofNat value.toUInt16.toNat).toInt16 := rfl
  rw [field, UInt16.ofNat_toNat, Int16.toInt16_toUInt16]

namespace RtmpAvcPacket

/-- The decoder finds the parameter sets of a configuration. -/
theorem decode_configuration (packet : RtmpAvcPacket) {data sps pps : List UInt8}
    (configuration : Configuration data sps pps) : packet.decode data = .ok { sps, pps } := by
  rcases configuration.layout with ⟨count, rest, layout⟩
  have whole : data = data.take 11 ++ (writeInt16 (Int16.ofNat sps.length) ++ (sps ++ ([count] ++
      (writeInt16 (Int16.ofNat pps.length) ++ (pps ++ rest))))) := by
    rw [← layout, List.take_append_drop]
  have front : (data.take 11).length = 11 := by
    rw [List.length_take]
    exact Nat.min_eq_left configuration.head
  have long : ¬ data.length < 11 := Nat.not_lt.mpr configuration.head
  generalize data.take 11 = before at whole front
  have spslen := readInt16_write (Int16.ofNat sps.length) before
    (sps ++ ([count] ++ (writeInt16 (Int16.ofNat pps.length) ++ (pps ++ rest))))
  have set := Outcome.slice_middle (before ++ writeInt16 (Int16.ofNat sps.length)) sps
    ([count] ++ (writeInt16 (Int16.ofNat pps.length) ++ (pps ++ rest)))
  have ppslen := readInt16_write (Int16.ofNat pps.length)
    (before ++ (writeInt16 (Int16.ofNat sps.length) ++ (sps ++ [count]))) (pps ++ rest)
  have set' := Outcome.slice_middle (before ++ (writeInt16 (Int16.ofNat sps.length) ++ (sps ++ ([count] ++
    writeInt16 (Int16.ofNat pps.length))))) pps rest
  simp only [List.append_assoc, List.length_append, writeInt16_length, front, List.length_singleton]
    at spslen set ppslen set'
  rw [← whole] at spslen set ppslen set'
  have second : 13 + sps.length + 1 = 11 + (2 + (sps.length + 1)) := by omega
  have third : 13 + sps.length + 3 = 11 + (2 + (sps.length + (1 + 2))) := by omega
  rw [decode, if_neg long, spslen, Outcome.ok_bind_do, shortField_toNat configuration.spsShort, set,
    Outcome.ok_bind_do]
  simp only [second, third, ppslen, set', shortField_toNat configuration.ppsShort, Outcome.ok_bind_do, Outcome.pure_eq]

/-- What the decoder accepts is a configuration. -/
theorem decode_ok {packet found : RtmpAvcPacket} {data : List UInt8} (decoded : packet.decode data = .ok found) :
    Configuration data found.sps found.pps := by
  rw [decode] at decoded
  split at decoded
  · cases decoded
  next long =>
    rcases Outcome.bind_eq_ok decoded with ⟨spslen, measured, decoded⟩
    rcases Outcome.bind_eq_ok decoded with ⟨sps, set, decoded⟩
    rcases Outcome.bind_eq_ok decoded with ⟨ppslen, measured', decoded⟩
    rcases Outcome.bind_eq_ok decoded with ⟨pps, set', last⟩
    have field := drop_eq_of_take (writeInt16_of_read measured).2
    have field' := drop_eq_of_take (writeInt16_of_read measured').2
    rcases Outcome.slice_splits set with ⟨length, _, behind⟩
    rcases Outcome.slice_splits set' with ⟨length', _, behind'⟩
    have count : 13 + spslen.toUInt16.toNat < data.length := by
      have inside := (writeInt16_of_read measured').1
      omega
    rw [← Outcome.ok.inj last]
    refine ⟨length ▸ spslen.toUInt16.toNat_lt, length' ▸ ppslen.toUInt16.toNat_lt, Nat.not_lt.mp long,
      data[13 + spslen.toUInt16.toNat], data.drop (13 + spslen.toUInt16.toNat + 3 + ppslen.toUInt16.toNat), ?_⟩
    rw [length, length', shortField_ofNat, shortField_ofNat, ← behind', ← field', List.singleton_append,
      ← List.drop_eq_getElem_cons count, ← behind, field]

/-- Behind the check of the length nothing is checked. -/
theorem decode_unchecked (packet : RtmpAvcPacket) {data : List UInt8} (long : 11 ≤ data.length) :
    (packet.decode data).Unchecked := by
  rw [decode, if_neg (Nat.not_lt.mpr long)]
  refine (unchecked_readInt16 data 11).bind fun spslen => (Outcome.unchecked_slice _ _ _).bind fun sps => ?_
  exact (unchecked_readInt16 data _).bind fun ppslen => (Outcome.unchecked_slice _ _ _).bind fun pps =>
    Outcome.unchecked_ok _

theorem decode_error {packet : RtmpAvcPacket} {data : List UInt8} {code : Int}
    (failed : packet.decode data = .error code) : code < 0 := by
  by_cases long : 11 ≤ data.length
  · exact absurd failed (decode_unchecked packet long code)
  · rw [decode, if_pos (Nat.not_le.mp long)] at failed
    rw [← Outcome.error.inj failed]
    decide

/-- Apart from a body too short for the head, only configurations are decoded
inside the body. -/
theorem decode_ne_fault_iff (packet : RtmpAvcPacket) (data : List UInt8) :
    packet.decode data ≠ .fault ↔
      (11 ≤ data.length -> Exists fun sps => Exists fun pps => Configuration data sps pps) := by
  by_cases long : 11 ≤ data.length
  · rw [(decode_unchecked packet long).ne_fault_iff]
    constructor
    · rintro ⟨found, decoded⟩ _
      exact ⟨found.sps, found.pps, decode_ok decoded⟩
    · intro inside
      rcases inside long with ⟨sps, pps, configuration⟩
      exact ⟨_, decode_configuration packet configuration⟩
  · rw [decode, if_pos (Nat.not_le.mp long)]
    refine ⟨fun _ enough => absurd enough long, fun _ faulted => ?_⟩
    cases faulted

end RtmpAvcPacket

/-! ## Audio, and the choice of the decoder -/

theorem RtmpAudioPacket.decode_cons (packet : RtmpAudioPacket) (flag : UInt8) (data : List UInt8) :
    packet.decode (flag :: data) = .ok { packet with flag, data } := by
  have body := Outcome.slice_middle [flag] data []
  rw [List.append_nil, List.singleton_append, List.length_singleton] at body
  rw [decode, Outcome.read_cons_zero, Outcome.ok_bind_do, List.length_cons, Nat.add_sub_cancel, body]
  rfl

theorem RtmpAudioPacket.decode_unchecked (packet : RtmpAudioPacket) (data : List UInt8) :
    (packet.decode data).Unchecked :=
  (Outcome.unchecked_read data 0).bind fun _ =>
    (Outcome.unchecked_slice data 1 _).bind fun _ => Outcome.unchecked_ok _

theorem RtmpAudioPacket.decode_ne_fault_iff (packet : RtmpAudioPacket) (data : List UInt8) :
    packet.decode data ≠ .fault ↔ data ≠ [] := by
  cases data with
  | nil => exact iff_of_false (fun returned => returned rfl) fun some => some rfl
  | cons flag data =>
      refine iff_of_true (fun faulted => ?_) (List.cons_ne_nil flag data)
      rw [decode_cons] at faulted
      cases faulted

/-- The bodies in which every byte that the decoders of media look at lies
inside: an audio body with its first byte, a video body with its first two, a
configuration unless it is too short for its head, and NAL units up to the end. -/
def MediaInside (msgTypeId : UInt8) (body : List UInt8) : Prop :=
  if msgTypeId = rtmpMsgAudioMessage then body ≠ []
  else Exists fun val => Exists fun kind => Exists fun tail => body = val :: kind :: tail ∧
    (kind = 0x00 -> 11 ≤ body.length -> Exists fun sps => Exists fun pps => Configuration body sps pps) ∧
    (kind = 0x01 -> Exists fun nalus => Units (body.drop 5) nalus)

theorem decodeMediaMsg_audio {msg : RtmpMessage} (audio : msg.rtmpHeader.msgTypeId = rtmpMsgAudioMessage) :
    decodeMediaMsg msg =
      (RtmpAudioPacket.new 0 msg.rtmpHeader.timestamp).decode msg.rtmpBody >>= fun packet => .ok (some (.audio packet)) :=
  if_pos audio

/-- What becomes of a video body that has its first two bytes. -/
theorem decodeMediaMsg_video {msg : RtmpMessage} {val kind : UInt8} {tail : List UInt8}
    (video : msg.rtmpHeader.msgTypeId ≠ rtmpMsgAudioMessage) (body : msg.rtmpBody = val :: kind :: tail) :
    decodeMediaMsg msg =
      if kind = 0x00 then
        match RtmpAvcPacket.new.decode msg.rtmpBody with
        | .fault => .fault
        | .error _ => .ok (some (.avc .new))
        | .ok packet => .ok (some (.avc packet))
      else if kind = 0x01 then
        (RtmpVideoPacket.new msg.rtmpHeader.timestamp false).decode msg.rtmpBody >>= fun packet =>
          .ok (some (.video packet))
      else .ok none := by
  have second : Outcome.read msg.rtmpBody 1 = .ok kind := by rw [body]; rfl
  rw [decodeMediaMsg, if_neg video, second]
  rfl

theorem decodeMediaMsg_short {msg : RtmpMessage} (video : msg.rtmpHeader.msgTypeId ≠ rtmpMsgAudioMessage)
    (short : msg.rtmpBody.length < 2) : decodeMediaMsg msg = .fault := by
  have outside : Outcome.read msg.rtmpBody 1 = .fault := by
    rw [Outcome.read, List.getElem?_eq_none (Nat.le_of_lt_succ short)]
  rw [decodeMediaMsg, if_neg video, outside]
  rfl

/-- The second byte chooses the layout that the rest has to have. -/
theorem decodeMediaMsg_video_ne_fault_iff {msg : RtmpMessage} {val kind : UInt8} {tail : List UInt8}
    (video : msg.rtmpHeader.msgTypeId ≠ rtmpMsgAudioMessage) (body : msg.rtmpBody = val :: kind :: tail) :
    decodeMediaMsg msg ≠ .fault ↔
      (kind = 0x00 -> 11 ≤ msg.rtmpBody.length -> Exists fun sps => Exists fun pps => Configuration msg.rtmpBody sps pps) ∧
      (kind = 0x01 -> Exists fun nalus => Units (msg.rtmpBody.drop 5) nalus) := by
  have nonempty : msg.rtmpBody ≠ [] := by
    rw [body]
    exact List.cons_ne_nil _ _
  rw [decodeMediaMsg_video video body]
  by_cases configuration : kind = 0x00
  · have noUnits : kind ≠ 0x01 := by
      rw [configuration]
      decide
    rw [if_pos configuration]
    have same := RtmpAvcPacket.new.decode_ne_fault_iff msg.rtmpBody
    constructor
    · intro returned
      refine ⟨fun _ => same.mp fun faulted => returned ?_, fun units => absurd units noUnits⟩
      rw [faulted]
    · rintro ⟨inside, -⟩ faulted
      apply same.mpr (inside configuration)
      split at faulted
      next decoded => exact decoded
      · cases faulted
      · cases faulted
  · rw [if_neg configuration]
    by_cases units : kind = 0x01
    · rw [if_pos units]
      have same := (RtmpVideoPacket.new msg.rtmpHeader.timestamp false).decode_ne_fault_iff msg.rtmpBody
      constructor
      · intro returned
        refine ⟨fun impossible => absurd impossible configuration, fun _ => (same.mp fun faulted => returned ?_).2⟩
        rw [faulted]
        rfl
      · rintro ⟨-, inside⟩
        rcases ((RtmpVideoPacket.decode_unchecked _ _).ne_fault_iff.mp (same.mpr ⟨nonempty, inside units⟩)) with
          ⟨packet, decoded⟩
        rw [decoded]
        intro faulted
        cases faulted
    · rw [if_neg units]
      refine ⟨fun _ => ⟨fun impossible => absurd impossible configuration, fun impossible => absurd impossible units⟩, ?_⟩
      intro _ faulted
      cases faulted

/-- The body is decoded inside its bounds exactly when its lengths are true. -/
theorem decodeMediaMsg_ne_fault_iff (msg : RtmpMessage) :
    decodeMediaMsg msg ≠ .fault ↔ MediaInside msg.rtmpHeader.msgTypeId msg.rtmpBody := by
  by_cases audio : msg.rtmpHeader.msgTypeId = rtmpMsgAudioMessage
  · rw [decodeMediaMsg_audio audio, MediaInside, if_pos audio,
      ← (RtmpAudioPacket.new 0 msg.rtmpHeader.timestamp).decode_ne_fault_iff]
    cases (RtmpAudioPacket.new 0 msg.rtmpHeader.timestamp).decode msg.rtmpBody with
    | ok found => exact iff_of_true (fun faulted => by cases faulted) fun faulted => by cases faulted
    | error code => exact iff_of_true (fun faulted => by cases faulted) fun faulted => by cases faulted
    | fault => exact iff_of_false (fun returned => returned rfl) fun returned => returned rfl
  · rw [MediaInside, if_neg audio]
    rcases two : msg.rtmpBody with - | ⟨val, - | ⟨kind, tail⟩⟩
    · rw [decodeMediaMsg_short audio (by rw [two]; decide)]
      refine ⟨fun returned => absurd rfl returned, ?_⟩
      rintro ⟨_, _, _, impossible, -⟩
      cases impossible
    · rw [decodeMediaMsg_short audio (by rw [two]; exact Nat.lt_succ_self 1)]
      refine ⟨fun returned => absurd rfl returned, ?_⟩
      rintro ⟨_, _, _, impossible, -⟩
      cases impossible
    · rw [decodeMediaMsg_video_ne_fault_iff audio two, two]
      constructor
      · intro inside
        exact ⟨val, kind, tail, rfl, inside⟩
      · rintro ⟨_, _, _, equal, inside⟩
        cases equal
        exact inside

/-- An audio message without a byte. -/
theorem decodeMediaMsg_empty_audio :
    decodeMediaMsg { rtmpHeader := { RtmpHeader.new with msgTypeId := rtmpMsgAudioMessage }
                     rtmpBody := [], rtmpBodyLen := 0 } = .fault := rfl

end Rtmp
end RtmpClient
