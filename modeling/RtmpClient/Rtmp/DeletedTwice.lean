import RtmpClient.Amf0.Fields
import RtmpClient.Rtmp.CommandPacket

namespace RtmpClient
namespace Rtmp

open Library Net Amf0

/-!
# Bodies in which a value is deleted twice

`RtmpAmf0Object::read` deletes the value of a property that broke off, although
it is deleted by then.  The decoders that read objects, or values of any type,
get to such an object behind the fields in front of it and do not come to an
end.  For each of them this says, by the bytes, on which bodies.
-/

variable {data : List UInt8}

/-! ## The readers -/

/-- In front stands an object in which the value of a property breaks off. -/
def ObjectSpoiled (data : List UInt8) : Prop := RtmpAmf0Any.discovery data = .ok (.object []) ∧ Spoiled data

theorem discovery_object (marked : readInt8 data 0 = .ok rtmpAmf0Object) :
    RtmpAmf0Any.discovery data = .ok (.object []) := by
  have head := drop_eq_of_take (writeInt8_of_read marked).2
  rw [List.drop_zero] at head
  rw [head]
  exact discovery_of_notEof (notEof_of_first _ (by decide)) rfl

/-- The reader of objects, whatever the table held before. -/
theorem readObject_fault_iff (held : UnSortedHashtable RtmpAmf0Any) (data : List UInt8) :
    RtmpAmf0Object.read rtmpAmf0ReadAny held data = .fault ↔ ObjectSpoiled data := by
  have decides (found : RtmpAmf0Any.discovery data = .ok (.object [])) :=
    readObject_decides (fun shorter _ => rtmpAmf0ReadAny_decides shorter) found held
  constructor
  · intro faulted
    have found : RtmpAmf0Any.discovery data = .ok (.object []) := by
      rw [RtmpAmf0Object.read] at faulted
      split at faulted
      · cases faulted
      next some =>
        rcases (readInt8_returns (show 0 < data.length by omega)).bind_fault faulted with ⟨marker, marked, behind⟩
        split at behind
        · cases behind
        next object => exact discovery_object (not_not.mp object ▸ marked)
    exact ⟨found, (decides found).fault_iff.mp faulted⟩
  · rintro ⟨found, spoiled⟩
    exact (decides found).fault_iff.mpr spoiled

/-- Where it comes to an end it has read something, if there was anything. -/
theorem readObject_consumes (held : UnSortedHashtable RtmpAmf0Any) (some : data ≠ [])
    (ended : RtmpAmf0Object.read rtmpAmf0ReadAny held data ≠ .fault) :
    Consumes 1 (RtmpAmf0Object.read rtmpAmf0ReadAny held) data := by
  have nonempty : 0 < data.length := List.length_pos_of_ne_nil some
  by_cases found : RtmpAmf0Any.discovery data = .ok (.object [])
  · have decides := readObject_decides (fun shorter _ => rtmpAmf0ReadAny_decides shorter) found held
    exact decides.returns (mt decides.fault_iff.mpr ended) fun _ _ begins => ⟨begins.width_pos, begins.width_le⟩
  · rw [Consumes, RtmpAmf0Object.read, if_neg (Nat.not_lt.mpr nonempty)]
    refine (readInt8_returns nonempty).found.bind fun marker marked => ?_
    refine .ite (fun _ => (by decide : (-2 : Int) < 0)) fun object => ?_
    exact absurd (discovery_object (not_not.mp object ▸ marked.2)) found

theorem readDiscovered_decides (data : List UInt8) :
    Decides (Begins .value data) (Spoiled data) (RtmpCallPacket.readDiscovered data) := by
  rw [RtmpCallPacket.readDiscovered]
  rcases (discovery_returns data).cases with ⟨value, found, _⟩ | ⟨code, none, negative⟩
  · rw [found, Outcome.ok_bind_do]
    exact read_decides (fun shorter _ => rtmpAmf0ReadAny_decides shorter) found
  · have nothing : ¬ Exists fun value => RtmpAmf0Any.discovery data = .ok value := by
      rintro ⟨value, found⟩
      cases none.symm.trans found
    rw [none]
    exact .refused negative (fun width begins => nothing begins.discovered) fun spoiled => nothing spoiled.broken.1

theorem readDiscovered_ok_iff (data : List UInt8) (width : Nat) :
    (Exists fun value => RtmpCallPacket.readDiscovered data = .ok (width, value)) ↔ Begins .value data width :=
  (readDiscovered_decides data).ok_iff (fun _ _ begins begins' => begins.width_unique begins') width

theorem readDiscovered_consumes (ended : RtmpCallPacket.readDiscovered data ≠ .fault) :
    Consumes 1 RtmpCallPacket.readDiscovered data :=
  (readDiscovered_decides data).returns (mt (readDiscovered_decides data).fault_iff.mpr ended)
    fun _ _ begins => ⟨begins.width_pos, begins.width_le⟩

/-! ## The fields in front -/

/-- A string that leaves an accepted name, a number that counts, and the rest of
the body. -/
def BehindNumber (held : List UInt8) (accepts : List UInt8 -> Prop) (counts : UInt64 -> Prop)
    (data rest : List UInt8) : Prop :=
  Exists fun cells => Exists fun text => Exists fun bits => StringBytes held text cells ∧ accepts text ∧
    counts bits ∧ data = cells ++ ((RtmpAmf0Any.number bits).encoding ++ rest)

/-- The rest is where two readers have got to. -/
theorem behindNumber_iff {held rest : List UInt8} {accepts : List UInt8 -> Prop} {counts : UInt64 -> Prop} :
    BehindNumber held accepts counts data rest ↔
      Exists fun named => Exists fun numbered => rtmpAmf0ReadString held data = .ok named ∧ accepts named.2 ∧
        rtmpAmf0ReadNumber (data.drop named.1) = .ok numbered ∧ counts numbered.2 ∧
        data.drop (named.1 + numbered.1) = rest := by
  constructor
  · rintro ⟨cells, text, bits, bytes, accepted, counted, rfl⟩
    refine ⟨(cells.length, text), ((RtmpAmf0Any.number bits).encoding.length, bits),
      read_of_stringBytes bytes _, accepted, ?_, counted, ?_⟩
    · rw [List.drop_left]
      exact readNumber_recovers bits rest
    · rw [List.drop_length_add_append, List.drop_left]
  · rintro ⟨⟨first, text⟩, ⟨second, bits⟩, named, accepted, numbered, counted, rfl⟩
    rcases stringBytes_of_read named with ⟨cells, bytes, _, split⟩
    rcases number_of_read numbered with ⟨rfl, split'⟩
    refine ⟨cells, text, bits, bytes, accepted, counted, ?_⟩
    rw [← List.drop_drop, ← split', ← split]

/-- The name, the number and the null that most commands begin with. -/
def BehindHead (held : List UInt8) (accepts : List UInt8 -> Bool) (data rest : List UInt8) : Prop :=
  BehindNumber held (accepts · = true) (fun _ => True) data (RtmpAmf0Any.null.encoding ++ rest)

theorem null_of_read {found : Nat × Unit} (read : rtmpAmf0ReadNull data = .ok found) :
    found.1 = 1 ∧ data = RtmpAmf0Any.null.encoding ++ data.drop 1 := by
  rw [rtmpAmf0ReadNull, readMarkerOnly] at read
  split at read
  · cases read
  · rcases Outcome.bind_eq_ok read with ⟨marker, marked, last⟩
    split at last
    · cases last
    next null =>
      have head := drop_eq_of_take (writeInt8_of_read marked).2
      rw [List.drop_zero, not_not.mp null] at head
      exact ⟨(congrArg Prod.fst (Outcome.ok.inj last)).symm, head⟩

theorem behindHead_iff {held rest : List UInt8} {accepts : List UInt8 -> Bool} :
    BehindHead held accepts data rest ↔
      Exists fun head => readHead held accepts data = .ok head ∧ data.drop head.1 = rest := by
  rw [BehindHead, behindNumber_iff]
  constructor
  · rintro ⟨⟨first, text⟩, ⟨second, bits⟩, named, accepted, numbered, -, behind⟩
    have null : rtmpAmf0ReadNull (RtmpAmf0Any.null.encoding ++ rest) =
        .ok (RtmpAmf0Any.null.encoding.length, ()) := readMarkerOnly_recovers rtmpAmf0Null rest
    refine ⟨(first + second + 1, text, bits), ?_, ?_⟩
    · simp only [readHead, named, Outcome.ok_bind_do, if_pos accepted, numbered, behind, null]
      rfl
    · show data.drop (first + second + 1) = rest
      rw [← List.drop_drop, behind]
      rfl
  · rintro ⟨⟨width, name, number⟩, read, rfl⟩
    rcases Outcome.bind_eq_ok read with ⟨⟨first, text⟩, named, read⟩
    simp only at read
    split at read
    next accepted =>
      rcases Outcome.bind_eq_ok read with ⟨⟨second, bits⟩, numbered, read⟩
      rcases Outcome.bind_eq_ok read with ⟨⟨third, _⟩, nulled, last⟩
      rcases null_of_read nulled with ⟨rfl, split⟩
      have widths : first + second + 1 = width := congrArg Prod.fst (Outcome.ok.inj last)
      refine ⟨_, _, named, accepted, numbered, trivial, ?_⟩
      rw [split, List.drop_drop, ← widths]
    · cases read

theorem readHead_ne_fault (held : List UInt8) (accepts : List UInt8 -> Bool) (data : List UInt8) :
    readHead held accepts data ≠ .fault := by
  intro faulted
  rcases Outcome.Returns.bind_fault (readString_consumes held data) faulted with ⟨named, _, faulted⟩
  simp only at faulted
  split at faulted
  · rcases Outcome.Returns.bind_fault (readNumber_consumes (data.drop named.1)) faulted with ⟨numbered, _, faulted⟩
    rcases Outcome.Returns.bind_fault (readMarkerOnly_consumes rtmpAmf0Null (data.drop (named.1 + numbered.1)))
      faulted with ⟨nulled, _, impossible⟩
    cases impossible
  · cases faulted

/-! ## The decoders -/

/-- The command object of a request to connect. -/
def RtmpConnectPacket.DeletesTwice (packet : RtmpConnectPacket) (data : List UInt8) : Prop :=
  Exists fun rest => BehindNumber packet.commandName (· = ascii "connect")
    (doubleEq · (Double.ofNat 1) = true) data rest ∧ ObjectSpoiled rest

theorem RtmpConnectPacket.decode_fault_iff (packet : RtmpConnectPacket) (data : List UInt8) :
    packet.decode data = .fault ↔ packet.DeletesTwice data := by
  constructor
  · intro faulted
    rcases Outcome.Returns.bind_fault (readString_consumes packet.commandName data) faulted with ⟨named, read, faulted⟩
    simp only at faulted
    split at faulted
    next connect =>
      rcases Outcome.Returns.bind_fault (readNumber_consumes (data.drop named.1)) faulted with ⟨numbered, read', faulted⟩
      split at faulted
      next one =>
        rcases Outcome.bind_eq_fault faulted with object | ⟨_, _, impossible⟩
        · exact ⟨_, behindNumber_iff.mpr ⟨named, numbered, read, connect, read', one, rfl⟩,
            (readObject_fault_iff _ _).mp object⟩
        · cases impossible
      · cases faulted
    · cases faulted
  · rintro ⟨rest, behind, object⟩
    rcases behindNumber_iff.mp behind with ⟨named, numbered, read, connect, read', one, rfl⟩
    have faulted := (readObject_fault_iff packet.commandObject _).mpr object
    simp only [decode, read, Outcome.ok_bind_do, connect, if_true, read', one, faulted, Outcome.fault_bind_do]

/-- The value or the information of an answer to connect. -/
def RtmpConnectResponsePacket.DeletesTwice (packet : RtmpConnectResponsePacket) (data : List UInt8) : Prop :=
  Exists fun rest => BehindNumber packet.commandName (· = ascii "_result") (fun _ => True) data rest ∧
    (Spoiled rest ∨ Exists fun width => Begins .value rest width ∧ ObjectSpoiled (rest.drop width))

theorem RtmpConnectResponsePacket.readObjectPart_fault_iff (held : UnSortedHashtable RtmpAmf0Any)
    (rest : List UInt8) : readObjectPart held rest = .fault ↔ Spoiled rest := by
  rw [readObjectPart, ← rtmpAmf0ReadAny_fault_iff]
  constructor
  · intro faulted
    split at faulted
    · rcases Outcome.bind_eq_fault faulted with read | ⟨⟨ret, value⟩, _, impossible⟩
      · exact Outcome.errorAs_eq_fault_iff.mp read
      · cases value with
        | _ => cases impossible
    · cases faulted
  · intro read
    have some : rest.length > 0 := by
      apply List.length_pos_of_ne_nil
      rintro rfl
      cases read
    rw [if_pos some, read]
    rfl

theorem RtmpConnectResponsePacket.readObjectPart_ok {held table : UnSortedHashtable RtmpAmf0Any}
    {rest : List UInt8} {width : Nat} (read : readObjectPart held rest = .ok (width, table)) :
    rest = [] ∨ Begins .value rest width := by
  rw [readObjectPart] at read
  split at read
  · rcases Outcome.bind_eq_ok read with ⟨⟨ret, value⟩, found, last⟩
    have begins := (rtmpAmf0ReadAny_ok_iff rest ret).mp ⟨value, Outcome.errorAs_eq_ok found⟩
    have same : ret = width := by
      cases value with
      | _ => exact congrArg Prod.fst (Outcome.ok.inj last)
    exact Or.inr (same ▸ begins)
  next none => exact Or.inl (List.eq_nil_of_length_eq_zero (by omega))

theorem RtmpConnectResponsePacket.readObjectPart_begins (held : UnSortedHashtable RtmpAmf0Any)
    {rest : List UInt8} {width : Nat} (begins : Begins .value rest width) :
    Exists fun table => readObjectPart held rest = .ok (width, table) := by
  rcases (rtmpAmf0ReadAny_ok_iff rest width).mpr begins with ⟨value, read⟩
  have some : rest.length > 0 := List.length_pos_of_ne_nil begins.ne_nil
  rw [readObjectPart, if_pos some, read, Outcome.errorAs_ok, Outcome.ok_bind_do]
  cases value with
  | object properties => exact ⟨properties, rfl⟩
  | _ => exact ⟨held, rfl⟩

theorem RtmpConnectResponsePacket.decode_fault_iff (packet : RtmpConnectResponsePacket) (data : List UInt8) :
    packet.decode data = .fault ↔ packet.DeletesTwice data := by
  constructor
  · intro faulted
    rcases Outcome.Returns.bind_fault ((readString_consumes packet.commandName data).errorAs (by decide)) faulted
      with ⟨named, read, faulted⟩
    simp only at faulted
    split at faulted
    next result =>
      rcases Outcome.Returns.bind_fault ((readNumber_consumes (data.drop named.1)).errorAs (by decide)) faulted
        with ⟨numbered, read', faulted⟩
      refine ⟨_, behindNumber_iff.mpr ⟨named, numbered, Outcome.errorAs_eq_ok read, result,
        Outcome.errorAs_eq_ok read', trivial, rfl⟩, ?_⟩
      rcases Outcome.bind_eq_fault faulted with part | ⟨⟨width, table⟩, part, faulted⟩
      · exact Or.inl ((readObjectPart_fault_iff _ _).mp part)
      · rcases Outcome.bind_eq_fault faulted with info | ⟨_, _, impossible⟩
        · have object := (readObject_fault_iff _ _).mp info
          rw [← List.drop_drop] at object
          rcases readObjectPart_ok part with ended | begins
          · rw [ended, List.drop_nil] at object
            cases object.1
          · exact Or.inr ⟨width, begins, object⟩
        · cases impossible
    · cases faulted
  · rintro ⟨rest, behind, spoiled⟩
    rcases behindNumber_iff.mp behind with ⟨named, numbered, read, result, read', -, rfl⟩
    simp only [decode, read, Outcome.errorAs_ok, Outcome.ok_bind_do, result, if_true, read']
    rcases spoiled with spoiled | ⟨width, begins, object⟩
    · rw [(readObjectPart_fault_iff packet.object _).mpr spoiled]
      rfl
    · rcases readObjectPart_begins packet.object begins with ⟨table, part⟩
      rw [List.drop_drop] at object
      rw [part, Outcome.ok_bind_do, (readObject_fault_iff packet.info _).mpr object]
      rfl

/-- The object or the arguments of a call. -/
def RtmpCallPacket.DeletesTwice (packet : RtmpCallPacket) (data : List UInt8) : Prop :=
  Exists fun rest => BehindNumber packet.commandName (· ≠ []) (fun _ => True) data rest ∧
    (Spoiled rest ∨ Exists fun width => Begins .value rest width ∧ Spoiled (rest.drop width))

theorem RtmpCallPacket.decode_fault_iff (packet : RtmpCallPacket) (data : List UInt8) :
    packet.decode data = .fault ↔ packet.DeletesTwice data := by
  constructor
  · intro faulted
    rcases Outcome.Returns.bind_fault (readString_consumes packet.commandName data) faulted with ⟨named, read, faulted⟩
    simp only at faulted
    split at faulted
    · cases faulted
    next some =>
      rcases Outcome.Returns.bind_fault ((readNumber_consumes (data.drop named.1)).errorAs (by decide)) faulted
        with ⟨numbered, read', faulted⟩
      refine ⟨_, behindNumber_iff.mpr ⟨named, numbered, read, some, Outcome.errorAs_eq_ok read', trivial, rfl⟩, ?_⟩
      rcases Outcome.bind_eq_fault faulted with object | ⟨⟨width, value⟩, object, faulted⟩
      · exact Or.inl ((readDiscovered_decides _).fault_iff.mp object)
      · simp only at faulted
        split at faulted
        · rcases Outcome.bind_eq_fault faulted with args | ⟨_, _, impossible⟩
          · have spoiled := (readDiscovered_decides _).fault_iff.mp args
            rw [← List.drop_drop] at spoiled
            exact Or.inr ⟨width, (readDiscovered_ok_iff _ width).mp ⟨value, object⟩, spoiled⟩
          · cases impossible
        · cases faulted
  · rintro ⟨rest, behind, spoiled⟩
    rcases behindNumber_iff.mp behind with ⟨named, numbered, read, some, read', -, rfl⟩
    simp only [decode, read, Outcome.ok_bind_do, if_neg some, read', Outcome.errorAs_ok]
    rcases spoiled with spoiled | ⟨width, begins, spoiled⟩
    · rw [(readDiscovered_decides _).fault_iff.mpr spoiled]
      rfl
    · rcases (readDiscovered_ok_iff _ width).mpr begins with ⟨value, object⟩
      rw [List.drop_drop] at spoiled
      have left : named.1 + numbered.1 + width < data.length := by
        by_contra ended
        exact spoiled.ne_nil (List.drop_eq_nil_of_le (Nat.not_lt.mp ended))
      rw [object, Outcome.ok_bind_do, if_pos left, (readDiscovered_decides _).fault_iff.mpr spoiled]
      rfl

/-- The last optional value of play, behind the two numbers. -/
def RtmpPlayPacket.DeletesTwice (packet : RtmpPlayPacket) (data : List UInt8) : Prop :=
  Exists fun stream => Exists fun title => Exists fun start => Exists fun duration => Exists fun rest =>
    BehindHead packet.commandName (· = ascii "play") data
      (stream ++ ((RtmpAmf0Any.number start).encoding ++ ((RtmpAmf0Any.number duration).encoding ++ rest))) ∧
    StringBytes packet.streamName title stream ∧ Spoiled rest

theorem RtmpPlayPacket.readOptionalNumber_ne_fault (held : UInt64) (rest : List UInt8) :
    readOptionalNumber held rest ≠ .fault := by
  rw [readOptionalNumber]
  split
  · exact Outcome.Returns.ne_fault (readNumber_consumes rest)
  · exact fun impossible => by cases impossible

/-- With bytes left behind it, an optional number was there. -/
theorem RtmpPlayPacket.readOptionalNumber_bytes {held bits : UInt64} {rest : List UInt8} {width : Nat}
    (read : readOptionalNumber held rest = .ok (width, bits)) (more : rest.drop width ≠ []) :
    rest = (RtmpAmf0Any.number bits).encoding ++ rest.drop width := by
  rw [readOptionalNumber] at read
  split at read
  · rcases number_of_read read with ⟨rfl, split⟩
    exact split
  next none =>
    rw [List.eq_nil_of_length_eq_zero (by omega : rest.length = 0), List.drop_nil] at more
    exact absurd rfl more

theorem RtmpPlayPacket.readReset_fault_iff (held : Bool) (rest : List UInt8) :
    readReset held rest = .fault ↔ Spoiled rest := by
  rw [readReset, ← rtmpAmf0ReadAny_fault_iff]
  constructor
  · intro faulted
    split at faulted
    · rcases Outcome.bind_eq_fault faulted with read | ⟨⟨ret, value⟩, _, impossible⟩
      · exact read
      · cases value with
        | _ => cases impossible
    · cases faulted
  · intro read
    have some : rest.length > 0 := by
      apply List.length_pos_of_ne_nil
      rintro rfl
      cases read
    rw [if_pos some, read]
    rfl

theorem RtmpPlayPacket.decode_fault_iff (packet : RtmpPlayPacket) (data : List UInt8) :
    packet.decode data = .fault ↔ packet.DeletesTwice data := by
  constructor
  · intro faulted
    rcases Outcome.bind_eq_fault faulted with impossible | ⟨head, read, faulted⟩
    · exact absurd impossible (readHead_ne_fault _ _ _)
    rcases Outcome.Returns.bind_fault (readString_consumes packet.streamName (data.drop head.1)) faulted
      with ⟨⟨second, title⟩, text, faulted⟩
    rcases Outcome.bind_eq_fault faulted with impossible | ⟨⟨third, start⟩, first, faulted⟩
    · exact absurd impossible (readOptionalNumber_ne_fault _ _)
    rcases Outcome.bind_eq_fault faulted with impossible | ⟨⟨fourth, duration⟩, last, faulted⟩
    · exact absurd impossible (readOptionalNumber_ne_fault _ _)
    rcases Outcome.bind_eq_fault faulted with reset | ⟨_, _, impossible⟩
    · have spoiled := (readReset_fault_iff _ _).mp reset
      simp only [← List.drop_drop] at first last spoiled
      rcases stringBytes_of_read text with ⟨stream, bytes, rfl, split⟩
      have behind := readOptionalNumber_bytes last spoiled.ne_nil
      have more : ((data.drop head.1).drop stream.length).drop third ≠ [] := by
        intro none
        rw [none, List.drop_nil] at spoiled
        exact spoiled.ne_nil rfl
      have behind' := readOptionalNumber_bytes first more
      rw [behind] at behind'
      rw [behind'] at split
      exact ⟨stream, title, start, duration, _, behindHead_iff.mpr ⟨head, read, split⟩, bytes, spoiled⟩
    · cases impossible
  · rintro ⟨stream, title, start, duration, rest, behind, bytes, spoiled⟩
    rcases behindHead_iff.mp behind with ⟨head, read, split⟩
    have number (held bits : UInt64) (rest : List UInt8) :
        readOptionalNumber held ((RtmpAmf0Any.number bits).encoding ++ rest) =
          .ok ((RtmpAmf0Any.number bits).encoding.length, bits) := by
      have left : ((RtmpAmf0Any.number bits).encoding ++ rest).length > 0 := by
        have nonempty := encoding_pos (.number bits)
        rw [List.length_append]
        omega
      rw [readOptionalNumber, if_pos left]
      exact readNumber_recovers bits rest
    simp only [decode, read, Outcome.ok_bind_do, ← List.drop_drop, split, read_of_stringBytes bytes _, List.drop_left,
      number, (readReset_fault_iff packet.reset rest).mpr spoiled, Outcome.fault_bind_do]

/-- The name of the metadata, or the marker of a data frame and then the name, and
the rest of the body. -/
def BehindName (held data rest : List UInt8) : Prop :=
  (Exists fun cells => Exists fun name =>
    StringBytes held name cells ∧ name ≠ ascii "@setDataFrame" ∧ data = cells ++ rest) ∨
  Exists fun cells => Exists fun cells' => Exists fun name => StringBytes held (ascii "@setDataFrame") cells ∧
    StringBytes (ascii "@setDataFrame") name cells' ∧ data = cells ++ (cells' ++ rest)

theorem behindName_iff {held rest : List UInt8} : BehindName held data rest ↔
    Exists fun named => RtmpOnMetaDataPacket.readName held data = .ok named ∧ data.drop named.1 = rest := by
  constructor
  · rintro (⟨cells, name, bytes, other, rfl⟩ | ⟨cells, cells', name, bytes, bytes', rfl⟩)
    · refine ⟨(cells.length, name), ?_, List.drop_left⟩
      simp only [RtmpOnMetaDataPacket.readName, read_of_stringBytes bytes _, Outcome.ok_bind_do, if_neg other]
      rfl
    · refine ⟨(cells.length + cells'.length, name), ?_, ?_⟩
      · simp only [RtmpOnMetaDataPacket.readName, read_of_stringBytes bytes _, Outcome.ok_bind_do, if_true,
          List.drop_left, read_of_stringBytes bytes' _]
        rfl
      · show (cells ++ (cells' ++ rest)).drop (cells.length + cells'.length) = rest
        rw [List.drop_length_add_append, List.drop_left]
  · rintro ⟨⟨width, name⟩, read, rfl⟩
    rcases Outcome.bind_eq_ok read with ⟨⟨first, text⟩, named, read⟩
    rcases stringBytes_of_read named with ⟨cells, bytes, rfl, split⟩
    simp only at read
    split at read
    next frame =>
      rcases Outcome.bind_eq_ok read with ⟨⟨second, text'⟩, named', last⟩
      rcases stringBytes_of_read named' with ⟨cells', bytes', rfl, split'⟩
      have widths : cells.length + cells'.length = width := congrArg Prod.fst (Outcome.ok.inj last)
      rw [frame] at bytes bytes'
      refine Or.inr ⟨cells, cells', text', bytes, bytes', ?_⟩
      rw [← widths, ← List.drop_drop, ← split', ← split]
    next other =>
      have widths : cells.length = width := congrArg Prod.fst (Outcome.ok.inj read)
      refine Or.inl ⟨cells, text, bytes, other, ?_⟩
      rw [← widths, ← split]

theorem RtmpOnMetaDataPacket.readName_ne_fault (held data : List UInt8) : readName held data ≠ .fault := by
  intro faulted
  rcases Outcome.Returns.bind_fault (readString_consumes held data) faulted with ⟨named, _, faulted⟩
  simp only at faulted
  split at faulted
  · rcases Outcome.Returns.bind_fault (readString_consumes named.2 (data.drop named.1)) faulted with ⟨_, _, impossible⟩
    cases impossible
  · cases faulted

/-- The value behind the name of the metadata. -/
def RtmpOnMetaDataPacket.DeletesTwice (packet : RtmpOnMetaDataPacket) (data : List UInt8) : Prop :=
  Exists fun rest => BehindName packet.commandName data rest ∧ Spoiled rest

theorem RtmpOnMetaDataPacket.decode_fault_iff (packet : RtmpOnMetaDataPacket) (data : List UInt8) :
    packet.decode data = .fault ↔ packet.DeletesTwice data := by
  constructor
  · intro faulted
    rcases Outcome.bind_eq_fault faulted with impossible | ⟨named, read, faulted⟩
    · exact absurd impossible (readName_ne_fault _ _)
    simp only at faulted
    split at faulted
    · rcases Outcome.bind_eq_fault faulted with value | ⟨⟨ret, value⟩, _, impossible⟩
      · exact ⟨_, behindName_iff.mpr ⟨named, read, rfl⟩, (rtmpAmf0ReadAny_fault_iff _).mp value⟩
      · cases value with
        | _ => cases impossible
    · cases faulted
  · rintro ⟨rest, behind, spoiled⟩
    rcases behindName_iff.mp behind with ⟨named, read, rfl⟩
    have left : named.1 < data.length := by
      by_contra ended
      exact spoiled.ne_nil (List.drop_eq_nil_of_le (Nat.not_lt.mp ended))
    simp only [decode, read, Outcome.ok_bind_do, if_pos left, (rtmpAmf0ReadAny_fault_iff _).mpr spoiled,
      Outcome.fault_bind_do]

end Rtmp
end RtmpClient
