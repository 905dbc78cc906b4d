import RtmpClient.Net.Stun

namespace RtmpClient
namespace Net

open Library StunMessageType StunMessageAttribute

/-!
# Attributes of STUN messages on the wire

What the loop of `decode` finds in a sequence of attributes.  Types and lengths
are put together from signed characters, so a length whose low byte has its
highest bit set is taken for one of at least 0xff80.
-/

/-- An attribute with its padding up to a multiple of four. -/
structure StunTlv where
  type : UInt16
  value : List UInt8
  padding : List UInt8
  aligned : (value.length + padding.length) % 4 = 0
  less : padding.length < 4
  fits : value.length + padding.length < 2 ^ 16

namespace StunTlv

theorem unpadded : ([] : List UInt8).length < 4 := by decide

def wire (tlv : StunTlv) : List UInt8 :=
  attributeHead tlv.type (UInt16.ofNat tlv.value.length) ++ tlv.value ++ tlv.padding

/-- The length has no sign in its low byte. -/
def Legible (tlv : StunTlv) : Prop := tlv.value.length % 2 ^ 8 < 128

instance (tlv : StunTlv) : Decidable tlv.Legible := inferInstanceAs (Decidable (_ < _))

/-- The type as the loop reads it. -/
def seenType (type : UInt16) : UInt16 := signedShort (UInt8.ofNat (type.toNat / 256)) (UInt8.ofNat type.toNat)

/-- A type without a sign in its low byte. -/
theorem seenType_eq {type : UInt16} (small : type.toNat % 2 ^ 8 < 128) : seenType type = type := by
  have bound := type.toNat_lt
  apply UInt16.toNat.inj
  rw [seenType, signedShort_toNat, UInt8.toNat_ofNat', UInt8.toNat_ofNat', if_pos small]
  omega

variable (tlv : StunTlv)

theorem wire_length : tlv.wire.length = 4 + tlv.value.length + tlv.padding.length := by
  rw [wire, List.length_append, List.length_append, attributeHead, List.length_append, beBytes_length, beBytes_length]

/-- The first bytes of an attribute. -/
theorem wire_eq : tlv.wire =
    UInt8.ofNat (tlv.type.toNat / 256) :: UInt8.ofNat tlv.type.toNat ::
      UInt8.ofNat (tlv.value.length / 256) :: UInt8.ofNat tlv.value.length :: (tlv.value ++ tlv.padding) := by
  have fits := tlv.fits
  have length : (UInt16.ofNat tlv.value.length).toNat = tlv.value.length := by
    rw [UInt16.toNat_ofNat', Nat.mod_eq_of_lt (by omega)]
  rw [wire, attributeHead, length]
  simp only [beBytes, Nat.pow_zero, Nat.pow_one, Nat.div_one, List.cons_append, List.nil_append]

/-- The length as the loop reads it. -/
def seenLength : UInt16 := signedShort (UInt8.ofNat (tlv.value.length / 256)) (UInt8.ofNat tlv.value.length)

variable {tlv}

theorem seenLength_legible (legible : tlv.Legible) : tlv.seenLength.toNat = tlv.value.length := by
  have fits := tlv.fits
  rw [Legible] at legible
  rw [seenLength, signedShort_toNat, UInt8.toNat_ofNat', UInt8.toNat_ofNat', if_pos legible]
  omega

theorem seenLength_illegible (illegible : ¬ tlv.Legible) : 0xff80 ≤ tlv.seenLength.toNat := by
  rw [Legible] at illegible
  rw [seenLength, signedShort_toNat, UInt8.toNat_ofNat', if_neg illegible]
  omega

theorem paddedLen_legible (legible : tlv.Legible) :
    (paddedLen tlv.seenLength).toNat = tlv.value.length + tlv.padding.length := by
  have aligned := tlv.aligned
  have less := tlv.less
  have fits := tlv.fits
  have seen := seenLength_legible legible
  have rest : (tlv.seenLength % 4).toNat = tlv.value.length % 4 := by
    rw [UInt16.toNat_mod, seen]
    rfl
  rw [paddedLen]
  by_cases even : tlv.seenLength % 4 = 0
  · rw [if_neg (not_not_intro even), seen]
    rw [even] at rest
    replace rest : 0 = tlv.value.length % 4 := rest
    omega
  · have odd : tlv.value.length % 4 ≠ 0 := by
      intro zero
      apply even
      apply UInt16.toNat.inj
      rw [rest, zero]
      rfl
    rw [if_pos even, seen, UInt16.toNat_ofNat', Nat.mod_eq_of_lt (by omega)]
    omega

end StunTlv

/-! ## Addresses -/

/-- An address, as `s_addr` holds it, and a port. -/
structure Endpoint where
  addr : UInt32
  port : UInt16
  deriving DecidableEq, Repr

/-- The bytes of a number of two bytes joined again. -/
theorem joinedShort (number : UInt16) :
    (UInt8.ofNat (number.toNat / 256 ^ 1)).toUInt16 <<< 8 ||| (UInt8.ofNat (number.toNat / 256 ^ 0)).toUInt16 =
      number := by
  have bound := number.toNat_lt
  apply UInt16.toNat.inj
  have shift : (8 : UInt16).toNat % 16 = 8 := rfl
  rw [UInt16.toNat_or, UInt16.toNat_shiftLeft, UInt8.toNat_toUInt16, UInt8.toNat_toUInt16, UInt8.toNat_ofNat',
    UInt8.toNat_ofNat', shift, Nat.shiftLeft_eq,
    Nat.mod_eq_of_lt (show number.toNat / 256 ^ 1 % 2 ^ 8 * 2 ^ 8 < 2 ^ 16 by omega),
    or_eq_add _ (Nat.mod_lt _ (by decide))]
  omega

/-- The number of a port as an `int`. -/
theorem port_ofInt (port : UInt16) : (Int32.ofInt port.toNat).toUInt32.toUInt16 = port := by
  have bound := port.toNat_lt
  apply UInt16.toNat.inj
  rw [Int32.ofInt_eq_ofNat, Int32.toUInt32_ofNat', UInt32.toNat_toUInt16, UInt32.toNat_ofNat',
    Nat.mod_eq_of_lt (show port.toNat < 2 ^ 32 by omega), Nat.mod_eq_of_lt bound]

namespace Endpoint

variable (inet : InetText) (endpoint : Endpoint)

/-- The text of an address attribute. -/
def text : List UInt8 := inet.inetNtoa endpoint.addr ++ portColon :: decimal endpoint.port.toNat

/-- The value of an address attribute on the wire, with these masks. -/
def value (reserved : UInt8) (portMask : UInt16) (addrMask : UInt32) : List UInt8 :=
  [reserved, 1] ++ beBytes 2 (endpoint.port ^^^ portMask).toNat ++ beBytes 4 (swapped endpoint.addr ^^^ addrMask).toNat

theorem value_length (reserved : UInt8) (portMask : UInt16) (addrMask : UInt32) :
    (endpoint.value reserved portMask addrMask).length = 8 := by
  rw [value, List.length_append, List.length_append, beBytes_length, beBytes_length]
  rfl

theorem decodeAddress_value (reserved : UInt8) (portMask : UInt16) (addrMask : UInt32) :
    decodeAddress inet portMask addrMask (endpoint.value reserved portMask addrMask) = .ok (endpoint.text inet) := by
  have port : ((UInt8.ofNat ((endpoint.port ^^^ portMask).toNat / 256 ^ 1)).toUInt16 <<< 8 |||
      (UInt8.ofNat ((endpoint.port ^^^ portMask).toNat / 256 ^ 0)).toUInt16) ^^^ portMask = endpoint.port := by
    rw [joinedShort, UInt16.xor_assoc, UInt16.xor_self, UInt16.xor_zero]
  have addr : swapped (joined (UInt8.ofNat ((swapped endpoint.addr ^^^ addrMask).toNat / 256 ^ 3))
      (UInt8.ofNat ((swapped endpoint.addr ^^^ addrMask).toNat / 256 ^ 2))
      (UInt8.ofNat ((swapped endpoint.addr ^^^ addrMask).toNat / 256 ^ 1))
      (UInt8.ofNat ((swapped endpoint.addr ^^^ addrMask).toNat / 256 ^ 0)) ^^^ addrMask) = endpoint.addr := by
    rw [joined_beBytes, UInt32.ofNat_toNat, UInt32.xor_assoc, UInt32.xor_self, UInt32.xor_zero, swapped_swapped]
  have read : decodeAddress inet portMask addrMask (endpoint.value reserved portMask addrMask) = .ok
      (inet.inetNtoa (swapped (joined (UInt8.ofNat ((swapped endpoint.addr ^^^ addrMask).toNat / 256 ^ 3))
        (UInt8.ofNat ((swapped endpoint.addr ^^^ addrMask).toNat / 256 ^ 2))
        (UInt8.ofNat ((swapped endpoint.addr ^^^ addrMask).toNat / 256 ^ 1))
        (UInt8.ofNat ((swapped endpoint.addr ^^^ addrMask).toNat / 256 ^ 0)) ^^^ addrMask)) ++
          portColon :: decimal (((UInt8.ofNat ((endpoint.port ^^^ portMask).toNat / 256 ^ 1)).toUInt16 <<< 8 |||
            (UInt8.ofNat ((endpoint.port ^^^ portMask).toNat / 256 ^ 0)).toUInt16) ^^^ portMask).toNat) := rfl
  rw [read, addr, port, text]

theorem not_mem_ntoa (addr : UInt32) {letter : UInt8} (notDigit : isDigit letter = false) (notDot : letter ≠ 0x2e) :
    letter ∉ inet.inetNtoa addr := by
  intro member
  rcases inet.dotted addr letter member with digit | dot
  · rw [notDigit] at digit
    cases digit
  · exact notDot dot

/-- The text is cut at its colon. -/
theorem text_cut : findFirstOf (endpoint.text inet) portColon = some (inet.inetNtoa endpoint.addr).length ∧
    (endpoint.text inet).take (inet.inetNtoa endpoint.addr).length = inet.inetNtoa endpoint.addr ∧
      (endpoint.text inet).drop ((inet.inetNtoa endpoint.addr).length + 1) = decimal endpoint.port.toNat := by
  have absent : portColon ∉ inet.inetNtoa endpoint.addr := not_mem_ntoa inet endpoint.addr (by decide) (by decide)
  refine ⟨findFirstOf_append absent, List.take_left, ?_⟩
  rw [text, ← List.drop_drop, List.drop_left, List.drop_one, List.tail_cons]

/-- The number behind the colon. -/
theorem atoiOr_port : atoiOr (decimal endpoint.port.toNat) = .ok (Int32.ofInt endpoint.port.toNat) := by
  have bound := endpoint.port.toNat_lt
  have plain : 0 ∉ decimal endpoint.port.toNat := by
    intro member
    exact absurd (isDigit_of_mem_decimal member) (by decide)
  rw [atoiOr, cStr_of_not_mem plain, atoi_decimal (by omega)]

theorem encodeAddress_text (type portMask : UInt16) (addrMask : UInt32) :
    encodeAddress inet type portMask addrMask (endpoint.text inet) =
      .ok (attributeHead type 8 ++ endpoint.value 0 portMask addrMask) := by
  have cut := endpoint.text_cut inet
  have plain : 0 ∉ inet.inetNtoa endpoint.addr := not_mem_ntoa inet endpoint.addr (by decide) (by decide)
  rw [encodeAddress, cut.1]
  dsimp only
  rw [cut.2.1, cut.2.2, endpoint.atoiOr_port, Outcome.ok_bind_do, port_ofInt, cStr_of_not_mem plain, inet.inverse, value]
  simp only [Outcome.pure_eq, List.append_assoc]

end Endpoint

/-! ## Addresses as text

`inet_ntoa`, and `inet_addr` on the texts that it writes.
-/

/-- The four numbers, each but the last with a dot behind it. -/
def dottedText : List UInt8 -> List UInt8
  | [] => []
  | [octet] => decimal octet.toNat
  | octet :: octets => decimal octet.toNat ++ 0x2e :: dottedText octets

/-- Numbers with one byte between them. -/
def readOctets : (count : Nat) -> (text : List UInt8) -> List UInt8
  | 0, _ => []
  | count + 1, text => UInt8.ofNat (digitsValue text) :: readOctets count ((text.dropWhile isDigit).drop 1)

theorem readOctets_dottedText (octets : List UInt8) : readOctets octets.length (dottedText octets) = octets := by
  induction octets with
  | nil => rfl
  | cons octet octets inductionHypothesis =>
      have digits : forall letter, letter ∈ decimal octet.toNat -> isDigit letter = true := fun _ => isDigit_of_mem_decimal
      cases octets with
      | nil =>
          have value : digitsValue (decimal octet.toNat ++ []) = octet.toNat := digitsValue_decimal _ nofun
          rw [List.append_nil] at value
          rw [dottedText, List.length_singleton, readOctets, value, UInt8.ofNat_toNat]
          rfl
      | cons second octets =>
          have stops : forall letter, (0x2e :: dottedText (second :: octets)).head? = some letter ->
              isDigit letter = false := by
            intro letter first
            cases first
            decide
          have skipped : (decimal octet.toNat ++ 0x2e :: dottedText (second :: octets)).dropWhile isDigit =
              0x2e :: dottedText (second :: octets) := by
            rw [List.dropWhile_append_of_pos digits, List.dropWhile_cons]
            rfl
          rw [dottedText, List.length_cons, readOctets, digitsValue_decimal _ stops, skipped, UInt8.ofNat_toNat,
            List.drop_one, List.tail_cons, inductionHypothesis]
          exact nofun

theorem mem_dottedText {octets : List UInt8} {letter : UInt8} (member : letter ∈ dottedText octets) :
    isDigit letter = true ∨ letter = 0x2e := by
  induction octets with
  | nil => cases member
  | cons octet octets inductionHypothesis =>
      cases octets with
      | nil => exact .inl (isDigit_of_mem_decimal member)
      | cons second octets =>
          rw [dottedText, List.mem_append, List.mem_cons] at member
          · rcases member with digit | dot | later
            · exact .inl (isDigit_of_mem_decimal digit)
            · exact .inr dot
            · exact inductionHypothesis later
          · exact nofun

/-- The functions of an address whose lowest byte comes first. -/
def dottedInet : InetText where
  inetAddr text := UInt32.ofNat (beValue (readOctets 4 text).reverse)
  inetNtoa addr := dottedText (beBytes 4 addr.toNat).reverse
  inverse addr := by
    have octets := readOctets_dottedText (beBytes 4 addr.toNat).reverse
    rw [List.length_reverse, beBytes_length] at octets
    rw [octets, List.reverse_reverse, beValue_beBytes_of_lt addr.toNat_lt, UInt32.ofNat_toNat]
  dotted addr letter member := mem_dottedText member

/-! ## The loop -/

theorem read_at (before : List UInt8) (cell : UInt8) (rest : List UInt8) {index : Nat} (place : index = before.length) :
    Outcome.read (before ++ cell :: rest) index = .ok cell := by
  subst place
  have inside : before.length < (before ++ cell :: rest).length := by
    rw [List.length_append, List.length_cons]
    omega
  rw [Outcome.read_eq_getD 0 inside, List.getD_append_right _ _ _ _ (Nat.le_refl _), Nat.sub_self]
  rfl

theorem readShort_at (before : List UInt8) (high low : UInt8) (rest : List UInt8) {index : Nat}
    (place : index = before.length) :
    readShort (before ++ high :: low :: rest) index = .ok (signedShort high low) := by
  have second : before ++ high :: low :: rest = (before ++ [high]) ++ low :: rest := by
    rw [List.append_assoc, List.singleton_append]
  rw [readShort, read_at before high (low :: rest) place, Outcome.ok_bind_do, second,
    read_at (before ++ [high]) low rest (by rw [List.length_append, List.length_singleton, place])]
  rfl

namespace StunMsgPacket

variable (inet : InetText)

theorem decodeAttributes_end {data : List UInt8} {len index : Nat} (done : len ≤ index) (packet : StunMsgPacket) :
    packet.decodeAttributes inet data len index = .ok packet := by
  rw [decodeAttributes, if_neg (Nat.not_lt.mpr done)]

section Round

variable {before rest : List UInt8} {tlv : StunTlv} {index len : Nat} (place : index = before.length)
  (inside : index < len) (packet : StunMsgPacket)

include place inside

/-- A round reads the type and the length first. -/
theorem decodeAttributes_head :
    packet.decodeAttributes inet (before ++ (tlv.wire ++ rest)) len index = (do
      let val ← Outcome.slice (before ++ (tlv.wire ++ rest)) (index + 4) tlv.seenLength.toNat
      let next ← packet.decodeAttribute inet (StunTlv.seenType tlv.type) val
      next.decodeAttributes inet (before ++ (tlv.wire ++ rest)) len
        (index + 4 + (paddedLen tlv.seenLength).toNat)) := by
  have first : readShort (before ++ (tlv.wire ++ rest)) index = .ok (StunTlv.seenType tlv.type) := by
    rw [tlv.wire_eq]
    exact readShort_at before _ _ _ place
  have second : readShort (before ++ (tlv.wire ++ rest)) (index + 2) = .ok tlv.seenLength := by
    have split : before ++ (tlv.wire ++ rest) =
        (before ++ [UInt8.ofNat (tlv.type.toNat / 256), UInt8.ofNat tlv.type.toNat]) ++
          UInt8.ofNat (tlv.value.length / 256) :: UInt8.ofNat tlv.value.length ::
            (tlv.value ++ tlv.padding ++ rest) := by
      rw [tlv.wire_eq, List.append_assoc]
      rfl
    rw [split]
    apply readShort_at
    rw [List.length_append, place]
    rfl
  rw [decodeAttributes, if_pos inside, first, Outcome.ok_bind_do, second, Outcome.ok_bind_do]

/-- A legible attribute is dealt with, and the loop goes on behind it. -/
theorem decodeAttributes_legible (legible : tlv.Legible) :
    packet.decodeAttributes inet (before ++ (tlv.wire ++ rest)) len index = (do
      let next ← packet.decodeAttribute inet (StunTlv.seenType tlv.type) tlv.value
      next.decodeAttributes inet (before ++ (tlv.wire ++ rest)) len (index + tlv.wire.length)) := by
  have value : Outcome.slice (before ++ (tlv.wire ++ rest)) (index + 4) tlv.seenLength.toNat = .ok tlv.value := by
    have split : before ++ (tlv.wire ++ rest) =
        (before ++ attributeHead tlv.type (UInt16.ofNat tlv.value.length)) ++ (tlv.value ++ (tlv.padding ++ rest)) := by
      rw [StunTlv.wire]
      simp only [List.append_assoc]
    have front : index + 4 = (before ++ attributeHead tlv.type (UInt16.ofNat tlv.value.length)).length := by
      rw [List.length_append, place]
      rfl
    rw [split, front, StunTlv.seenLength_legible legible]
    exact Outcome.slice_middle _ _ _
  have behind : index + 4 + (paddedLen tlv.seenLength).toNat = index + tlv.wire.length := by
    rw [StunTlv.paddedLen_legible legible, tlv.wire_length]
    omega
  rw [decodeAttributes_head inet place inside, value, Outcome.ok_bind_do, behind]

/-- One that is not legible is looked for behind the end of short data. -/
theorem decodeAttributes_illegible (illegible : ¬ tlv.Legible)
    (short : (before ++ (tlv.wire ++ rest)).length < index + 4 + 0xff80) :
    packet.decodeAttributes inet (before ++ (tlv.wire ++ rest)) len index = .fault := by
  have long := StunTlv.seenLength_illegible illegible
  have beyond : Outcome.slice (before ++ (tlv.wire ++ rest)) (index + 4) tlv.seenLength.toNat = .fault :=
    if_neg (by omega)
  rw [decodeAttributes_head inet place inside, beyond]
  rfl

end Round

/-- The mapped address is put into the map as text. -/
theorem decodeAttribute_mapped (packet : StunMsgPacket) (endpoint : Endpoint) (reserved : UInt8) :
    packet.decodeAttribute inet mappedAddress (endpoint.value reserved 0 0) =
      .ok { packet with stunAttribute := packet.stunAttribute.insert mappedAddress (endpoint.text inet) } := by
  rw [decodeAttribute, if_neg (by decide), if_neg (by decide), if_pos rfl, endpoint.decodeAddress_value]
  rfl

/-- So is the XOR-mapped one, with the masks of the packet. -/
theorem decodeAttribute_xorMapped {packet : StunMsgPacket} {cookie : UInt32} (same : packet.stunMagicCookie = cookie)
    (endpoint : Endpoint) (reserved : UInt8) :
    packet.decodeAttribute inet xorMappedAddress
        (endpoint.value reserved ((cookie &&& 0xffff0000) >>> 16).toUInt16 cookie) =
      .ok { packet with stunAttribute := packet.stunAttribute.insert xorMappedAddress (endpoint.text inet) } := by
  rw [decodeAttribute, if_neg (by decide), if_pos rfl, same, endpoint.decodeAddress_value]
  rfl

/-- So is the address of the other server, which two types carry. -/
theorem decodeAttribute_changed (packet : StunMsgPacket) (endpoint : Endpoint) (reserved : UInt8) {type : UInt16}
    (either : type = changedAddress ∨ type = otherAddress) :
    packet.decodeAttribute inet type (endpoint.value reserved 0 0) =
      .ok { packet with stunAttribute := packet.stunAttribute.insert changedAddress (endpoint.text inet) } := by
  have noName : type ≠ username := by
    rcases either with rfl | rfl <;> decide
  have noXorMapped : type ≠ xorMappedAddress := by
    rcases either with rfl | rfl <;> decide
  have noMapped : type ≠ mappedAddress := by
    rcases either with rfl | rfl <;> decide
  rw [decodeAttribute, if_neg noName, if_neg noXorMapped, if_neg noMapped, if_pos either, endpoint.decodeAddress_value]
  rfl

/-- What the loop makes of an attribute. -/
def addTlv (packet : StunMsgPacket) (tlv : StunTlv) : Outcome StunMsgPacket :=
  packet.decodeAttribute inet (StunTlv.seenType tlv.type) tlv.value

/-- Legible attributes are dealt with one after the other. -/
theorem decodeAttributes_tlvs {before rest : List UInt8} {tlvs : List StunTlv} {index len : Nat}
    (place : index = before.length) (legible : forall tlv, tlv ∈ tlvs -> tlv.Legible)
    (inside : index + (tlvs.flatMap StunTlv.wire).length ≤ len) (packet : StunMsgPacket) :
    packet.decodeAttributes inet (before ++ (tlvs.flatMap StunTlv.wire ++ rest)) len index =
      tlvs.foldlM (addTlv inet) packet >>= fun next =>
        next.decodeAttributes inet (before ++ (tlvs.flatMap StunTlv.wire ++ rest)) len
          (index + (tlvs.flatMap StunTlv.wire).length) := by
  induction tlvs generalizing before index packet with
  | nil => rfl
  | cons tlv tlvs inductionHypothesis =>
      have some := tlv.wire_length
      have split : before ++ ((tlv :: tlvs).flatMap StunTlv.wire ++ rest) =
          before ++ (tlv.wire ++ (tlvs.flatMap StunTlv.wire ++ rest)) := by
        rw [List.flatMap_cons, List.append_assoc]
      have shifted : before ++ (tlv.wire ++ (tlvs.flatMap StunTlv.wire ++ rest)) =
          (before ++ tlv.wire) ++ (tlvs.flatMap StunTlv.wire ++ rest) := (List.append_assoc _ _ _).symm
      have total : ((tlv :: tlvs).flatMap StunTlv.wire).length = tlv.wire.length + (tlvs.flatMap StunTlv.wire).length := by
        rw [List.flatMap_cons, List.length_append]
      rw [total] at inside
      rw [split, total, decodeAttributes_legible inet place (by omega) packet (legible tlv List.mem_cons_self),
        List.foldlM_cons, Outcome.bind_bind]
      apply Outcome.bind_congr
      intro next _
      have later := inductionHypothesis (show index + tlv.wire.length = (before ++ tlv.wire).length by
        rw [List.length_append, place]) (fun other member => legible other (List.mem_cons_of_mem tlv member))
        (by omega) next
      rw [shifted, later, Nat.add_assoc]

/-! ## The header -/

/-- A message of the type that `decode` reads on. -/
def responseBytes (length : Nat) (cookie : UInt32) (tranId body : List UInt8) : List UInt8 :=
  beBytes 2 stunBindRespones.toNat ++ beBytes 2 length ++ beBytes 4 cookie.toNat ++ tranId ++ body

/-- The first twenty bytes, and what stands behind them. -/
theorem responseBytes_split (length : Nat) (cookie : UInt32) {tranId : List UInt8} (twelve : tranId.length = 12) :
    Exists fun header => header.length = 20 ∧ forall body, responseBytes length cookie tranId body = header ++ body := by
  refine ⟨beBytes 2 stunBindRespones.toNat ++ beBytes 2 length ++ beBytes 4 cookie.toNat ++ tranId, ?_,
    fun body => rfl⟩
  simp only [List.length_append, beBytes_length, twelve]

/-- A packet with what the header says. -/
def withHeader (packet : StunMsgPacket) (length : Nat) (cookie : UInt32) (tranId : List UInt8) : StunMsgPacket where
  stunMsgType := stunBindRespones
  stunMsgLenght := signedShort (UInt8.ofNat (length / 256 ^ 1)) (UInt8.ofNat (length / 256 ^ 0))
  stunMagicCookie := packet.stunMagicCookie ||| cookie
  stunTranId := tranId
  stunAttribute := packet.stunAttribute

theorem decode_response (packet : StunMsgPacket) (length : Nat) (cookie : UInt32) {tranId : List UInt8}
    (twelve : tranId.length = 12) (body : List UInt8) :
    packet.decode inet (responseBytes length cookie tranId body) (20 + body.length : Nat) =
      (packet.withHeader length cookie tranId).decodeAttributes inet (responseBytes length cookie tranId body)
        (20 + body.length) 20 := by
  have long : ¬ ((20 + body.length : Nat) : Int) < 20 := by omega
  have bytes : responseBytes length cookie tranId body =
      0x01 :: 0x01 :: UInt8.ofNat (length / 256 ^ 1) :: UInt8.ofNat (length / 256 ^ 0) ::
        UInt8.ofNat (cookie.toNat / 256 ^ 3) :: UInt8.ofNat (cookie.toNat / 256 ^ 2) ::
          UInt8.ofNat (cookie.toNat / 256 ^ 1) :: UInt8.ofNat (cookie.toNat / 256 ^ 0) :: (tranId ++ body) := by
    rw [responseBytes, List.append_assoc, List.append_assoc, List.append_assoc]
    rfl
  have slice : Outcome.slice (responseBytes length cookie tranId body) 8 12 = .ok tranId := by
    have front : responseBytes length cookie tranId body =
        (beBytes 2 stunBindRespones.toNat ++ beBytes 2 length ++ beBytes 4 cookie.toNat) ++ (tranId ++ body) := by
      rw [responseBytes, List.append_assoc]
    have middle := Outcome.slice_middle
      (beBytes 2 stunBindRespones.toNat ++ beBytes 2 length ++ beBytes 4 cookie.toNat) tranId body
    rw [← front, twelve] at middle
    exact middle
  have type : readShort (responseBytes length cookie tranId body) 0 = .ok stunBindRespones := by
    rw [bytes]
    exact congrArg Outcome.ok (by decide)
  have size : readShort (responseBytes length cookie tranId body) 2 =
      .ok (signedShort (UInt8.ofNat (length / 256 ^ 1)) (UInt8.ofNat (length / 256 ^ 0))) := by
    rw [bytes]
    rfl
  have first : Outcome.read (responseBytes length cookie tranId body) 4 = .ok (UInt8.ofNat (cookie.toNat / 256 ^ 3)) := by
    rw [bytes]
    rfl
  have second : Outcome.read (responseBytes length cookie tranId body) 5 =
      .ok (UInt8.ofNat (cookie.toNat / 256 ^ 2)) := by
    rw [bytes]
    rfl
  have third : Outcome.read (responseBytes length cookie tranId body) 6 = .ok (UInt8.ofNat (cookie.toNat / 256 ^ 1)) := by
    rw [bytes]
    rfl
  have fourth : Outcome.read (responseBytes length cookie tranId body) 7 =
      .ok (UInt8.ofNat (cookie.toNat / 256 ^ 0)) := by
    rw [bytes]
    rfl
  rw [decode, if_neg long, type, Outcome.ok_bind_do, size, Outcome.ok_bind_do, first, Outcome.ok_bind_do, second,
    Outcome.ok_bind_do, third, Outcome.ok_bind_do, fourth, Outcome.ok_bind_do, slice, Outcome.ok_bind_do, if_pos rfl,
    joined_beBytes, UInt32.ofNat_toNat]
  rfl

end StunMsgPacket

end Net
end RtmpClient
