import RtmpClient.Net.StunAttributes

namespace RtmpClient
namespace Net

open Library StunMessageType StunMessageAttribute

/-!
# STUN binding responses there and back

What `decode` finds in the bytes of `encode`, for a response with a user name
and addresses.
-/

/-- The magic cookie of the protocol. -/
def magicCookie : UInt32 := 0x2112a442

/-- A binding response to be sent. -/
structure BindResponse where
  tranId : { bytes : List UInt8 // bytes.length = 12 }
  name : Option { text : List UInt8 // text.length ≤ 512 }
  xorMapped : Option Endpoint
  mapped : Option Endpoint

namespace BindResponse

variable (inet : InetText) (hmac : HmacSha1) (response : BindResponse)

def mappedEntry (endpoint : Endpoint) : UInt16 × List UInt8 := (mappedAddress, endpoint.text inet)

def usernameEntry (name : { text : List UInt8 // text.length ≤ 512 }) : UInt16 × List UInt8 := (username, name.val)

def xorMappedEntry (endpoint : Endpoint) : UInt16 × List UInt8 := (xorMappedAddress, endpoint.text inet)

/-- The attributes in the order of their types. -/
def entries : List (UInt16 × List UInt8) :=
  (response.mapped.map (mappedEntry inet)).toList ++
    ((response.name.map usernameEntry).toList ++ (response.xorMapped.map (xorMappedEntry inet)).toList)

def attributes : OrderedMap UInt16 (List UInt8) where
  entries := response.entries inet
  increasing := by
    rw [Increasing, entries]
    cases response.mapped <;> cases response.name <;> cases response.xorMapped <;>
      simp [mappedEntry, usernameEntry, xorMappedEntry, mappedAddress, username, xorMappedAddress]

/-- The packet, with any length. -/
def packet (length : UInt16) : StunMsgPacket where
  stunMsgType := stunBindRespones
  stunMsgLenght := length
  stunMagicCookie := magicCookie
  stunTranId := response.tranId.val
  stunAttribute := response.attributes inet

/-- A fresh packet decodes the bytes to the same type, cookie, transaction id and
attributes. -/
def RoundTrips (length : UInt16) (size : Nat) (password : List UInt8) : Prop :=
  Exists fun sent => Exists fun bytes =>
    (response.packet inet length).encode inet hmac size password = .ok (sent, bytes) ∧
      bytes.length = 20 + sent.stunMsgLenght.toNat ∧
      forall tranId, Exists fun received =>
        (StunMsgPacket.new tranId).decode inet bytes (20 + sent.stunMsgLenght.toNat : Nat) = .ok received ∧
          received.stunMsgType = stunBindRespones ∧ received.stunMagicCookie = magicCookie ∧
          received.stunTranId = response.tranId.val ∧ received.stunAttribute = response.attributes inet

/-! ## The attributes on the wire -/

/-- The masks of `XorMappedAddress`. -/
def portMask : UInt16 := ((magicCookie &&& 0xffff0000) >>> 16).toUInt16

def mappedTlv (endpoint : Endpoint) : StunTlv where
  type := mappedAddress
  value := endpoint.value 0 0 0
  padding := []
  aligned := by rw [endpoint.value_length]; decide
  less := StunTlv.unpadded
  fits := by rw [endpoint.value_length]; decide

def xorMappedTlv (endpoint : Endpoint) : StunTlv where
  type := xorMappedAddress
  value := endpoint.value 0 portMask magicCookie
  padding := []
  aligned := by rw [endpoint.value_length]; decide
  less := StunTlv.unpadded
  fits := by rw [endpoint.value_length]; decide

def usernameTlv (name : { text : List UInt8 // text.length ≤ 512 }) : StunTlv where
  type := username
  value := name.val
  padding := List.replicate ((4 - name.val.length % 4) % 4) 0
  aligned := by rw [List.length_replicate]; omega
  less := by rw [List.length_replicate]; omega
  fits := by
    have short := name.property
    rw [List.length_replicate]
    omega

theorem mappedTlv_length (endpoint : Endpoint) : (mappedTlv endpoint).value.length = 8 := endpoint.value_length 0 0 0

theorem xorMappedTlv_length (endpoint : Endpoint) : (xorMappedTlv endpoint).value.length = 8 :=
  endpoint.value_length 0 portMask magicCookie

/-- The attributes of the packet, and what `encode` appends to them. -/
def tlvs : List StunTlv :=
  (response.mapped.map mappedTlv).toList ++
    ((response.name.map usernameTlv).toList ++ (response.xorMapped.map xorMappedTlv).toList)

def integrityTlv (digest : { digest : List UInt8 // digest.length = 20 }) : StunTlv where
  type := messageIntegrity
  value := digest.val
  padding := []
  aligned := by rw [digest.property]; decide
  less := StunTlv.unpadded
  fits := by rw [digest.property]; decide

def fingerprintTlv (crc32 : UInt32) : StunTlv where
  type := fingerprint
  value := beBytes 4 crc32.toNat
  padding := []
  aligned := by rw [beBytes_length]; decide
  less := StunTlv.unpadded
  fits := by rw [beBytes_length]; decide

theorem integrityTlv_length (digest : { digest : List UInt8 // digest.length = 20 }) :
    (integrityTlv digest).value.length = 20 :=
  digest.property

theorem fingerprintTlv_length (crc32 : UInt32) : (fingerprintTlv crc32).value.length = 4 := beBytes_length 4 crc32.toNat

/-! ## Encoding -/

/-- The number of zeros behind a text. -/
theorem padding_length {length : Nat} (small : length < 2 ^ 16) :
    (if UInt16.ofNat length % 4 ≠ 0 then (4 - UInt16.ofNat length % 4).toNat else 0) = (4 - length % 4) % 4 := by
  have rest : (UInt16.ofNat length % 4).toNat = length % 4 := by
    rw [UInt16.toNat_mod, UInt16.toNat_ofNat', Nat.mod_eq_of_lt small]
    rfl
  by_cases even : UInt16.ofNat length % 4 = 0
  · rw [even] at rest
    replace rest : 0 = length % 4 := rest
    rw [if_neg (not_not_intro even), ← rest]
  · have odd : length % 4 ≠ 0 := by
      intro zero
      apply even
      apply UInt16.toNat.inj
      rw [rest, zero]
      rfl
    have less : UInt16.ofNat length % 4 ≤ 4 := by
      rw [UInt16.le_iff_toNat_le, rest]
      show length % 4 ≤ 4
      omega
    rw [if_pos even, UInt16.toNat_sub_of_le _ _ less, rest]
    show 4 - length % 4 = _
    omega

theorem encodeAttribute_mapped (packet : StunMsgPacket) (endpoint : Endpoint) :
    packet.encodeAttribute inet (mappedEntry inet endpoint) = .ok (mappedTlv endpoint).wire := by
  rw [mappedEntry, StunMsgPacket.encodeAttribute, if_neg (by decide), if_pos rfl, endpoint.encodeAddress_text,
    StunTlv.wire, mappedTlv_length]
  simp only [mappedTlv, List.append_nil]
  rfl

theorem encodeAttribute_xorMapped {packet : StunMsgPacket} (cookie : packet.stunMagicCookie = magicCookie)
    (endpoint : Endpoint) :
    packet.encodeAttribute inet (xorMappedEntry inet endpoint) = .ok (xorMappedTlv endpoint).wire := by
  rw [xorMappedEntry, StunMsgPacket.encodeAttribute, if_neg (by decide), if_neg (by decide), if_pos rfl,
    endpoint.encodeAddress_text, StunTlv.wire, xorMappedTlv_length, cookie]
  simp only [xorMappedTlv, List.append_nil]
  rfl

theorem encodeAttribute_username (packet : StunMsgPacket) (name : { text : List UInt8 // text.length ≤ 512 }) :
    packet.encodeAttribute inet (usernameEntry name) = .ok (usernameTlv name).wire := by
  have short := name.property
  have length : (UInt16.ofNat name.val.length).toNat = name.val.length := by
    rw [UInt16.toNat_ofNat', Nat.mod_eq_of_lt (by omega)]
  have text : encodeText username name.val = (usernameTlv name).wire := by
    rw [encodeText, length, List.take_length, padding_length (by omega)]
    rfl
  rw [usernameEntry, StunMsgPacket.encodeAttribute, if_pos (.inl rfl), text]

theorem encodeAttributes_append (packet : StunMsgPacket) (first second : List (UInt16 × List UInt8)) :
    packet.encodeAttributes inet (first ++ second) = (do
      let front ← packet.encodeAttributes inet first
      let behind ← packet.encodeAttributes inet second
      return front ++ behind) := by
  induction first with
  | nil =>
      rw [List.nil_append, StunMsgPacket.encodeAttributes, Outcome.ok_bind_do]
      cases packet.encodeAttributes inet second with
      | ok bytes => rfl
      | error code => rfl
      | fault => rfl
  | cons entry first inductionHypothesis =>
      rw [List.cons_append, StunMsgPacket.encodeAttributes, StunMsgPacket.encodeAttributes, inductionHypothesis]
      simp only [Outcome.bind_bind, Outcome.pure_eq, Outcome.ok_bind_do, List.append_assoc]

/-- An attribute that there is or is not. -/
theorem encodeAttributes_option {packet : StunMsgPacket} {α : Type} {entry : α -> UInt16 × List UInt8}
    {tlv : α -> StunTlv} (encodes : forall value, packet.encodeAttribute inet (entry value) = .ok (tlv value).wire)
    (value : Option α) :
    packet.encodeAttributes inet (value.map entry).toList = .ok ((value.map tlv).toList.flatMap StunTlv.wire) := by
  cases value with
  | none => rfl
  | some value =>
      rw [Option.map_some, Option.map_some, Option.toList_some, Option.toList_some, StunMsgPacket.encodeAttributes,
        encodes, StunMsgPacket.encodeAttributes, List.flatMap_singleton]
      exact congrArg Outcome.ok (List.append_nil _)

theorem encodeAttributes_entries {packet : StunMsgPacket} (cookie : packet.stunMagicCookie = magicCookie) :
    packet.encodeAttributes inet (response.entries inet) = .ok (response.tlvs.flatMap StunTlv.wire) := by
  rw [entries, encodeAttributes_append, encodeAttributes_append,
    encodeAttributes_option inet (encodeAttribute_mapped inet packet), Outcome.ok_bind_do,
    encodeAttributes_option inet (encodeAttribute_username inet packet), Outcome.ok_bind_do,
    encodeAttributes_option inet (encodeAttribute_xorMapped inet cookie), Outcome.ok_bind_do, tlvs,
    List.flatMap_append, List.flatMap_append]
  rfl

theorem option_length {α : Type} {tlv : α -> StunTlv} {bound : Nat} (short : forall value, (tlv value).wire.length ≤ bound)
    (value : Option α) : ((value.map tlv).toList.flatMap StunTlv.wire).length ≤ bound := by
  cases value with
  | none => exact Nat.zero_le _
  | some value =>
      rw [Option.map_some, Option.toList_some, List.flatMap_singleton]
      exact short value

/-- The attributes of the packet are short. -/
theorem tlvs_length : (response.tlvs.flatMap StunTlv.wire).length ≤ 543 := by
  have mapped : forall endpoint, (mappedTlv endpoint).wire.length ≤ 12 := by
    intro endpoint
    rw [StunTlv.wire_length, mappedTlv_length]
    exact Nat.le_refl 12
  have xorMapped : forall endpoint, (xorMappedTlv endpoint).wire.length ≤ 12 := by
    intro endpoint
    rw [StunTlv.wire_length, xorMappedTlv_length]
    exact Nat.le_refl 12
  have named : forall name, (usernameTlv name).wire.length ≤ 519 := by
    intro name
    have short : (usernameTlv name).value.length ≤ 512 := name.property
    have less := (usernameTlv name).less
    rw [StunTlv.wire_length]
    omega
  have first := option_length mapped response.mapped
  have second := option_length named response.name
  have third := option_length xorMapped response.xorMapped
  rw [tlvs, List.flatMap_append, List.flatMap_append, List.length_append, List.length_append]
  omega

theorem integrityTlv_wire (digest : { digest : List UInt8 // digest.length = 20 }) :
    (integrityTlv digest).wire = attributeHead messageIntegrity 20 ++ digest.val := by
  rw [StunTlv.wire, integrityTlv_length]
  exact List.append_nil _

theorem fingerprintTlv_wire (crc32 : UInt32) :
    (fingerprintTlv crc32).wire = attributeHead fingerprint 4 ++ beBytes 4 crc32.toNat := by
  rw [StunTlv.wire, fingerprintTlv_length]
  exact List.append_nil _

/-- The trailers are two attributes. -/
theorem trailers_eq (packet : StunMsgPacket) (password attributes : List UInt8) :
    Exists fun digest => Exists fun crc32 => packet.trailers hmac password attributes =
      [integrityTlv digest, fingerprintTlv crc32].flatMap StunTlv.wire := by
  let digest := hmac password (packet.header (attributes.length + 24) ++ attributes)
  refine ⟨digest, getCRC32 (packet.header (attributes.length + 32) ++ attributes ++
    (attributeHead messageIntegrity 20 ++ digest.val)) ^^^ 0x5354554e, ?_⟩
  rw [List.flatMap_cons, List.flatMap_singleton, integrityTlv_wire, fingerprintTlv_wire, StunMsgPacket.trailers]
  simp only [List.append_assoc, digest]

theorem trailers_length (digest : { digest : List UInt8 // digest.length = 20 }) (crc32 : UInt32) :
    ([integrityTlv digest, fingerprintTlv crc32].flatMap StunTlv.wire).length = 32 := by
  rw [List.flatMap_cons, List.flatMap_singleton, List.length_append, StunTlv.wire_length, StunTlv.wire_length,
    integrityTlv_length, fingerprintTlv_length]
  rfl

section Message

variable (digest : { digest : List UInt8 // digest.length = 20 }) (crc32 : UInt32)

/-- What stands behind the header. -/
def body : List UInt8 :=
  response.tlvs.flatMap StunTlv.wire ++ [integrityTlv digest, fingerprintTlv crc32].flatMap StunTlv.wire

theorem body_length : (response.body digest crc32).length = (response.tlvs.flatMap StunTlv.wire).length + 32 := by
  rw [body, List.length_append, trailers_length]

/-- The message on the wire. -/
def message : List UInt8 :=
  StunMsgPacket.responseBytes ((response.tlvs.flatMap StunTlv.wire).length + 32) magicCookie response.tranId.val
    (response.body digest crc32)

end Message

/-- What `encode` makes of the packet. -/
theorem encode_eq (length : UInt16) {size : Nat} (room : 1024 ≤ size) (password : List UInt8) :
    Exists fun digest => Exists fun crc32 =>
      (response.packet inet length).encode inet hmac size password = .ok
        ({ response.packet inet length with
            stunAttribute := .empty
            stunMsgLenght := UInt16.ofNat ((response.tlvs.flatMap StunTlv.wire).length + 32) },
          response.message digest crc32) := by
  have attributes := response.encodeAttributes_entries inet (show (response.packet inet length).stunMagicCookie = _ from rfl)
  have short := response.tlvs_length
  rcases trailers_eq hmac (response.packet inet length) password (response.tlvs.flatMap StunTlv.wire) with
    ⟨digest, crc32, trailers⟩
  refine ⟨digest, crc32, ?_⟩
  have entries : (response.packet inet length).stunAttribute.entries = response.entries inet := rfl
  have fits : ¬ (1024 < (response.tlvs.flatMap StunTlv.wire).length ∨
      size < 20 + ((response.tlvs.flatMap StunTlv.wire).length + 32)) := by omega
  rw [StunMsgPacket.encode, entries, attributes, Outcome.ok_bind_do, if_neg fits, trailers, message,
    StunMsgPacket.responseBytes, body]
  simp only [Outcome.pure_eq, StunMsgPacket.header, packet, List.append_assoc]

/-! ## Decoding -/

section Decode

variable {packet : StunMsgPacket}

theorem addTlv_mapped (endpoint : Endpoint) : packet.addTlv inet (mappedTlv endpoint) =
    .ok { packet with stunAttribute := packet.stunAttribute.insert mappedAddress (endpoint.text inet) } := by
  have type : StunTlv.seenType (mappedTlv endpoint).type = mappedAddress :=
    StunTlv.seenType_eq (show mappedAddress.toNat % 2 ^ 8 < 128 by decide)
  rw [StunMsgPacket.addTlv, type]
  exact StunMsgPacket.decodeAttribute_mapped inet packet endpoint 0

theorem addTlv_xorMapped (cookie : packet.stunMagicCookie = magicCookie) (endpoint : Endpoint) :
    packet.addTlv inet (xorMappedTlv endpoint) =
      .ok { packet with stunAttribute := packet.stunAttribute.insert xorMappedAddress (endpoint.text inet) } := by
  have type : StunTlv.seenType (xorMappedTlv endpoint).type = xorMappedAddress :=
    StunTlv.seenType_eq (show xorMappedAddress.toNat % 2 ^ 8 < 128 by decide)
  rw [StunMsgPacket.addTlv, type]
  exact StunMsgPacket.decodeAttribute_xorMapped inet cookie endpoint 0

theorem addTlv_username (name : { text : List UInt8 // text.length ≤ 512 }) : packet.addTlv inet (usernameTlv name) =
    .ok { packet with stunAttribute := packet.stunAttribute.insert username name.val } := by
  have type : StunTlv.seenType (usernameTlv name).type = username :=
    StunTlv.seenType_eq (show username.toNat % 2 ^ 8 < 128 by decide)
  rw [StunMsgPacket.addTlv, type, StunMsgPacket.decodeAttribute, if_pos rfl]
  rfl

/-- The trailers are passed over. -/
theorem addTlv_trailers (digest : { digest : List UInt8 // digest.length = 20 }) (crc32 : UInt32) :
    [integrityTlv digest, fingerprintTlv crc32].foldlM (StunMsgPacket.addTlv inet) packet = .ok packet := by
  have first : packet.addTlv inet (integrityTlv digest) = .ok packet := by
    have type : StunTlv.seenType (integrityTlv digest).type = messageIntegrity :=
      StunTlv.seenType_eq (show messageIntegrity.toNat % 2 ^ 8 < 128 by decide)
    rw [StunMsgPacket.addTlv, type, StunMsgPacket.decodeAttribute, if_neg (by decide), if_neg (by decide),
      if_neg (by decide), if_neg (by decide)]
  have second : packet.addTlv inet (fingerprintTlv crc32) = .ok packet := by
    have type : StunTlv.seenType (fingerprintTlv crc32).type = fingerprint :=
      StunTlv.seenType_eq (show fingerprint.toNat % 2 ^ 8 < 128 by decide)
    rw [StunMsgPacket.addTlv, type, StunMsgPacket.decodeAttribute, if_neg (by decide), if_neg (by decide),
      if_neg (by decide), if_neg (by decide)]
  rw [List.foldlM_cons, first, Outcome.ok_bind_do, List.foldlM_cons, second]
  rfl

/-- A map with an entry that there is or is not. -/
def addEntry (map : OrderedMap UInt16 (List UInt8)) : Option (UInt16 × List UInt8) -> OrderedMap UInt16 (List UInt8)
  | some (key, value) => map.insert key value
  | none => map

/-- An attribute that there is or is not. -/
theorem addTlv_option {α : Type} (tlv : α -> StunTlv) (entry : α -> UInt16 × List UInt8)
    (adds : forall value, packet.addTlv inet (tlv value) =
      .ok { packet with stunAttribute := packet.stunAttribute.insert (entry value).1 (entry value).2 })
    (value : Option α) : (value.map tlv).toList.foldlM (StunMsgPacket.addTlv inet) packet =
      .ok { packet with stunAttribute := addEntry packet.stunAttribute (value.map entry) } := by
  cases value with
  | none => rfl
  | some value =>
      rw [Option.map_some, Option.toList_some, List.foldlM_cons, adds]
      rfl

/-- The entries in their order make the map again. -/
theorem attributes_eq : response.attributes inet =
    addEntry (addEntry (addEntry .empty (response.mapped.map (mappedEntry inet))) (response.name.map usernameEntry))
      (response.xorMapped.map (xorMappedEntry inet)) := by
  rcases response with ⟨tranId, name, xorMapped, mapped⟩
  cases mapped <;> cases name <;> cases xorMapped <;> rfl

theorem addTlv_tlvs (cookie : packet.stunMagicCookie = magicCookie) (fresh : packet.stunAttribute = .empty) :
    response.tlvs.foldlM (StunMsgPacket.addTlv inet) packet =
      .ok { packet with stunAttribute := response.attributes inet } := by
  rw [tlvs, List.foldlM_append, addTlv_option inet mappedTlv (mappedEntry inet) (addTlv_mapped inet), Outcome.ok_bind_do,
    List.foldlM_append, addTlv_option inet usernameTlv usernameEntry (addTlv_username inet), Outcome.ok_bind_do]
  refine (addTlv_option inet xorMappedTlv (xorMappedEntry inet) (addTlv_xorMapped inet ?_) response.xorMapped).trans ?_
  · exact cookie
  · rw [fresh, attributes_eq]

end Decode

/-- No length of a name has a sign in its low byte. -/
def Readable : Prop := forall name, response.name = some name -> name.val.length % 2 ^ 8 < 128

theorem mappedTlv_legible (endpoint : Endpoint) : (mappedTlv endpoint).Legible := by
  rw [StunTlv.Legible, mappedTlv_length]
  decide

theorem xorMappedTlv_legible (endpoint : Endpoint) : (xorMappedTlv endpoint).Legible := by
  rw [StunTlv.Legible, xorMappedTlv_length]
  decide

theorem trailers_legible (digest : { digest : List UInt8 // digest.length = 20 }) (crc32 : UInt32) :
    forall tlv, tlv ∈ [integrityTlv digest, fingerprintTlv crc32] -> tlv.Legible := by
  intro tlv member
  rcases List.mem_cons.mp member with rfl | last
  · rw [StunTlv.Legible, integrityTlv_length]
    decide
  · rw [List.mem_singleton.mp last, StunTlv.Legible, fingerprintTlv_length]
    decide

theorem tlvs_legible {response : BindResponse} (readable : response.Readable) :
    forall tlv, tlv ∈ response.tlvs -> tlv.Legible := by
  intro tlv member
  rw [tlvs, List.mem_append, List.mem_append, Option.mem_toList, Option.mem_toList, Option.mem_toList] at member
  rcases member with mapped | named | xorMapped
  · rcases Option.map_eq_some_iff.mp mapped with ⟨endpoint, -, rfl⟩
    exact mappedTlv_legible endpoint
  · rcases Option.map_eq_some_iff.mp named with ⟨name, present, rfl⟩
    exact readable name present
  · rcases Option.map_eq_some_iff.mp xorMapped with ⟨endpoint, -, rfl⟩
    exact xorMappedTlv_legible endpoint

/-! ## Both directions -/

/-- The length that `encode` leaves in the packet. -/
theorem sent_length : (UInt16.ofNat ((response.tlvs.flatMap StunTlv.wire).length + 32)).toNat =
    (response.tlvs.flatMap StunTlv.wire).length + 32 := by
  have short := response.tlvs_length
  rw [UInt16.toNat_ofNat', Nat.mod_eq_of_lt (by omega)]

section Fresh

variable (tranId : List UInt8) (digest : { digest : List UInt8 // digest.length = 20 }) (crc32 : UInt32)

/-- The packet that the header leaves behind. -/
def begun : StunMsgPacket :=
  (StunMsgPacket.new tranId).withHeader ((response.tlvs.flatMap StunTlv.wire).length + 32) magicCookie
    response.tranId.val

theorem begun_cookie : (response.begun tranId).stunMagicCookie = magicCookie := UInt32.zero_or

/-- What is left to the loop. -/
theorem decode_begins : (StunMsgPacket.new tranId).decode inet (response.message digest crc32)
      (20 + ((response.tlvs.flatMap StunTlv.wire).length + 32) : Nat) =
    (response.begun tranId).decodeAttributes inet (response.message digest crc32)
      (20 + ((response.tlvs.flatMap StunTlv.wire).length + 32)) 20 := by
  have total := response.body_length digest crc32
  have begins := StunMsgPacket.decode_response inet (StunMsgPacket.new tranId)
    ((response.tlvs.flatMap StunTlv.wire).length + 32) magicCookie response.tranId.property (response.body digest crc32)
  rw [total] at begins
  exact begins

theorem decode_readable (readable : response.Readable) :
    (StunMsgPacket.new tranId).decode inet (response.message digest crc32)
      (20 + ((response.tlvs.flatMap StunTlv.wire).length + 32) : Nat) =
      .ok { response.begun tranId with stunAttribute := response.attributes inet } := by
  have total := response.body_length digest crc32
  have all : response.body digest crc32 =
      (response.tlvs ++ [integrityTlv digest, fingerprintTlv crc32]).flatMap StunTlv.wire ++ [] := by
    rw [List.append_nil, List.flatMap_append, body]
  have legible : forall tlv, tlv ∈ response.tlvs ++ [integrityTlv digest, fingerprintTlv crc32] -> tlv.Legible := by
    intro tlv member
    rcases List.mem_append.mp member with front | behind
    · exact tlvs_legible readable tlv front
    · exact trailers_legible digest crc32 tlv behind
  have length : ((response.tlvs ++ [integrityTlv digest, fingerprintTlv crc32]).flatMap StunTlv.wire).length =
      (response.tlvs.flatMap StunTlv.wire).length + 32 := by
    rw [← total, all, List.append_nil]
  rcases StunMsgPacket.responseBytes_split ((response.tlvs.flatMap StunTlv.wire).length + 32) magicCookie
    response.tranId.property with ⟨header, twenty, split⟩
  rw [decode_begins, message, split, all,
    StunMsgPacket.decodeAttributes_tlvs inet twenty.symm legible (by omega), List.foldlM_append,
    response.addTlv_tlvs inet (response.begun_cookie tranId) rfl, Outcome.ok_bind_do, addTlv_trailers,
    Outcome.ok_bind_do, StunMsgPacket.decodeAttributes_end inet (by omega)]

/-- A name that is not readable is looked for behind the end of the message. -/
theorem decode_unreadable {name : { text : List UInt8 // text.length ≤ 512 }} (named : response.name = some name)
    (unreadable : ¬ (usernameTlv name).Legible) :
    (StunMsgPacket.new tranId).decode inet (response.message digest crc32)
      (20 + ((response.tlvs.flatMap StunTlv.wire).length + 32) : Nat) = .fault := by
  have total := response.body_length digest crc32
  have short := response.tlvs_length
  rcases StunMsgPacket.responseBytes_split ((response.tlvs.flatMap StunTlv.wire).length + 32) magicCookie
    response.tranId.property with ⟨header, twenty, split⟩
  have front : forall tlv, tlv ∈ (response.mapped.map mappedTlv).toList -> tlv.Legible := by
    intro tlv member
    rw [Option.mem_toList] at member
    rcases Option.map_eq_some_iff.mp member with ⟨endpoint, -, rfl⟩
    exact mappedTlv_legible endpoint
  have tlvs : response.tlvs = (response.mapped.map mappedTlv).toList ++
      (usernameTlv name :: (response.xorMapped.map xorMappedTlv).toList) := by
    rw [BindResponse.tlvs, named]
    rfl
  have sum : (response.tlvs.flatMap StunTlv.wire).length =
      ((response.mapped.map mappedTlv).toList.flatMap StunTlv.wire).length + ((usernameTlv name).wire.length +
        ((response.xorMapped.map xorMappedTlv).toList.flatMap StunTlv.wire).length) := by
    rw [tlvs, List.flatMap_append, List.flatMap_cons, List.length_append, List.length_append]
  have some := (usernameTlv name).wire_length
  have order : response.body digest crc32 = (response.mapped.map mappedTlv).toList.flatMap StunTlv.wire ++
      ((usernameTlv name).wire ++ ((response.xorMapped.map xorMappedTlv).toList.flatMap StunTlv.wire ++
        [integrityTlv digest, fingerprintTlv crc32].flatMap StunTlv.wire)) := by
    rw [body, tlvs, List.flatMap_append, List.flatMap_cons, List.append_assoc, List.append_assoc]
  have whole : (header ++ response.body digest crc32).length < 1000 := by
    rw [List.length_append, total, twenty]
    omega
  rw [order] at whole
  rw [decode_begins, message, split, order, StunMsgPacket.decodeAttributes_tlvs inet twenty.symm front (by omega),
    addTlv_option inet mappedTlv (mappedEntry inet) (addTlv_mapped inet), Outcome.ok_bind_do, ← List.append_assoc]
  rw [← List.append_assoc] at whole
  apply StunMsgPacket.decodeAttributes_illegible inet _ (by omega) _ unreadable (by omega)
  rw [List.length_append, twenty]

end Fresh

theorem roundTrips_of_readable {response : BindResponse} (readable : response.Readable) (length : UInt16) {size : Nat}
    (room : 1024 ≤ size) (password : List UInt8) : response.RoundTrips inet hmac length size password := by
  rcases response.encode_eq inet hmac length room password with ⟨digest, crc32, encoded⟩
  rcases StunMsgPacket.responseBytes_split ((response.tlvs.flatMap StunTlv.wire).length + 32) magicCookie
    response.tranId.property with ⟨header, twenty, split⟩
  refine ⟨_, _, encoded, ?_, ?_⟩
  · rw [response.sent_length, message, split, List.length_append, twenty, response.body_length]
  · intro tranId
    have decoded := response.decode_readable inet tranId digest crc32 readable
    rw [← response.sent_length] at decoded
    exact ⟨_, decoded, rfl, response.begun_cookie tranId, rfl, rfl⟩

theorem readable_of_roundTrips {response : BindResponse} {length : UInt16} {size : Nat} (room : 1024 ≤ size)
    {password : List UInt8} (roundTrips : response.RoundTrips inet hmac length size password) : response.Readable := by
  intro name named
  by_contra unreadable
  rcases response.encode_eq inet hmac length room password with ⟨digest, crc32, encoded⟩
  rcases roundTrips with ⟨sent, bytes, encoded', -, decodes⟩
  rw [encoded, Outcome.ok.injEq, Prod.mk.injEq] at encoded'
  rcases encoded' with ⟨rfl, rfl⟩
  rcases decodes [] with ⟨received, decoded, -⟩
  have faults := response.decode_unreadable inet [] digest crc32 named unreadable
  rw [← response.sent_length, decoded] at faults
  cases faults

/-- A response comes back where the length of its name has no sign in its low
byte. -/
theorem roundTrips_iff_readable (length : UInt16) (size : Nat) (password : List UInt8) (room : 1024 ≤ size) :
    response.RoundTrips inet hmac length size password ↔ response.Readable :=
  ⟨readable_of_roundTrips inet hmac room, fun readable => roundTrips_of_readable inet hmac readable length room password⟩

/-- A user name of five bytes, and 127.0.0.1:3478. -/
def smallResponse : BindResponse where
  tranId := ⟨[0, 1, 2, 3, 4, 5, 6, 7, 8, 9, 10, 11], rfl⟩
  name := some ⟨ascii "users", by decide⟩
  xorMapped := some { addr := 0x0100007f, port := 3478 }
  mapped := none

/-- The HMAC-SHA1 of this response under the key `"secret"`. -/
def smallDigest : HmacSha1 := fun _ _ =>
  ⟨[0x75, 0xa1, 0xc7, 0xb7, 0x62, 0x14, 0x2a, 0xf0, 0x29, 0x3e, 0x45, 0xb9, 0x3f, 0x5f, 0x9e, 0x25, 0x42, 0xe8, 0x01, 0xb7], rfl⟩

theorem roundTrips_smallResponse : smallResponse.RoundTrips dottedInet smallDigest 0 1024 (ascii "secret") := by
  apply (roundTrips_iff_readable dottedInet smallDigest smallResponse 0 1024 (ascii "secret") (Nat.le_refl _)).mpr
  intro name named
  cases named
  decide

/-- A user name of 128 bytes. -/
def longName : { text : List UInt8 // text.length ≤ 512 } :=
  ⟨List.replicate 128 0x75, by rw [List.length_replicate]; decide⟩

theorem longName_lost :
    ¬ { smallResponse with name := some longName }.RoundTrips dottedInet smallDigest 0 1024 (ascii "secret") := by
  intro roundTrips
  have readable := readable_of_roundTrips dottedInet smallDigest (Nat.le_refl _) roundTrips
  have low : longName.val.length % 2 ^ 8 < 128 := readable longName rfl
  have length : longName.val.length = 128 := List.length_replicate
  rw [length] at low
  exact absurd low (by decide)

end BindResponse

end Net
end RtmpClient
