import RtmpClient.Net.StunRoundTrip

namespace RtmpClient
namespace Net

open Library StunMessageType StunMessageAttribute

/-!
# What a STUN client reports (`app_protocol/stun.cc`)

`STUNClient::onRecvStunData`.  Every response is decoded into the same packet,
whose attributes are put in beside those of the responses before it.
-/

inductive StunCallbackErrCode where
  | stunErrorNone
  | stunErrorTimeOut
  | stunErrorServer
  | stunErrorCancel
  deriving DecidableEq, Repr

structure IPAddr where
  ip : List UInt8
  port : UInt16
  deriving DecidableEq, Repr

/-- A call of `stunCb_`. -/
inductive StunReport where
  | stunFail (err : StunCallbackErrCode)
  | stunNatMap (mapAddr changeAddr : IPAddr)
  deriving DecidableEq, Repr

/-- What `onRecvStunData` uses of a client: the packet, and whether
`retryTimer_` runs. -/
structure STUNClient where
  packet : StunMsgPacket
  retryTimer : Bool
  deriving DecidableEq, Repr

/-- `substr` in front of the colon and `atoi` of what stands behind it. -/
def cutAddress (value : List UInt8) : Outcome IPAddr := do
  let pos := findFirstOf value portColon
  let ip := substrTo value pos
  match substrFrom value (behind pos 1) with
  | some number => do
      let port ← atoiOr number
      return { ip, port := port.toUInt32.toUInt16 }
  | none => .fault

/-- `find(key)->second`. -/
def StunMsgPacket.secondOf (packet : StunMsgPacket) (key : UInt16) : Outcome (List UInt8) :=
  match packet.stunAttribute.find key with
  | some value => .ok value
  | none => .fault

/-- The address of the other server; port `-1` where there is none. -/
def StunMsgPacket.changeAddr (packet : StunMsgPacket) : Outcome IPAddr :=
  match packet.stunAttribute.find changedAddress with
  | some value => cutAddress value
  | none => .ok { ip := [], port := 0xffff }

namespace STUNClient

/-- `onRecvStunData`: the client behind the call, and what it reports. -/
def onRecvStunData (inet : InetText) (client : STUNClient) (data : List UInt8) (len : Int) :
    Outcome (STUNClient × StunReport) := do
  let packet ← client.packet.decode inet data len
  if packet.stunAttribute.find xorMappedAddress = none ∧ packet.stunAttribute.find mappedAddress = none then
    return ({ client with packet }, .stunFail .stunErrorServer)
  else
    let value ←
      if packet.stunAttribute.find xorMappedAddress ≠ none then packet.secondOf xorMappedAddress
      else packet.secondOf xorMappedAddress
    let sockaddr ← cutAddress value
    let changeAddr ← packet.changeAddr
    return ({ packet, retryTimer := false }, .stunNatMap sockaddr changeAddr)

/-- What the client reports of these datagrams, given to it one after the other. -/
def reports (inet : InetText) (client : STUNClient) : List (List UInt8) -> Outcome (List StunReport)
  | [] => .ok []
  | data :: datagrams => do
      let (client, report) ← client.onRecvStunData inet data data.length
      let later ← client.reports inet datagrams
      return report :: later

end STUNClient

/-! ## Responses -/

/-- The attributes that carry an address. -/
inductive AddressKind where
  | mapped
  | xorMapped
  | changed
  | other
  deriving DecidableEq, Repr

namespace AddressKind

def type : AddressKind -> UInt16
  | mapped => mappedAddress
  | xorMapped => xorMappedAddress
  | changed => changedAddress
  | other => otherAddress

/-- What the port and the address are masked with. -/
def masks : AddressKind -> UInt16 × UInt32
  | xorMapped => (BindResponse.portMask, magicCookie)
  | _ => (0, 0)

/-- Where `decode` puts the text. -/
def key : AddressKind -> UInt16
  | mapped => mappedAddress
  | xorMapped => xorMappedAddress
  | changed => changedAddress
  | other => changedAddress

theorem type_small (kind : AddressKind) : kind.type.toNat % 2 ^ 8 < 128 := by
  cases kind <;> decide

end AddressKind

/-- An attribute of a response: an address of IPv4 of some kind, or one of
another type. -/
inductive StunItem where
  | address (kind : AddressKind) (reserved : UInt8) (endpoint : Endpoint)
  | plain (tlv : StunTlv) (noAddress : forall kind : AddressKind, tlv.type ≠ kind.type)

namespace StunItem

def tlv : StunItem -> StunTlv
  | address kind reserved endpoint =>
      { type := kind.type
        value := endpoint.value reserved kind.masks.1 kind.masks.2
        padding := []
        aligned := by rw [endpoint.value_length]; decide
        less := StunTlv.unpadded
        fits := by rw [endpoint.value_length]; decide }
  | plain tlv _ => tlv

/-- The address, in an attribute of this kind. -/
def addressOf (kind : AddressKind) : StunItem -> Option Endpoint
  | address found _ endpoint => if found = kind then some endpoint else none
  | plain _ _ => none

end StunItem

/-- A well-formed binding response, with an address of its own. -/
structure ServerResponse where
  tranId : { bytes : List UInt8 // bytes.length = 12 }
  items : List StunItem
  fits : (items.flatMap fun item => item.tlv.wire).length < 2 ^ 16
  addressed : items.findSome? (StunItem.addressOf .xorMapped) ≠ none ∨
    items.findSome? (StunItem.addressOf .mapped) ≠ none

namespace ServerResponse

variable (response : ServerResponse)

/-- The attributes on the wire. -/
def body : List UInt8 := response.items.flatMap fun item => item.tlv.wire

def datagram : List UInt8 :=
  StunMsgPacket.responseBytes response.body.length magicCookie response.tranId.val response.body

/-- The first address of this kind. -/
def first (kind : AddressKind) : Option Endpoint := response.items.findSome? (StunItem.addressOf kind)

/-- The address of the response: the XOR-mapped one when present, otherwise the
mapped one. -/
def own : Option Endpoint := (response.first .xorMapped).or (response.first .mapped)

def Legible : Prop := forall item, item ∈ response.items -> item.tlv.Legible

end ServerResponse

/-- The report names this address. -/
def StunReport.Names (inet : InetText) (report : StunReport) (endpoint : Endpoint) : Prop :=
  Exists fun changeAddr => report = .stunNatMap { ip := inet.inetNtoa endpoint.addr, port := endpoint.port } changeAddr

/-- Each call reports the address of the response that it was given. -/
def STUNClient.ReportsOwn (inet : InetText) (client : STUNClient) (responses : List ServerResponse) : Prop :=
  Exists fun reported => client.reports inet (responses.map ServerResponse.datagram) = .ok reported ∧
    List.Forall₂ (fun response report => Exists fun endpoint => response.own = some endpoint ∧
      StunReport.Names inet report endpoint) responses reported

/-- A client that was given nothing yet. -/
def STUNClient.fresh (tranId : List UInt8) (retryTimer : Bool) : STUNClient where
  packet := .new tranId
  retryTimer := retryTimer

/-- The first response has a XOR-mapped address, every later one has the same
address, and no length has a sign in its low byte. -/
def Settled (responses : List ServerResponse) : Prop :=
  (forall response, response ∈ responses -> response.Legible) ∧
    forall response, responses.head? = some response -> Exists fun endpoint =>
      response.first .xorMapped = some endpoint ∧ forall other, other ∈ responses -> other.own = some endpoint

/-! ## What is decoded of a response -/

/-- A known type is read only where it stands. -/
theorem StunTlv.seenType_eq_iff {type known : UInt16} (small : known.toNat % 2 ^ 8 < 128) :
    seenType type = known ↔ type = known := by
  constructor
  · intro seen
    by_cases low : type.toNat % 2 ^ 8 < 128
    · rw [← seenType_eq low, seen]
    · have number := congrArg UInt16.toNat seen
      rw [seenType, signedShort_toNat, UInt8.toNat_ofNat', if_neg low] at number
      omega
  · rintro rfl
    exact seenType_eq small

namespace StunItem

variable (inet : InetText)

/-- What `decode` puts into the map. -/
def entry : StunItem -> Option (UInt16 × List UInt8)
  | address kind _ endpoint => some (kind.key, endpoint.text inet)
  | plain tlv _ => if tlv.type = username then some (username, tlv.value) else none

/-- The address that comes to stand at this key. -/
def addressAt (key : UInt16) : StunItem -> Option Endpoint
  | address kind _ endpoint => if kind.key = key then some endpoint else none
  | plain _ _ => none

theorem addressAt_xorMapped : addressAt xorMappedAddress = addressOf .xorMapped := by
  funext item
  cases item with
  | address kind reserved endpoint => cases kind <;> rfl
  | plain tlv noAddress => rfl

theorem addressAt_mapped : addressAt mappedAddress = addressOf .mapped := by
  funext item
  cases item with
  | address kind reserved endpoint => cases kind <;> rfl
  | plain tlv noAddress => rfl

/-- What is found at a key is the text of the first address that belongs there. -/
theorem findIn_entries {key : UInt16} (noName : key ≠ username) (items : List StunItem) :
    findIn key (items.filterMap (entry inet)) = (items.findSome? (addressAt key)).map (Endpoint.text inet) := by
  induction items with
  | nil => rfl
  | cons item items inductionHypothesis =>
      rw [List.filterMap_cons, List.findSome?_cons]
      cases item with
      | address kind reserved endpoint =>
          rw [entry, addressAt]
          by_cases here : kind.key = key
          · rw [if_pos here]
            exact findIn_first here.symm _
          · rw [if_neg here]
            exact (findIn_later (Ne.symm here) _).trans inductionHypothesis
      | plain tlv noAddress =>
          rw [entry, addressAt]
          by_cases name : tlv.type = username
          · rw [if_pos name]
            exact (findIn_later noName _).trans inductionHypothesis
          · rw [if_neg name]
            exact inductionHypothesis

variable {packet : StunMsgPacket}

/-- What an attribute does to the packet. -/
theorem addTlv_tlv (cookie : packet.stunMagicCookie = magicCookie) (item : StunItem) : packet.addTlv inet item.tlv =
    .ok { packet with stunAttribute := packet.stunAttribute.insertAll (item.entry inet).toList } := by
  cases item with
  | address kind reserved endpoint =>
      have type : StunTlv.seenType kind.type = kind.type := StunTlv.seenType_eq kind.type_small
      rw [StunMsgPacket.addTlv, tlv, type]
      cases kind with
      | mapped => exact StunMsgPacket.decodeAttribute_mapped inet packet endpoint reserved
      | xorMapped => exact StunMsgPacket.decodeAttribute_xorMapped inet cookie endpoint reserved
      | changed => exact StunMsgPacket.decodeAttribute_changed inet packet endpoint reserved (.inl rfl)
      | other => exact StunMsgPacket.decodeAttribute_changed inet packet endpoint reserved (.inr rfl)
  | plain tlv noAddress =>
      have unseen : forall kind : AddressKind, StunTlv.seenType tlv.type ≠ kind.type := fun kind seen =>
        noAddress kind ((StunTlv.seenType_eq_iff kind.type_small).mp seen)
      have noXorMapped : StunTlv.seenType tlv.type ≠ xorMappedAddress := unseen .xorMapped
      have noMapped : StunTlv.seenType tlv.type ≠ mappedAddress := unseen .mapped
      have noChange : ¬ (StunTlv.seenType tlv.type = changedAddress ∨ StunTlv.seenType tlv.type = otherAddress) :=
        not_or.mpr ⟨unseen .changed, unseen .other⟩
      rw [StunMsgPacket.addTlv, StunItem.tlv, StunMsgPacket.decodeAttribute, entry]
      by_cases name : tlv.type = username
      · rw [if_pos ((StunTlv.seenType_eq_iff (by decide)).mpr name), if_pos name]
        rfl
      · have noName : StunTlv.seenType tlv.type ≠ username := fun seen =>
          name ((StunTlv.seenType_eq_iff (by decide)).mp seen)
        rw [if_neg noName, if_neg noXorMapped, if_neg noMapped, if_neg noChange, if_neg name]
        rfl

/-- What some attributes do to the packet, one after the other. -/
theorem addTlv_tlvs (cookie : packet.stunMagicCookie = magicCookie) (items : List StunItem) :
    (items.map tlv).foldlM (StunMsgPacket.addTlv inet) packet =
      .ok { packet with stunAttribute := packet.stunAttribute.insertAll (items.filterMap (entry inet)) } := by
  induction items generalizing packet with
  | nil => rfl
  | cons item items inductionHypothesis =>
      have joined : ((item :: items).filterMap (entry inet)) =
          (item.entry inet).toList ++ items.filterMap (entry inet) := by
        rw [List.filterMap_cons]
        cases item.entry inet <;> rfl
      rw [List.map_cons, List.foldlM_cons, addTlv_tlv inet cookie item, Outcome.ok_bind_do]
      refine (inductionHypothesis ?_).trans ?_
      · exact cookie
      · rw [joined, OrderedMap.insertAll, OrderedMap.insertAll, OrderedMap.insertAll, List.foldl_append]

end StunItem

/-! ## What the packet knows -/

/-- The packet decodes further responses with their masks, and its texts are
those of addresses. -/
structure StunMsgPacket.Knows (inet : InetText) (packet : StunMsgPacket) (xorMapped mapped : Option Endpoint) : Prop where
  cookie : packet.stunMagicCookie ||| magicCookie = magicCookie
  xorMapped : packet.stunAttribute.find xorMappedAddress = xorMapped.map (Endpoint.text inet)
  mapped : packet.stunAttribute.find mappedAddress = mapped.map (Endpoint.text inet)
  changed : Exists fun changed : Option Endpoint =>
    packet.stunAttribute.find changedAddress = changed.map (Endpoint.text inet)

variable (inet : InetText)

theorem knows_new (tranId : List UInt8) : (StunMsgPacket.new tranId).Knows inet none none where
  cookie := UInt32.zero_or
  xorMapped := rfl
  mapped := rfl
  changed := ⟨none, rfl⟩

/-- The entries of a response go behind what is known. -/
theorem knows_insertAll {packet : StunMsgPacket} {xorMapped mapped : Option Endpoint}
    (knows : packet.Knows inet xorMapped mapped) (response : ServerResponse) (length : UInt16) :
    StunMsgPacket.Knows inet
      { packet with
          stunMsgType := stunBindRespones
          stunMsgLenght := length
          stunMagicCookie := magicCookie
          stunTranId := response.tranId.val
          stunAttribute := packet.stunAttribute.insertAll (response.items.filterMap (StunItem.entry inet)) }
      (xorMapped.or (response.first .xorMapped)) (mapped.or (response.first .mapped)) := by
  have behind : forall {key : UInt16} {before : Option Endpoint}, key ≠ username ->
      packet.stunAttribute.find key = before.map (Endpoint.text inet) ->
      (packet.stunAttribute.insertAll (response.items.filterMap (StunItem.entry inet))).find key =
        (before.or (response.items.findSome? (StunItem.addressAt key))).map (Endpoint.text inet) := by
    intro key before noName known
    rw [OrderedMap.find_insertAll, known, StunItem.findIn_entries inet noName, Option.map_or]
  rcases knows.changed with ⟨changed, known⟩
  refine ⟨UInt32.or_self, ?_, ?_, _, behind (by decide) known⟩
  · rw [ServerResponse.first, ← StunItem.addressAt_xorMapped]
    exact behind (by decide) knows.xorMapped
  · rw [ServerResponse.first, ← StunItem.addressAt_mapped]
    exact behind (by decide) knows.mapped

/-! ## A response -/

namespace ServerResponse

variable (response : ServerResponse)

theorem datagram_length : response.datagram.length = 20 + response.body.length := by
  rcases StunMsgPacket.responseBytes_split response.body.length magicCookie response.tranId.property with
    ⟨header, twenty, split⟩
  rw [datagram, split, List.length_append, twenty]

/-- The attributes on the wire, one list. -/
theorem flatMap_wire (items : List StunItem) :
    (items.flatMap fun item => item.tlv.wire) = (items.map StunItem.tlv).flatMap StunTlv.wire :=
  (List.flatMap_map ..).symm

/-- The first attribute that is not legible. -/
theorem first_illegible {response : ServerResponse} (illegible : ¬ response.Legible) :
    Exists fun front => Exists fun item => Exists fun rest => response.items = front ++ item :: rest ∧
      (forall item, item ∈ front -> item.tlv.Legible) ∧ ¬ item.tlv.Legible := by
  have found : response.items.find? (fun item => decide (¬ item.tlv.Legible)) ≠ none := by
    intro none
    apply illegible
    intro item member
    have judged := List.find?_eq_none.mp none item member
    rw [decide_eq_true_iff, not_not] at judged
    exact judged
  rcases Option.ne_none_iff_exists'.mp found with ⟨item, first⟩
  rcases List.find?_eq_some_iff_append.mp first with ⟨unreadable, front, rest, items, legible⟩
  refine ⟨front, item, rest, items, ?_, of_decide_eq_true unreadable⟩
  intro other member
  have judged := legible other member
  rw [Bool.not_eq_true', decide_eq_false_iff_not, not_not] at judged
  exact judged

/-- The packet that the header leaves behind. -/
def begun (packet : StunMsgPacket) : StunMsgPacket where
  stunMsgType := stunBindRespones
  stunMsgLenght := (packet.withHeader response.body.length magicCookie response.tranId.val).stunMsgLenght
  stunMagicCookie := magicCookie
  stunTranId := response.tranId.val
  stunAttribute := packet.stunAttribute

variable {response} {packet : StunMsgPacket} {xorMapped mapped : Option Endpoint}
  (knows : packet.Knows inet xorMapped mapped)

include knows

/-- The header is read, and the loop goes on behind it. -/
theorem decode_begins : packet.decode inet response.datagram response.datagram.length =
    (response.begun packet).decodeAttributes inet response.datagram (20 + response.body.length) 20 := by
  have begins := StunMsgPacket.decode_response inet packet response.body.length magicCookie response.tranId.property
    response.body
  rw [datagram_length]
  refine begins.trans ?_
  rw [StunMsgPacket.withHeader, knows.cookie]
  rfl

/-- Legible attributes are dealt with, and the loop goes on behind them. -/
theorem decode_front {front : List StunItem} {rest : List UInt8}
    (body : response.body = (front.flatMap fun item => item.tlv.wire) ++ rest)
    (legible : forall item, item ∈ front -> item.tlv.Legible) :
    packet.decode inet response.datagram response.datagram.length =
      StunMsgPacket.decodeAttributes inet response.datagram (20 + response.body.length)
        { response.begun packet with
            stunAttribute := packet.stunAttribute.insertAll (front.filterMap (StunItem.entry inet)) }
        (20 + (front.flatMap fun item => item.tlv.wire).length) := by
  rcases StunMsgPacket.responseBytes_split response.body.length magicCookie response.tranId.property with
    ⟨header, twenty, split⟩
  rw [flatMap_wire] at body ⊢
  have length := congrArg List.length body
  rw [List.length_append] at length
  have all : forall tlv, tlv ∈ front.map StunItem.tlv -> tlv.Legible := by
    intro tlv member
    rcases List.mem_map.mp member with ⟨item, member', rfl⟩
    exact legible item member'
  have loop := @StunMsgPacket.decodeAttributes_tlvs inet header rest _ 20 (20 + response.body.length) twenty.symm all
    (by omega) (response.begun packet)
  rw [← body, ← split response.body, StunItem.addTlv_tlvs inet rfl, Outcome.ok_bind_do] at loop
  exact (decode_begins inet knows).trans loop

/-- A legible response is decoded. -/
theorem decode_legible (legible : response.Legible) : Exists fun received =>
    packet.decode inet response.datagram response.datagram.length = .ok received ∧
      received.Knows inet (xorMapped.or (response.first .xorMapped)) (mapped.or (response.first .mapped)) := by
  have decoded := decode_front inet knows (List.append_nil response.body).symm legible
  exact ⟨_, decoded.trans (StunMsgPacket.decodeAttributes_end inet (Nat.le_refl _) _),
    knows_insertAll inet knows response _⟩

/-- An attribute that is not legible is looked for behind the end of a response
that is not very long. -/
theorem decode_illegible (illegible : ¬ response.Legible) (short : response.datagram.length < 65432) :
    packet.decode inet response.datagram response.datagram.length = .fault := by
  rcases StunMsgPacket.responseBytes_split response.body.length magicCookie response.tranId.property with
    ⟨header, twenty, split⟩
  rcases first_illegible illegible with ⟨front, item, rest, items, legible, unreadable⟩
  have body : response.body = (front.flatMap fun item => item.tlv.wire) ++
      (item.tlv.wire ++ rest.flatMap fun item => item.tlv.wire) := by
    rw [ServerResponse.body, items, List.flatMap_append, List.flatMap_cons]
  have data : response.datagram = (header ++ front.flatMap fun item => item.tlv.wire) ++
      (item.tlv.wire ++ rest.flatMap fun item => item.tlv.wire) := by
    rw [datagram, split, body, List.append_assoc]
  have total := response.datagram_length
  have length := congrArg List.length body
  rw [List.length_append, List.length_append, StunTlv.wire_length] at length
  rw [decode_front inet knows body legible]
  rw [data] at total short ⊢
  apply StunMsgPacket.decodeAttributes_illegible inet _ (by omega) _ unreadable (by omega)
  rw [List.length_append, twenty]

end ServerResponse

/-! ## A call -/

theorem cutAddress_text (endpoint : Endpoint) : cutAddress (endpoint.text inet) =
    .ok { ip := inet.inetNtoa endpoint.addr, port := endpoint.port } := by
  have absent : portColon ∉ inet.inetNtoa endpoint.addr :=
    Endpoint.not_mem_ntoa inet endpoint.addr (by decide) (by decide)
  rcases @substr_cut _ (decimal endpoint.port.toNat) _ absent with ⟨front, behind⟩
  rw [cutAddress, Endpoint.text, front, behind]
  dsimp only
  rw [endpoint.atoiOr_port, Outcome.ok_bind_do, port_ofInt]
  rfl

namespace StunReport.Names

variable {inet} {report : StunReport} {endpoint other : Endpoint}

/-- A report names one address. -/
theorem unique (names : report.Names inet endpoint) (names' : report.Names inet other) : endpoint = other := by
  rcases names with ⟨changeAddr, rfl⟩
  rcases names' with ⟨changeAddr', same⟩
  rw [StunReport.stunNatMap.injEq, IPAddr.mk.injEq] at same
  have addr := congrArg inet.inetAddr same.1.1
  rw [inet.inverse, inet.inverse] at addr
  cases endpoint
  cases other
  cases addr
  cases same.1.2
  rfl

end StunReport.Names

namespace STUNClient

variable {inet} {client : STUNClient} {response : ServerResponse} {xorMapped mapped : Option Endpoint}

/-- The address that the client has found first is reported. -/
theorem onRecvStunData_known (knows : client.packet.Knows inet xorMapped mapped) (legible : response.Legible)
    {endpoint : Endpoint} (known : xorMapped.or (response.first .xorMapped) = some endpoint) :
    Exists fun next => Exists fun report =>
      client.onRecvStunData inet response.datagram response.datagram.length = .ok (next, report) ∧
        next.packet.Knows inet (some endpoint) (mapped.or (response.first .mapped)) ∧ report.Names inet endpoint := by
  rcases response.decode_legible inet knows legible with ⟨received, decoded, knows'⟩
  rw [known] at knows'
  have xorText : received.stunAttribute.find xorMappedAddress = some (endpoint.text inet) := knows'.xorMapped
  have present : ¬ (received.stunAttribute.find xorMappedAddress = none ∧
      received.stunAttribute.find mappedAddress = none) := by
    rw [xorText]
    exact fun absent => nomatch absent.1
  have second : received.secondOf xorMappedAddress = .ok (endpoint.text inet) := by
    rw [StunMsgPacket.secondOf, xorText]
  have changed : Exists fun changeAddr => received.changeAddr = .ok changeAddr := by
    rcases knows'.changed with ⟨changed, text⟩
    rw [StunMsgPacket.changeAddr, text]
    cases changed with
    | none => exact ⟨_, rfl⟩
    | some address => exact ⟨_, cutAddress_text inet address⟩
  rcases changed with ⟨changeAddr, changed⟩
  refine ⟨{ packet := received, retryTimer := false }, _, ?_, knows', changeAddr, rfl⟩
  rw [onRecvStunData, decoded, Outcome.ok_bind_do, if_neg present, second, ite_self, Outcome.ok_bind_do]
  dsimp only
  rw [cutAddress_text, Outcome.ok_bind_do, changed]
  rfl

/-- Without a XOR-mapped address, the mapped one is looked for in its place. -/
theorem onRecvStunData_unknown (knows : client.packet.Knows inet none mapped) (legible : response.Legible)
    (unknown : response.first .xorMapped = none) :
    client.onRecvStunData inet response.datagram response.datagram.length = .fault := by
  rcases response.decode_legible inet knows legible with ⟨received, decoded, knows'⟩
  rw [unknown] at knows'
  have absent : received.stunAttribute.find xorMappedAddress = none := knows'.xorMapped
  have present : ¬ (received.stunAttribute.find xorMappedAddress = none ∧
      received.stunAttribute.find mappedAddress = none) := by
    rintro ⟨-, none⟩
    rw [knows'.mapped, Option.map_eq_none_iff, Option.or_eq_none_iff] at none
    rcases response.addressed with xorPresent | mappedPresent
    · exact xorPresent unknown
    · exact mappedPresent none.2
  have second : received.secondOf xorMappedAddress = .fault := by
    rw [StunMsgPacket.secondOf, absent]
  rw [onRecvStunData, decoded, Outcome.ok_bind_do, if_neg present, second, ite_self]
  rfl

theorem onRecvStunData_illegible (knows : client.packet.Knows inet xorMapped mapped) (illegible : ¬ response.Legible)
    (short : response.datagram.length < 65432) :
    client.onRecvStunData inet response.datagram response.datagram.length = .fault := by
  rw [onRecvStunData, response.decode_illegible inet knows illegible short]
  rfl

/-! ## All calls -/

variable {responses : List ServerResponse}

theorem reportsOwn_nil : client.ReportsOwn inet [] := ⟨[], rfl, .nil⟩

/-- A call that returns. -/
theorem reportsOwn_cons {next : STUNClient} {report : StunReport}
    (returns : client.onRecvStunData inet response.datagram response.datagram.length = .ok (next, report)) :
    client.ReportsOwn inet (response :: responses) ↔
      (Exists fun endpoint => response.own = some endpoint ∧ report.Names inet endpoint) ∧
        next.ReportsOwn inet responses := by
  have calls : client.reports inet ((response :: responses).map ServerResponse.datagram) =
      next.reports inet (responses.map ServerResponse.datagram) >>= fun later => .ok (report :: later) := by
    rw [List.map_cons, reports, returns]
    rfl
  rw [ReportsOwn, calls]
  constructor
  · rintro ⟨reported, ok, all⟩
    rcases Outcome.bind_eq_ok ok with ⟨later, ok', same⟩
    cases same
    rcases List.forall₂_cons.mp all with ⟨here, behind⟩
    exact ⟨here, later, ok', behind⟩
  · rintro ⟨here, later, ok, behind⟩
    rw [ok]
    exact ⟨report :: later, rfl, .cons here behind⟩

/-- A call that does not return. -/
theorem not_reportsOwn_cons
    (faults : client.onRecvStunData inet response.datagram response.datagram.length = .fault) :
    ¬ client.ReportsOwn inet (response :: responses) := by
  rintro ⟨reported, ok, -⟩
  rw [List.map_cons, reports, faults] at ok
  cases ok

/-- A client that has a XOR-mapped address reports it for ever. -/
theorem reportsOwn_of_settled {endpoint : Endpoint} (knows : client.packet.Knows inet (some endpoint) mapped)
    (legible : forall response, response ∈ responses -> response.Legible)
    (settled : forall response, response ∈ responses -> response.own = some endpoint) :
    client.ReportsOwn inet responses := by
  induction responses generalizing client mapped with
  | nil => exact reportsOwn_nil
  | cons response responses inductionHypothesis =>
      rcases onRecvStunData_known knows (legible response List.mem_cons_self) rfl with ⟨next, report, returns, knows', names⟩
      apply (reportsOwn_cons returns).mpr
      refine ⟨⟨endpoint, settled response List.mem_cons_self, names⟩, ?_⟩
      exact inductionHypothesis knows' (fun other member => legible other (List.mem_cons_of_mem response member))
        fun other member => settled other (List.mem_cons_of_mem response member)

theorem settled_of_reportsOwn {endpoint : Endpoint} (knows : client.packet.Knows inet (some endpoint) mapped)
    (short : forall response, response ∈ responses -> response.datagram.length < 65432)
    (reportsOwn : client.ReportsOwn inet responses) :
    forall response, response ∈ responses -> response.Legible ∧ response.own = some endpoint := by
  induction responses generalizing client mapped with
  | nil => exact nofun
  | cons response responses inductionHypothesis =>
      by_cases legible : response.Legible
      · rcases onRecvStunData_known knows legible rfl with ⟨next, report, returns, knows', names⟩
        rcases (reportsOwn_cons returns).mp reportsOwn with ⟨⟨own, here, names'⟩, later⟩
        intro other member
        rcases List.mem_cons.mp member with rfl | behind
        · rw [names.unique names']
          exact ⟨legible, here⟩
        · exact inductionHypothesis knows' (fun other member => short other (List.mem_cons_of_mem response member))
            later other behind
      · exact absurd reportsOwn
          (not_reportsOwn_cons (onRecvStunData_illegible knows legible (short response List.mem_cons_self)))

/-- Responses are reported for themselves where the first one has a XOR-mapped
address, which is the address of all of them, and every length can be read; and
only there, unless a response is very long. -/
theorem reportsOwn_iff_settled (inet : InetText) (tranId : List UInt8) (retryTimer : Bool)
    (responses : List ServerResponse) :
    (Settled responses -> (fresh tranId retryTimer).ReportsOwn inet responses) ∧
      ((forall response, response ∈ responses -> response.datagram.length < 65432) ->
        (fresh tranId retryTimer).ReportsOwn inet responses -> Settled responses) := by
  have knows : (fresh tranId retryTimer).packet.Knows inet none none := knows_new inet tranId
  cases responses with
  | nil => exact ⟨fun _ => reportsOwn_nil, fun _ _ => ⟨nofun, nofun⟩⟩
  | cons response responses =>
      constructor
      · rintro ⟨legible, settled⟩
        rcases settled response rfl with ⟨endpoint, first, own⟩
        rcases onRecvStunData_known knows (legible response List.mem_cons_self) first with
          ⟨next, report, returns, knows', names⟩
        apply (reportsOwn_cons returns).mpr
        refine ⟨⟨endpoint, own response List.mem_cons_self, names⟩, ?_⟩
        exact reportsOwn_of_settled knows' (fun other member => legible other (List.mem_cons_of_mem response member))
          fun other member => own other (List.mem_cons_of_mem response member)
      · intro short reportsOwn
        have legible : response.Legible := by
          by_contra illegible
          exact not_reportsOwn_cons (onRecvStunData_illegible knows illegible (short response List.mem_cons_self))
            reportsOwn
        cases first : response.first .xorMapped with
        | none => exact absurd reportsOwn (not_reportsOwn_cons (onRecvStunData_unknown knows legible first))
        | some endpoint =>
            rcases onRecvStunData_known knows legible first with ⟨next, report, returns, knows', -⟩
            have later := settled_of_reportsOwn knows'
              (fun other member => short other (List.mem_cons_of_mem response member))
              ((reportsOwn_cons returns).mp reportsOwn).2
            have own : response.own = some endpoint := by
              rw [ServerResponse.own, first]
              rfl
            constructor
            · intro other member
              rcases List.mem_cons.mp member with rfl | behind
              · exact legible
              · exact (later other behind).1
            · intro found here
              cases here
              refine ⟨endpoint, first, ?_⟩
              intro other member
              rcases List.mem_cons.mp member with rfl | behind
              · exact own
              · exact (later other behind).2

theorem homeId_length : ([0, 1, 2, 3, 4, 5, 6, 7, 8, 9, 10, 11] : List UInt8).length = 12 := rfl

/-- A response with this XOR-mapped address and a plain one. -/
def homeResponse (endpoint : Endpoint) : ServerResponse where
  tranId := ⟨[0, 1, 2, 3, 4, 5, 6, 7, 8, 9, 10, 11], homeId_length⟩
  items := [.address .mapped 0 { addr := 0x0100007f, port := 3478 }, .address .xorMapped 0 endpoint]
  fits := by
    rw [List.flatMap_cons, List.flatMap_singleton, List.length_append, StunTlv.wire_length, StunTlv.wire_length]
    exact (by decide : 24 < 2 ^ 16)
  addressed := .inl nofun

theorem homeResponse_legible (endpoint : Endpoint) : (homeResponse endpoint).Legible := by
  intro item member
  rcases List.mem_cons.mp member with rfl | last
  · exact (by decide : 8 % 2 ^ 8 < 128)
  · rw [List.mem_singleton.mp last]
    exact (by decide : 8 % 2 ^ 8 < 128)

theorem reportsOwn_homeResponses :
    (fresh [] true).ReportsOwn dottedInet
      [homeResponse { addr := 0x0100007f, port := 1000 }, homeResponse { addr := 0x0100007f, port := 1000 }] := by
  apply (reportsOwn_iff_settled dottedInet [] true _).1
  constructor
  · intro response member
    rcases List.mem_cons.mp member with rfl | last
    · exact homeResponse_legible _
    · rw [List.mem_singleton.mp last]
      exact homeResponse_legible _
  · intro response first
    cases first
    refine ⟨{ addr := 0x0100007f, port := 1000 }, rfl, ?_⟩
    intro other member
    rcases List.mem_cons.mp member with rfl | last
    · rfl
    · rw [List.mem_singleton.mp last]
      rfl

/-- The second response has another port. -/
theorem not_reportsOwn_movedResponse :
    ¬ (fresh [] true).ReportsOwn dottedInet
      [homeResponse { addr := 0x0100007f, port := 1000 }, homeResponse { addr := 0x0100007f, port := 2000 }] := by
  intro reportsOwn
  have knows : (fresh [] true).packet.Knows dottedInet none none := knows_new dottedInet []
  rcases onRecvStunData_known knows (homeResponse_legible { addr := 0x0100007f, port := 1000 }) rfl with
    ⟨next, report, returns, knows', -⟩
  rcases onRecvStunData_known knows' (homeResponse_legible { addr := 0x0100007f, port := 2000 }) rfl with
    ⟨last, second, returns', -, names⟩
  rcases (reportsOwn_cons returns').mp ((reportsOwn_cons returns).mp reportsOwn).2 with ⟨⟨own, here, names'⟩, -⟩
  cases here
  exact absurd (names.unique names') (by decide)

end STUNClient

end Net
end RtmpClient
