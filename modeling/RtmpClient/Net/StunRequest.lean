import RtmpClient.Net.StunClient

namespace RtmpClient
namespace Net

open Library StunMessageType StunMessageAttribute

/-!
# Requests of a STUN client and the answers of a server (`app_protocol/stun.cc`)

`STUNClient` with the timer that has a request sent again, and `STUNServer`.  A
timer of libuv fires once each time it is started, and is not started any more
once `uv_close` was called with it.  `rand()` is a list of numbers without end.
-/

namespace StunMessageType

def stunBindRequest : UInt16 := 0x0001

end StunMessageType

/-- `IPAddr::toStr`. -/
def IPAddr.toStr (addr : IPAddr) : List UInt8 := addr.ip ++ portColon :: decimal addr.port.toNat

/-- `std::to_string` of an `int`. -/
def toStringInt (number : Int32) : List UInt8 :=
  if number.toInt < 0 then 0x2d :: decimal number.toInt.natAbs else decimal number.toInt.natAbs

/-- `random_table`. -/
def randomTable : List UInt8 := ascii "01234567890123456789012345678901234567890123456789abcdefghijklmnopqrstuvwxyz"

/-- `general_random_str`. -/
def generalRandomStr (rands : Nat -> Nat) (len : Nat) : List UInt8 :=
  (List.range len).map fun i => randomTable.getD (rands i % randomTable.length) 0

/-- How far libuv has come with closing a handle. -/
inductive HandleState where
  | opened
  | closing
  | closed
  deriving DecidableEq, Repr

/-- The members of `STUNClient`: those that `onRecvStunData` uses, and the others. -/
structure StunRequester where
  client : STUNClient
  handle : HandleState
  maxRetryNum : Int
  initRtt : Int
  stop : Bool
  username : List UInt8
  password : List UInt8
  transportIdVec : List (List UInt8)
  attributes : OrderedMap UInt16 (List UInt8)
  deriving DecidableEq, Repr

/-- What a call hands to `stunCb_`. -/
inductive StunCall where
  | sendData (data : List UInt8)
  | report (report : StunReport)
  deriving DecidableEq, Repr

namespace StunRequester

/-- The constructor, which sets neither `stop_` nor the transaction id. -/
def new (username password tranId : List UInt8) (stop : Bool) : StunRequester where
  client := .fresh tranId false
  handle := .opened
  maxRetryNum := 5
  initRtt := 500
  stop := stop
  username := username
  password := password
  transportIdVec := []
  attributes := .empty

/-- The attributes of a request. -/
def requestAttributes (requester : StunRequester) : OrderedMap UInt16 (List UInt8) :=
  let named :=
    if requester.username ≠ [] then OrderedMap.empty.insert StunMessageAttribute.username requester.username
    else .empty
  ((named.insertAll requester.attributes.entries).insert iceControlling (ascii "88888888888")).insert priority
    (ascii "1853824767")

/-- `buildBindRequest` into `msg`. -/
def buildBindRequest (inet : InetText) (hmac : HmacSha1) (requester : StunRequester) (rands : Nat -> Nat) :
    Outcome (StunRequester × List UInt8) := do
  let transportId := generalRandomStr rands 12
  let stunMsg : StunMsgPacket := {
    stunMsgType := stunBindRequest
    stunMsgLenght := 0
    stunMagicCookie := 0x2112a442
    stunTranId := transportId
    stunAttribute := requester.requestAttributes }
  let (stunMsg, data) ← stunMsg.encode inet hmac 1024 requester.password
  return ({ requester with transportIdVec := requester.transportIdVec ++ [transportId] },
    data.take (stunMsg.stunMsgLenght.toNat + 20))

/-- `stunRequest`: `uv_timer_start` does nothing with a handle that closes. -/
def stunRequest (inet : InetText) (hmac : HmacSha1) (requester : StunRequester) (rands : Nat -> Nat) :
    Outcome (StunRequester × StunCall) := do
  let (requester, msg) ← requester.buildBindRequest inet hmac rands
  return ({ requester with
      client := { requester.client with retryTimer := decide (requester.handle = .opened) }
      stop := false }, .sendData msg)

def requestStun (inet : InetText) (hmac : HmacSha1) (requester : StunRequester) (rands : Nat -> Nat) :
    Outcome (StunRequester × StunCall) :=
  stunRequest inet hmac { requester with maxRetryNum := 5, initRtt := 500 } rands

def startRetransmit (inet : InetText) (hmac : HmacSha1) (requester : StunRequester) (rands : Nat -> Nat) :
    Outcome (StunRequester × StunCall) :=
  let maxRetryNum := requester.maxRetryNum - 1
  if maxRetryNum ≤ 0 then .ok ({ requester with maxRetryNum }, .report (.stunFail .stunErrorTimeOut))
  else stunRequest inet hmac { requester with maxRetryNum, initRtt := requester.initRtt * 2 } rands

/-- `onTimer`; the timer has stopped when it is called. -/
def onTimer (inet : InetText) (hmac : HmacSha1) (requester : StunRequester) (rands : Nat -> Nat) :
    Outcome (StunRequester × StunCall) :=
  startRetransmit inet hmac { requester with client := { requester.client with retryTimer := false } } rands

def onRecvStunData (inet : InetText) (requester : StunRequester) (data : List UInt8) :
    Outcome (StunRequester × StunReport) := do
  let (client, report) ← requester.client.onRecvStunData inet data data.length
  return ({ requester with client }, report)

def setChangeRequest (requester : StunRequester) (changeValue : Int32) : StunRequester :=
  { requester with attributes := requester.attributes.insert changeRequest (toStringInt changeValue) }

def setUseCandidate (requester : StunRequester) : StunRequester :=
  { requester with attributes := requester.attributes.insert useCandidate [] }

def clearChangeRequest (requester : StunRequester) : StunRequester :=
  { requester with attributes := .empty }

/-- `stopStun` and `stopTimer`; libuv does not allow that a handle is closed twice. -/
def stopStun (requester : StunRequester) : Outcome StunRequester :=
  if requester.handle = .opened then
    .ok { requester with stop := true, handle := .closing, client := { requester.client with retryTimer := false } }
  else .fault

/-- `onStopTimer`, once the handle is closed. -/
def onStopTimer (requester : StunRequester) : StunRequester × Option StunReport :=
  ({ requester with handle := .closed },
    if requester.stop then some (.stunFail .stunErrorCancel)
    else if requester.maxRetryNum ≤ 0 then some (.stunFail .stunErrorTimeOut)
    else none)

end StunRequester

structure STUNServer where
  packet : StunMsgPacket
  password : List UInt8
  deriving DecidableEq, Repr

namespace STUNServer

/-- `STUNBase::onRecvStunData`. -/
def onRecvStunData (inet : InetText) (server : STUNServer) (data : List UInt8) : Outcome STUNServer := do
  let packet ← server.packet.decode inet data data.length
  return { server with packet }

/-- `buildBindResponse` into `msg`. -/
def buildBindResponse (inet : InetText) (hmac : HmacSha1) (server : STUNServer) (addr : IPAddr) :
    Outcome (List UInt8) := do
  let named : OrderedMap UInt16 (List UInt8) :=
    match server.packet.stunAttribute.find username with
    | some name => OrderedMap.empty.insert username name
    | none => .empty
  let stunMsg : StunMsgPacket := {
    stunMsgType := stunBindRespones
    stunMsgLenght := 0
    stunMagicCookie := 0x2112a442
    stunTranId := server.packet.stunTranId
    stunAttribute := named.insert xorMappedAddress addr.toStr }
  let (stunMsg, data) ← stunMsg.encode inet hmac 1024 server.password
  return data.take (stunMsg.stunMsgLenght.toNat + 20)

/-- `responseStun`: what it sends. -/
def responseStun (inet : InetText) (hmac : HmacSha1) (server : STUNServer) (addr : IPAddr) : Outcome (List UInt8) :=
  server.buildBindResponse inet hmac addr

end STUNServer

/-! ## Numbers as texts -/

/-- The number behind a sign. -/
theorem atoi_minus (rest : List UInt8) : atoi (0x2d :: rest) =
    if -2 ^ 31 ≤ -(digitsValue rest : Int) ∧ -(digitsValue rest : Int) < 2 ^ 31 then
      some (Int32.ofInt (-digitsValue rest))
    else none := rfl

theorem atoiOr_toStringInt (number : Int32) : atoiOr (toStringInt number) = .ok number := by
  have low := number.le_toInt
  have high := number.toInt_lt
  have digits : forall letter, letter ∈ decimal number.toInt.natAbs -> letter ≠ 0 := by
    rintro letter member rfl
    exact absurd (isDigit_of_mem_decimal member) (by decide)
  have given : Int32.ofInt number.toInt = number := Int32.ofInt_toInt number
  rw [toStringInt]
  split
  next negative =>
    have plain : 0 ∉ 0x2d :: decimal number.toInt.natAbs := by
      intro member
      rcases List.mem_cons.mp member with minus | digit
      · cases minus
      · exact digits 0 digit rfl
    have value : digitsValue (decimal number.toInt.natAbs ++ []) = number.toInt.natAbs := digitsValue_decimal _ nofun
    rw [List.append_nil] at value
    have back : -(number.toInt.natAbs : Int) = number.toInt := by omega
    rw [atoiOr, cStr_of_not_mem plain, atoi_minus, value, back, if_pos ⟨low, high⟩, given]
  next positive =>
    have plain : 0 ∉ decimal number.toInt.natAbs := fun member => digits 0 member rfl
    have small : number.toInt.natAbs < 2 ^ 31 := by omega
    have same : (number.toInt.natAbs : Int) = number.toInt := by omega
    rw [atoiOr, cStr_of_not_mem plain, atoi_decimal small, same, given]

/-! ## Requests -/

/-- These entries are encoded, into few bytes. -/
def Encodes (inet : InetText) (packet : StunMsgPacket) (entries : List (UInt16 × List UInt8)) (most : Nat) : Prop :=
  Exists fun bytes => packet.encodeAttributes inet entries = .ok bytes ∧ bytes.length ≤ most

section Encodes

variable {inet : InetText} {packet : StunMsgPacket}

theorem Encodes.single {entry : UInt16 × List UInt8} {bytes : List UInt8}
    (encoded : packet.encodeAttribute inet entry = .ok bytes) {most : Nat} (short : bytes.length ≤ most) :
    Encodes inet packet [entry] most := by
  refine ⟨bytes, ?_, short⟩
  rw [StunMsgPacket.encodeAttributes, encoded]
  exact congrArg Outcome.ok (List.append_nil bytes)

theorem Encodes.append {first second : List (UInt16 × List UInt8)} {most most' : Nat}
    (front : Encodes inet packet first most) (back : Encodes inet packet second most') :
    Encodes inet packet (first ++ second) (most + most') := by
  rcases front with ⟨bytes, encoded, short⟩
  rcases back with ⟨bytes', encoded', short'⟩
  refine ⟨bytes ++ bytes', ?_, ?_⟩
  · rw [BindResponse.encodeAttributes_append, encoded, Outcome.ok_bind_do, encoded']
    rfl
  · rw [List.length_append]
    exact Nat.add_le_add short short'

theorem Encodes.change (value : Int32) : Encodes inet packet [(changeRequest, toStringInt value)] 8 := by
  have encoded : packet.encodeAttribute inet (changeRequest, toStringInt value) =
      .ok (attributeHead changeRequest 4 ++ beBytes 4 value.toUInt32.toNat) := by
    rw [StunMsgPacket.encodeAttribute, if_neg (by decide), if_neg (by decide), if_neg (by decide), if_pos rfl,
      atoiOr_toStringInt]
    rfl
  exact .single encoded (Nat.le_refl 8)

theorem Encodes.candidate : Encodes inet packet [(useCandidate, [])] 4 :=
  @Encodes.single inet packet _ (attributeHead useCandidate 0) rfl 4 (Nat.le_refl 4)

theorem Encodes.priority : Encodes inet packet [(priority, ascii "1853824767")] 8 := by
  have value : atoiOr (ascii "1853824767") = .ok 1853824767 := by decide
  have encoded : packet.encodeAttribute inet (StunMessageAttribute.priority, ascii "1853824767") =
      .ok (attributeHead StunMessageAttribute.priority 4 ++ beBytes 4 (1853824767 : Int32).toUInt32.toNat) := by
    rw [StunMsgPacket.encodeAttribute, if_neg (by decide), if_neg (by decide), if_neg (by decide), if_neg (by decide),
      if_neg (by decide), if_pos rfl, value]
    rfl
  exact .single encoded (Nat.le_refl 8)

theorem Encodes.controlling : Encodes inet packet [(iceControlling, ascii "88888888888")] 12 := by
  have value : atollOr (ascii "88888888888") = .ok 88888888888 := by decide
  have encoded : packet.encodeAttribute inet (iceControlling, ascii "88888888888") =
      .ok (attributeHead iceControlling 8 ++ beBytes 8 (88888888888 : UInt64).toNat) := by
    rw [StunMsgPacket.encodeAttribute, if_neg (by decide), if_neg (by decide), if_neg (by decide), if_neg (by decide),
      if_pos rfl, value]
    rfl
  exact .single encoded (Nat.le_refl 12)

/-- A name of at most 936 bytes. -/
theorem Encodes.name {name : List UInt8} (short : name.length ≤ 936) :
    Encodes inet packet [(StunMessageAttribute.username, name)] 940 := by
  have encoded : packet.encodeAttribute inet (StunMessageAttribute.username, name) =
      .ok (encodeText StunMessageAttribute.username name) := rfl
  apply Encodes.single encoded
  have length : (UInt16.ofNat name.length).toNat = name.length := by
    rw [UInt16.toNat_ofNat', Nat.mod_eq_of_lt (by omega)]
  rw [encodeText, length, List.take_length, BindResponse.padding_length (by omega), List.length_append,
    List.length_append, List.length_replicate, attributeHead, List.length_append, beBytes_length, beBytes_length]
  omega

/-- Attributes that leave room for the trailers fill a message: its header, and
what stands behind it. -/
theorem encode_short (hmac : HmacSha1) (twelve : packet.stunTranId.length = 12)
    (encodes : Encodes inet packet packet.stunAttribute.entries 972) (password : List UInt8) :
    Exists fun sent : StunMsgPacket => Exists fun length => Exists fun body =>
      packet.encode inet hmac 1024 password = .ok (sent, packet.header length ++ body) ∧
        (packet.header length ++ body).length = sent.stunMsgLenght.toNat + 20 := by
  rcases encodes with ⟨attributes, encoded, few⟩
  rcases BindResponse.trailers_eq hmac packet password attributes with ⟨digest, crc32, trailers⟩
  have behind : (packet.trailers hmac password attributes).length = 32 := by
    rw [trailers, BindResponse.trailers_length]
  have header : (packet.header (attributes.length + 32)).length = 20 := by
    rw [StunMsgPacket.header]
    simp only [List.length_append, beBytes_length, twelve]
  have room : ¬ (1024 < attributes.length ∨ 1024 < 20 + (attributes.length + 32)) := by omega
  have lenght : (UInt16.ofNat (attributes.length + 32)).toNat = attributes.length + 32 := by
    rw [UInt16.toNat_ofNat', Nat.mod_eq_of_lt (by omega)]
  refine ⟨{ packet with stunAttribute := .empty, stunMsgLenght := UInt16.ofNat (attributes.length + 32) },
    attributes.length + 32, attributes ++ packet.trailers hmac password attributes, ?_, ?_⟩
  · rw [StunMsgPacket.encode, encoded, Outcome.ok_bind_do, if_neg room, ← List.append_assoc]
    rfl
  · rw [List.length_append, List.length_append, behind, header, lenght]
    exact Nat.add_comm _ _

end Encodes

namespace StunRequester

/-- The attributes that the calls for them have left: at most one of each kind. -/
def Configured (attributes : OrderedMap UInt16 (List UInt8)) : Prop :=
  Exists fun change : Option Int32 => Exists fun candidate : Bool =>
    attributes.entries = (change.map fun value => (changeRequest, toStringInt value)).toList ++
      (if candidate then [(useCandidate, [])] else [])

theorem configured_empty : Configured .empty := ⟨none, false, rfl⟩

section Configured

variable {requester : StunRequester} (configured : Configured requester.attributes)

include configured

theorem configured_change (value : Int32) : Configured (requester.setChangeRequest value).attributes := by
  rcases configured with ⟨change, candidate, entries⟩
  refine ⟨some (change.getD value), candidate, ?_⟩
  rw [setChangeRequest, OrderedMap.insert]
  dsimp only
  rw [entries]
  cases change <;> cases candidate <;> rfl

theorem configured_candidate : Configured requester.setUseCandidate.attributes := by
  rcases configured with ⟨change, candidate, entries⟩
  refine ⟨change, true, ?_⟩
  rw [setUseCandidate, OrderedMap.insert]
  dsimp only
  rw [entries]
  cases change <;> cases candidate <;> rfl

/-- The attributes of a request in the order of their types. -/
theorem requestAttributes_entries : Exists fun change : Option Int32 => Exists fun candidate : Bool =>
    requester.requestAttributes.entries = (change.map fun value => (changeRequest, toStringInt value)).toList ++
      ((if requester.username ≠ [] then [(StunMessageAttribute.username, requester.username)] else []) ++
        ([(priority, ascii "1853824767")] ++ ((if candidate then [(useCandidate, [])] else []) ++
          [(iceControlling, ascii "88888888888")]))) := by
  rcases configured with ⟨change, candidate, entries⟩
  refine ⟨change, candidate, ?_⟩
  rw [requestAttributes, entries]
  by_cases named : requester.username ≠ []
  · rw [if_pos named, if_pos named]
    cases change <;> cases candidate <;> rfl
  · rw [if_neg named, if_neg named]
    cases change <;> cases candidate <;> rfl

/-- The attributes fit into a message beside a name of at most 936 bytes. -/
theorem requestAttributes_encodes (inet : InetText) (packet : StunMsgPacket)
    (short : requester.username.length ≤ 936) :
    Encodes inet packet requester.requestAttributes.entries 972 := by
  rcases requestAttributes_entries configured with ⟨change, candidate, entries⟩
  have nothing (most : Nat) : Encodes inet packet [] most := ⟨[], rfl, Nat.zero_le most⟩
  have changes : Encodes inet packet (change.map fun value => (changeRequest, toStringInt value)).toList 8 := by
    cases change with
    | none => exact nothing 8
    | some value => exact .change value
  have names : Encodes inet packet
      (if requester.username ≠ [] then [(StunMessageAttribute.username, requester.username)] else []) 940 := by
    split
    · exact .name short
    · exact nothing 940
  have candidates : Encodes inet packet (if candidate then [(useCandidate, [])] else []) 4 := by
    split
    · exact .candidate
    · exact nothing 4
  rw [entries]
  exact changes.append (names.append (Encodes.priority.append (candidates.append .controlling)))

end Configured

theorem generalRandomStr_length (rands : Nat -> Nat) (len : Nat) : (generalRandomStr rands len).length = len := by
  rw [generalRandomStr, List.length_map, List.length_range]

/-- A client that has sent a request. -/
def asking (requester : StunRequester) (rands : Nat -> Nat) : StunRequester :=
  { requester with
    transportIdVec := requester.transportIdVec ++ [generalRandomStr rands 12]
    client := { requester.client with retryTimer := decide (requester.handle = .opened) }
    stop := false }

/-- A request on the wire. -/
def requestBytes (length : Nat) (tranId body : List UInt8) : List UInt8 :=
  beBytes 2 stunBindRequest.toNat ++ beBytes 2 length ++ beBytes 4 magicCookie.toNat ++ tranId ++ body

/-- A datagram that is a request with this transaction id. -/
def IsRequest (tranId data : List UInt8) : Prop :=
  tranId.length = 12 ∧ Exists fun length => Exists fun body => data = requestBytes length tranId body

section Build

variable (inet : InetText) (hmac : HmacSha1) {requester : StunRequester}
  (configured : Configured requester.attributes) (short : requester.username.length ≤ 936)

include configured short

theorem buildBindRequest_ok (rands : Nat -> Nat) : Exists fun data =>
    requester.buildBindRequest inet hmac rands =
      .ok ({ requester with transportIdVec := requester.transportIdVec ++ [generalRandomStr rands 12] }, data) ∧
    IsRequest (generalRandomStr rands 12) data := by
  have twelve := generalRandomStr_length rands 12
  rcases @encode_short inet
    { stunMsgType := stunBindRequest, stunMsgLenght := 0, stunMagicCookie := magicCookie,
      stunTranId := generalRandomStr rands 12, stunAttribute := requester.requestAttributes }
    hmac twelve (requestAttributes_encodes configured inet _ short) requester.password with
    ⟨sent, length, body, encoded, whole⟩
  refine ⟨requestBytes length (generalRandomStr rands 12) body, ?_, twelve, length, body, rfl⟩
  have all := @List.take_length _ (requestBytes length (generalRandomStr rands 12) body)
  rw [show (requestBytes length (generalRandomStr rands 12) body).length = _ from whole] at all
  rw [buildBindRequest]
  dsimp only
  rw [← magicCookie, encoded, Outcome.ok_bind_do]
  exact congrArg (fun data => Outcome.ok (_, data)) all

/-- A request goes out, and the timer runs unless its handle closes. -/
theorem stunRequest_ok (rands : Nat -> Nat) : Exists fun data =>
    requester.stunRequest inet hmac rands = .ok (requester.asking rands, .sendData data) ∧
    IsRequest (generalRandomStr rands 12) data := by
  rcases buildBindRequest_ok inet hmac configured short rands with ⟨data, built, request⟩
  refine ⟨data, ?_, request⟩
  rw [stunRequest, built]
  rfl

end Build

end StunRequester

/-! ## Answers -/

/-- A packet that has decoded nothing but requests: its cookie is none or the
one of STUN, and it has no attributes. -/
structure StunMsgPacket.Plain (packet : StunMsgPacket) : Prop where
  cookie : packet.stunMagicCookie ||| magicCookie = magicCookie
  unnamed : packet.stunAttribute = .empty

theorem StunMsgPacket.plain_new (tranId : List UInt8) : (StunMsgPacket.new tranId).Plain where
  cookie := UInt32.zero_or
  unnamed := rfl

/-- Of a request only the header is read. -/
theorem decode_request (inet : InetText) {packet : StunMsgPacket} (plain : packet.Plain) {tranId data : List UInt8}
    (request : StunRequester.IsRequest tranId data) : Exists fun received =>
      packet.decode inet data data.length = .ok received ∧ received.Plain ∧ received.stunTranId = tranId := by
  rcases request with ⟨twelve, length, body, rfl⟩
  have bytes : StunRequester.requestBytes length tranId body =
      0x00 :: 0x01 :: UInt8.ofNat (length / 256 ^ 1) :: UInt8.ofNat (length / 256 ^ 0) ::
        0x21 :: 0x12 :: 0xa4 :: 0x42 :: (tranId ++ body) := by
    rw [StunRequester.requestBytes, List.append_assoc, List.append_assoc, List.append_assoc]
    rfl
  have id : Outcome.slice (StunRequester.requestBytes length tranId body) 8 12 = .ok tranId := by
    have middle := Outcome.slice_middle
      (beBytes 2 stunBindRequest.toNat ++ beBytes 2 length ++ beBytes 4 magicCookie.toNat) tranId body
    rw [twelve, ← List.append_assoc] at middle
    exact middle
  have long : ¬ ((StunRequester.requestBytes length tranId body).length : Int) < 20 := by
    have size := congrArg List.length bytes
    simp only [List.length_cons, List.length_append, twelve] at size
    omega
  have type : readShort (StunRequester.requestBytes length tranId body) 0 = .ok stunBindRequest := by
    rw [bytes]
    exact congrArg Outcome.ok (by decide)
  refine ⟨{ packet with
    stunMsgType := stunBindRequest
    stunMsgLenght := signedShort (UInt8.ofNat (length / 256 ^ 1)) (UInt8.ofNat (length / 256 ^ 0))
    stunMagicCookie := packet.stunMagicCookie ||| joined 0x21 0x12 0xa4 0x42
    stunTranId := tranId }, ?_, ⟨?_, plain.unnamed⟩, rfl⟩
  · rw [StunMsgPacket.decode, if_neg long, type, Outcome.ok_bind_do, id]
    rw [bytes]
    rfl
  · have cookie : joined 0x21 0x12 0xa4 0x42 = magicCookie := by decide
    show packet.stunMagicCookie ||| joined 0x21 0x12 0xa4 0x42 ||| magicCookie = magicCookie
    rw [cookie, plain.cookie, UInt32.or_self]

/-- What a server answers a request with, that it sees coming from there. -/
def answer (tranId : { bytes : List UInt8 // bytes.length = 12 }) (endpoint : Endpoint) : BindResponse where
  tranId := tranId
  name := none
  xorMapped := some endpoint
  mapped := none

/-- The address of a datagram's sender. -/
def Endpoint.toAddr (inet : InetText) (endpoint : Endpoint) : IPAddr where
  ip := inet.inetNtoa endpoint.addr
  port := endpoint.port

theorem responseStun_eq (inet : InetText) (hmac : HmacSha1) {server : STUNServer} (plain : server.packet.Plain)
    (twelve : server.packet.stunTranId.length = 12) (endpoint : Endpoint) :
    Exists fun digest => Exists fun crc32 => server.responseStun inet hmac (endpoint.toAddr inet) =
      .ok ((answer ⟨server.packet.stunTranId, twelve⟩ endpoint).message digest crc32) := by
  let response := answer ⟨server.packet.stunTranId, twelve⟩ endpoint
  rcases response.encode_eq inet hmac 0 (Nat.le_refl 1024) server.password with ⟨digest, crc32, encoded⟩
  refine ⟨digest, crc32, ?_⟩
  have unnamed : server.packet.stunAttribute.find username = none := by
    rw [plain.unnamed]
    rfl
  have size : (response.message digest crc32).length = (UInt16.ofNat
      ((response.tlvs.flatMap StunTlv.wire).length + 32)).toNat + 20 := by
    rcases StunMsgPacket.responseBytes_split ((response.tlvs.flatMap StunTlv.wire).length + 32) magicCookie
      response.tranId.property with ⟨header, twenty, split⟩
    rw [response.sent_length, BindResponse.message, split, List.length_append, twenty, response.body_length,
      Nat.add_comm]
  have all := @List.take_length _ (response.message digest crc32)
  rw [size] at all
  rw [STUNServer.responseStun, STUNServer.buildBindResponse, unnamed]
  dsimp only
  have same : StunMsgPacket.mk stunBindRespones 0 0x2112a442 server.packet.stunTranId
      (OrderedMap.empty.insert xorMappedAddress (endpoint.toAddr inet).toStr) = response.packet inet 0 := rfl
  rw [same, encoded, Outcome.ok_bind_do]
  exact congrArg Outcome.ok all

/-- An answer on the wire. -/
def IsAnswer (endpoint : Endpoint) (data : List UInt8) : Prop :=
  Exists fun tranId => Exists fun digest => Exists fun crc32 => data = (answer tranId endpoint).message digest crc32

theorem messageIntegrity_noAddress (kind : AddressKind) : messageIntegrity ≠ kind.type := by cases kind <;> decide

theorem fingerprint_noAddress (kind : AddressKind) : fingerprint ≠ kind.type := by cases kind <;> decide

section Answer

variable (tranId : { bytes : List UInt8 // bytes.length = 12 }) (endpoint : Endpoint)
  (digest : { digest : List UInt8 // digest.length = 20 }) (crc32 : UInt32)

/-- The attributes of an answer. -/
def answerItems : List StunItem :=
  [.address .xorMapped 0 endpoint, .plain (BindResponse.integrityTlv digest) messageIntegrity_noAddress,
    .plain (BindResponse.fingerprintTlv crc32) fingerprint_noAddress]

theorem answerItems_wire : ((answerItems endpoint digest crc32).flatMap fun item => item.tlv.wire) =
    (answer tranId endpoint).body digest crc32 := by
  have tlvs : (answer tranId endpoint).tlvs = [BindResponse.xorMappedTlv endpoint] := rfl
  rw [BindResponse.body, tlvs, ← List.flatMap_append]
  rfl

theorem answer_tlvs_length (tranId : { bytes : List UInt8 // bytes.length = 12 }) :
    ((answer tranId endpoint).tlvs.flatMap StunTlv.wire).length = 12 := by
  have tlvs : (answer tranId endpoint).tlvs = [BindResponse.xorMappedTlv endpoint] := rfl
  rw [tlvs, List.flatMap_singleton, StunTlv.wire_length, BindResponse.xorMappedTlv_length]
  rfl

theorem answerItems_length : ((answerItems endpoint digest crc32).flatMap fun item => item.tlv.wire).length = 44 := by
  have twelve : (List.replicate 12 0 : List UInt8).length = 12 := rfl
  rw [answerItems_wire ⟨List.replicate 12 0, twelve⟩, BindResponse.body_length, answer_tlvs_length]

/-- The answer as a response with its attributes. -/
def answerResponse : ServerResponse where
  tranId := tranId
  items := answerItems endpoint digest crc32
  fits := by
    rw [answerItems_length]
    decide
  addressed := .inl nofun

theorem answerResponse_datagram :
    (answerResponse tranId endpoint digest crc32).datagram = (answer tranId endpoint).message digest crc32 := by
  have body : (answerResponse tranId endpoint digest crc32).body = (answer tranId endpoint).body digest crc32 :=
    answerItems_wire tranId endpoint digest crc32
  rw [ServerResponse.datagram, body, BindResponse.message, BindResponse.body_length]
  rfl

theorem answerResponse_legible : (answerResponse tranId endpoint digest crc32).Legible := by
  intro item member
  rcases List.mem_cons.mp member with rfl | member
  · exact BindResponse.xorMappedTlv_legible endpoint
  · apply BindResponse.trailers_legible digest crc32
    rcases List.mem_cons.mp member with rfl | member
    · exact List.mem_cons_self
    · rw [List.mem_singleton.mp member]
      exact List.mem_cons_of_mem _ List.mem_cons_self

end Answer

/-- What a client makes of an answer: the address that it found first. -/
theorem onRecvStunData_answer (inet : InetText) {client : STUNClient} {found : Option Endpoint}
    (knows : client.packet.Knows inet found none) {endpoint : Endpoint} {data : List UInt8}
    (answered : IsAnswer endpoint data) : Exists fun next => Exists fun report =>
      client.onRecvStunData inet data data.length = .ok (next, report) ∧
        next.packet.Knows inet (some (found.getD endpoint)) none ∧
        report.Names inet (found.getD endpoint) ∧ next.retryTimer = false := by
  rcases answered with ⟨tranId, digest, crc32, rfl⟩
  have first : (answerResponse tranId endpoint digest crc32).first .xorMapped = some endpoint := rfl
  have mapped : (answerResponse tranId endpoint digest crc32).first .mapped = none := rfl
  have known : found.or ((answerResponse tranId endpoint digest crc32).first .xorMapped) =
      some (found.getD endpoint) := by
    rw [first]
    cases found <;> rfl
  rcases STUNClient.onRecvStunData_known knows (answerResponse_legible tranId endpoint digest crc32) known with
    ⟨next, report, returns, knows', names⟩
  rw [mapped] at knows'
  rw [answerResponse_datagram] at returns
  refine ⟨next, report, returns, knows', names, ?_⟩
  rw [STUNClient.onRecvStunData] at returns
  rcases Outcome.bind_eq_ok returns with ⟨packet, decoded, rest⟩
  split at rest
  · cases rest
    rcases names with ⟨changeAddr, same⟩
    cases same
  · simp only [ite_self] at rest
    rcases Outcome.bind_eq_ok rest with ⟨value, -, rest⟩
    rcases Outcome.bind_eq_ok rest with ⟨sockaddr, -, rest⟩
    rcases Outcome.bind_eq_ok rest with ⟨changeAddr, -, rest⟩
    cases rest
    rfl

end Net
end RtmpClient
