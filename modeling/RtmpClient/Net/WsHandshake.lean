import RtmpClient.Library.CppString

namespace RtmpClient
namespace Net

open Library

/-!
# The WebSocket handshake (`app_protocol/wsProtocol.cc`)

What the server reads of a request and the client of a response.  A `substr`
behind the end of its string throws, which is `none`.
-/

/-- The members of `WebSocketProtocolBase`.  The constructor sets only the last
of them. -/
structure WebSocketProtocolBase where
  method : Int32
  path : List UInt8
  protocolVer : List UInt8
  connection : List UInt8
  host : List UInt8
  origin : List UInt8
  extensions : List UInt8
  key : List UInt8
  version : List UInt8
  upgrade : List UInt8
  accept : List UInt8
  bIsConnect : Bool
  deriving DecidableEq, Repr

abbrev WebSocketProtocolServer := WebSocketProtocolBase

structure WebSocketProtocolClient extends WebSocketProtocolBase where
  userAgent : List UInt8
  code : List UInt8
  protocol : List UInt8
  deriving DecidableEq, Repr

/-- `':'`. -/
def fieldColon : UInt8 := 0x3a

/-- How both attribute parsers cut a line: the space behind the colon is jumped
over and the last byte dropped.  `substr(0, npos)` of an empty value is the
value. -/
def cutAttribute (line : List UInt8) : Option (List UInt8 × List UInt8) :=
  match findFirstOf line fieldColon with
  | some pos => do
      let value ← substrFrom line (pos + 2)
      return (substrTo line (some pos),
        substrTo value (if value.length = 0 then none else some (value.length - 1)))
  | none => some ([], [])

/-- What `getline` and a line parser make of a text. -/
def parseLines {σ : Type} (parseLine : σ -> List UInt8 -> Option (σ × Int)) (start : σ) (text : List UInt8) :
    Option σ :=
  (linesFrom [] text).foldlM (fun state line => (parseLine state line).map Prod.fst) start

namespace WebSocketProtocolServer

/-- The `switch` of `parse_line`; `none` where it returns -1. -/
def requestWord (server : WebSocketProtocolServer) (i : Nat) (tmp : List UInt8) : Option WebSocketProtocolServer :=
  match i with
  | 0 =>
      if tmp = ascii "GET" then some { server with method := 0 }
      else if tmp = ascii "POST" then some { server with method := 1 }
      else none
  | 1 => some { server with path := tmp }
  | 2 => some { server with protocolVer := tmp }
  | _ => some server

def requestWords (server : WebSocketProtocolServer) : (i : Nat) -> (words : List (List UInt8)) ->
    WebSocketProtocolServer × Int
  | _, [] => (server, 0)
  | i, tmp :: words =>
      match requestWord server i tmp with
      | some next => requestWords next (i + 1) words
      | none => (server, -1)

def parseAttribute (server : WebSocketProtocolServer) (line : List UInt8) : Option (WebSocketProtocolServer × Int) := do
  let (name, value) ← cutAttribute line
  let server :=
    if name = ascii "Connection" then { server with connection := value }
    else if name = ascii "Host" then { server with host := value }
    else if name = ascii "Origin" then { server with origin := value }
    else if name = ascii "Sec-WebSocket-Extensions" then { server with extensions := value }
    else if name = ascii "Sec-WebSocket-Key" then { server with key := value }
    else if name = ascii "Sec-WebSocket-Version" then { server with version := value }
    else if name = ascii "Upgrade" then { server with upgrade := value }
    else server
  return (server, 0)

def parseLine (server : WebSocketProtocolServer) (line : List UInt8) : Option (WebSocketProtocolServer × Int) :=
  if findFirstOf line fieldColon = none then some (server.requestWords 0 (wordsFrom [] line))
  else do
    let (server, _) ← server.parseAttribute line
    return (server, 0)

/-- `doHandShake`.  `shacalc` takes a C string, and leaves one in `p`. -/
def doHandShake (shacalc : List UInt8 -> List UInt8) (server : WebSocketProtocolServer)
    (handshakedata : List UInt8) : Option (WebSocketProtocolServer × Int) :=
  if (findPiece (ascii "\r\n\r\n") handshakedata).isSome then do
    let server ← parseLines parseLine server handshakedata
    if server.upgrade ≠ ascii "websocket" ∨ server.connection ≠ ascii "Upgrade" ∨ server.version ≠ ascii "13" ∨
        server.key = [] then
      return (server, -1)
    let tmp := server.key ++ ascii "258EAFA5-E914-47DA-95CA-C5AB0DC85B11"
    return ({ server with accept := server.accept ++ shacalc (cStr tmp) }, 0)
  else some (server, -1)

end WebSocketProtocolServer

namespace WebSocketProtocolClient

/-- The `switch` of `parse_line`. -/
def responseWords (client : WebSocketProtocolClient) : (i : Nat) -> (words : List (List UInt8)) ->
    WebSocketProtocolClient
  | _, [] => client
  | 1, tmp :: words => responseWords { client with code := tmp } 2 words
  | i, _ :: words => responseWords client (i + 1) words

def parseAttribute (client : WebSocketProtocolClient) (line : List UInt8) : Option (WebSocketProtocolClient × Int) := do
  let (name, value) ← cutAttribute line
  let client :=
    if name = ascii "Connection" then { client with connection := value }
    else if name = ascii "Sec-WebSocket-Accept" then { client with accept := value }
    else if name = ascii "Upgrade" then { client with upgrade := value }
    else client
  return (client, 0)

def parseLine (client : WebSocketProtocolClient) (line : List UInt8) : Option (WebSocketProtocolClient × Int) :=
  if findFirstOf line fieldColon = none then some (client.responseWords 0 (wordsFrom [] line), 0)
  else do
    let (client, _) ← client.parseAttribute line
    return (client, 0)

def doResponse (client : WebSocketProtocolClient) (responsedata : List UInt8) :
    Option (WebSocketProtocolClient × Int) :=
  if (findPiece (ascii "\r\n\r\n") responsedata).isSome then do
    let client ← parseLines parseLine client responsedata
    if ¬ sameNoCase client.upgrade (ascii "websocket") ∨ client.code ≠ ascii "101" ∨ client.accept = [] then
      return (client, -1)
    return ({ client with bIsConnect := true }, 0)
  else some (client, -1)

end WebSocketProtocolClient

/-! ## Where a line throws -/

/-- The only colon of the line is its last byte. -/
def EndsInColon (line : List UInt8) : Prop := Exists fun name => fieldColon ∉ name ∧ line = name ++ [fieldColon]

/-- The text is not complete, or has no such line. -/
def Harmless (text : List UInt8) : Prop :=
  findPiece (ascii "\r\n\r\n") text = none ∨ forall line, line ∈ linesFrom [] text -> ¬ EndsInColon line

theorem cutAttribute_eq_none {line : List UInt8} : cutAttribute line = none ↔ EndsInColon line := by
  constructor
  · intro throws
    rw [cutAttribute] at throws
    cases found : findFirstOf line fieldColon with
    | none =>
        rw [found] at throws
        cases throws
    | some pos =>
        rcases findFirstOf_split found with ⟨name, rest, absent, split, length⟩
        rw [found] at throws
        subst split length
        refine ⟨name, absent, ?_⟩
        by_cases behind : rest = []
        · rw [behind]
        · have inside : name.length + 2 ≤ (name ++ fieldColon :: rest).length := by
            have some := List.length_pos_iff.mpr behind
            rw [List.length_append, List.length_cons]
            omega
          dsimp only at throws
          rw [substrFrom, if_pos inside] at throws
          cases throws
  · rintro ⟨name, absent, rfl⟩
    have beyond : ¬ name.length + 2 ≤ (name ++ [fieldColon]).length := by
      rw [List.length_append, List.length_singleton]
      omega
    rw [cutAttribute, findFirstOf_append absent]
    dsimp only
    rw [substrFrom, if_neg beyond]
    rfl

/-- A line that ends in a colon has one. -/
theorem EndsInColon.found {line : List UInt8} (ends : EndsInColon line) : findFirstOf line fieldColon ≠ none := by
  rcases ends with ⟨name, absent, rfl⟩
  rw [findFirstOf_append absent]
  exact Option.some_ne_none _

/-- The call returns 0 or -1. -/
def ReturnsStatus {σ : Type} (call : Option (σ × Int)) : Prop :=
  Exists fun state => call = some (state, 0) ∨ call = some (state, -1)

section Lines

variable {σ : Type} {parseLine : σ -> List UInt8 -> Option (σ × Int)}
  (throws : forall state line, parseLine state line = none ↔ EndsInColon line)

include throws

/-- The text is parsed unless it has a line that throws. -/
theorem parseLines_isSome (start : σ) (text : List UInt8) :
    (parseLines parseLine start text).isSome ↔ forall line, line ∈ linesFrom [] text -> ¬ EndsInColon line := by
  rw [parseLines]
  induction linesFrom [] text generalizing start with
  | nil => exact ⟨fun _ => nofun, fun _ => rfl⟩
  | cons line lines inductionHypothesis =>
      rw [List.foldlM_cons, List.forall_mem_cons]
      cases parsed : parseLine start line with
      | none =>
          have ends := (throws start line).mp parsed
          exact ⟨nofun, fun all => absurd ends all.1⟩
      | some result =>
          have goesOn : ¬ EndsInColon line := by
            intro ends
            rw [(throws start line).mpr ends] at parsed
            cases parsed
          rw [Option.map_some, Option.bind_eq_bind, Option.bind_some, inductionHypothesis]
          exact ⟨fun later => ⟨goesOn, later⟩, And.right⟩

/-- A handshake that parses the lines of a complete text, and then decides. -/
theorem handshake_returns (start : σ) (text : List UInt8) {decision : σ -> Option (σ × Int)}
    (decides : forall state, ReturnsStatus (decision state)) :
    ReturnsStatus (if (findPiece (ascii "\r\n\r\n") text).isSome then parseLines parseLine start text >>= decision
      else some (start, -1)) ↔ Harmless text := by
  rw [Harmless, ← parseLines_isSome throws start text]
  by_cases complete : (findPiece (ascii "\r\n\r\n") text).isSome
  · have found : findPiece (ascii "\r\n\r\n") text ≠ none := Option.isSome_iff_ne_none.mp complete
    rw [if_pos complete]
    cases parseLines parseLine start text with
    | none =>
        constructor
        · rintro ⟨state, status | status⟩
          · cases status
          · cases status
        · rintro (absent | parsed)
          · exact absurd absent found
          · cases parsed
    | some state => exact ⟨fun _ => .inr rfl, fun _ => decides state⟩
  · rw [if_neg complete]
    exact ⟨fun _ => .inl (Option.not_isSome_iff_eq_none.mp complete), fun _ => ⟨start, .inr rfl⟩⟩

end Lines

/-- What is done with a line throws where its attribute cannot be cut. -/
theorem line_eq_none {σ : Type} {line : List UInt8} (words : σ) {named : Option σ}
    (cut : named = none ↔ cutAttribute line = none) :
    (if findFirstOf line fieldColon = none then some words else named) = none ↔ EndsInColon line := by
  by_cases plain : findFirstOf line fieldColon = none
  · rw [if_pos plain]
    exact ⟨nofun, fun ends => absurd plain ends.found⟩
  · rw [if_neg plain, cut, cutAttribute_eq_none]

theorem WebSocketProtocolServer.parseLine_eq_none (server : WebSocketProtocolServer) (line : List UInt8) :
    server.parseLine line = none ↔ EndsInColon line := by
  rw [parseLine, parseAttribute]
  apply line_eq_none
  cases cutAttribute line with
  | none => exact ⟨fun _ => rfl, fun _ => rfl⟩
  | some parts => exact ⟨nofun, nofun⟩

theorem WebSocketProtocolClient.parseLine_eq_none (client : WebSocketProtocolClient) (line : List UInt8) :
    client.parseLine line = none ↔ EndsInColon line := by
  rw [parseLine, parseAttribute]
  apply line_eq_none
  cases cutAttribute line with
  | none => exact ⟨fun _ => rfl, fun _ => rfl⟩
  | some parts => exact ⟨nofun, nofun⟩

theorem WebSocketProtocolServer.doHandShake_returns (shacalc : List UInt8 -> List UInt8)
    (server : WebSocketProtocolServer) (text : List UInt8) :
    ReturnsStatus (doHandShake shacalc server text) ↔ Harmless text := by
  apply handshake_returns parseLine_eq_none
  intro state
  split
  · exact ⟨state, .inr rfl⟩
  · exact ⟨_, .inl rfl⟩

theorem WebSocketProtocolClient.doResponse_returns (client : WebSocketProtocolClient) (text : List UInt8) :
    ReturnsStatus (client.doResponse text) ↔ Harmless text := by
  apply handshake_returns parseLine_eq_none
  intro state
  split
  · exact ⟨state, .inr rfl⟩
  · exact ⟨_, .inl rfl⟩

/-- Both calls return on exactly the texts without a line that ends in its
first colon, or without the end of a header. -/
theorem handshakes_return_iff (shacalc : List UInt8 -> List UInt8) (server : WebSocketProtocolServer)
    (client : WebSocketProtocolClient) (text : List UInt8) :
    (ReturnsStatus (server.doHandShake shacalc text) ↔ Harmless text) ∧
      (ReturnsStatus (client.doResponse text) ↔ Harmless text) :=
  ⟨server.doHandShake_returns shacalc text, client.doResponse_returns text⟩

/-- Members that nothing has been read into. -/
def blank : WebSocketProtocolBase where
  method := 0
  path := []
  protocolVer := []
  connection := []
  host := []
  origin := []
  extensions := []
  key := []
  version := []
  upgrade := []
  accept := []
  bIsConnect := false

/-- `"Host:"` without a `'\r'` behind it. -/
def bareField : List UInt8 := ascii "GET / HTTP/1.1\r\nHost:\n\r\n\r\n"

theorem bareField_throws : ¬ forall (shacalc : List UInt8 -> List UInt8) (server : WebSocketProtocolServer)
    (client : WebSocketProtocolClient) (text : List UInt8),
      ReturnsStatus (server.doHandShake shacalc text) ∧ ReturnsStatus (client.doResponse text) := by
  intro all
  have throws : WebSocketProtocolServer.doHandShake (fun _ => []) blank bareField = none := by decide +kernel
  rcases (all (fun _ => []) blank ⟨blank, [], [], []⟩ bareField).1 with ⟨state, status | status⟩
  · rw [throws] at status
    cases status
  · rw [throws] at status
    cases status

end Net
end RtmpClient
