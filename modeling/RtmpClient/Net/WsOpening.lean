import RtmpClient.Library.TextLines
import RtmpClient.Net.Sha1
import RtmpClient.Net.WsHandshake

namespace RtmpClient
namespace Net

open Library

/-!
# Opening a WebSocket (`app_protocol/wsProtocol.cc`)

The texts that client and server send, and what becomes of both when each reads
the text of the other.  What `rand` returns and the date are given from outside.
-/

/-- `CRLF`. -/
def crlf : List UInt8 := ascii "\r\n"

/-- `generateRandom`, from what `rand` returns. -/
def generateRandom (rands : List Nat) : List UInt8 :=
  let charset := ascii "0123456789abcdefghijklmnopqrstuvwxyzABCDEFGHIJKLMNOPQRSTUVWXYZ+-*/="
  rands.map fun value => charset.getD (value % charset.length) 0

namespace WebSocketProtocolClient

/-- `initParam`, with the values of `rand` for the key. -/
def initParam (client : WebSocketProtocolClient) (rands : List Nat) (method : Int32)
    (path host extensions : List UInt8) : WebSocketProtocolClient :=
  { client with
    method
    path
    protocolVer := ascii "HTTP/1.1"
    host
    connection := ascii "Upgrade"
    userAgent := ascii "Linux Client"
    protocol := ascii "janus-protocol"
    upgrade := ascii "websocket"
    origin := ascii "libuv_ws (HeJingsheng)"
    version := ascii "13"
    extensions
    key := generateRandom rands }

/-- `doHandShake`: the request. -/
def doHandShake (client : WebSocketProtocolClient) : List UInt8 :=
  let m := if client.method = 0 then ascii "GET" else ascii "POST"
  [m, ascii " ", client.path, ascii " ", client.protocolVer, crlf,
    ascii "Host: ", client.host, crlf,
    ascii "Connection: ", client.connection, crlf,
    ascii "User-Agent: ", client.userAgent, crlf,
    ascii "Upgrade: ", client.upgrade, crlf,
    ascii "Origin: ", client.origin, crlf,
    ascii "Sec-WebSocket-Version: ", client.version, crlf,
    ascii "Sec-WebSocket-Protocol: ", client.protocol, crlf,
    ascii "Sec-WebSocket-Key: ", client.key, crlf,
    ascii "Sec-WebSocket-Extensions: ", client.extensions, crlf,
    crlf].flatten

end WebSocketProtocolClient

namespace WebSocketProtocolServer

/-- `doResponse`: the response, and that the server is connected. -/
def doResponse (server : WebSocketProtocolServer) (date : List UInt8) : WebSocketProtocolServer × List UInt8 :=
  ({ server with bIsConnect := true },
    [server.protocolVer, ascii " 101 Switching Protocols", crlf,
      ascii "Connection: ", server.connection, crlf,
      ascii "Server: ", ascii "WebSocket Server(HeJingsheng)", crlf,
      ascii "Date: ", date, crlf,
      ascii "Upgrade: ", server.upgrade, crlf,
      ascii "Sec-WebSocket-Accept: ", server.accept, crlf,
      crlf].flatten)

end WebSocketProtocolServer

/-! ## Header lines -/

/-- A line `name: value`, up to the end that `getline` drops. -/
def headerLine (name value : List UInt8) : List UInt8 := name ++ fieldColon :: 32 :: (value ++ [13])

theorem cutAttribute_header {name : List UInt8} (plain : fieldColon ∉ name) (value : List UInt8) :
    cutAttribute (headerLine name value) = some (name, value) := by
  have rest : (headerLine name value).drop (name.length + 2) = value ++ [13] := by
    rw [headerLine, List.drop_length_add_append]
    rfl
  have inside : name.length + 2 ≤ (headerLine name value).length := by
    rw [headerLine, List.length_append, List.length_cons, List.length_cons]
    omega
  have some : (value ++ [13]).length ≠ 0 := by
    rw [List.length_append, List.length_singleton]
    exact Nat.succ_ne_zero _
  have last : (value ++ [13]).length - 1 = value.length := by
    rw [List.length_append, List.length_singleton, Nat.add_sub_cancel]
  rw [cutAttribute, headerLine, findFirstOf_append plain, ← headerLine]
  simp only [substrFrom, if_pos inside, rest, Option.bind_eq_bind, Option.bind_some, if_neg some, last, substrTo,
    List.take_left]
  rw [headerLine, List.take_left]
  rfl

/-- A header whose name and value have no line end. -/
theorem header_whole {name value : List UInt8} (plain : fieldColon ∉ name ∧ 10 ∉ name) (whole : 10 ∉ value) :
    fieldColon ∉ name ∧ 10 ∉ headerLine name value := by
  refine ⟨plain.1, ?_⟩
  simp only [headerLine, List.mem_append, List.mem_cons, not_or]
  exact ⟨plain.2, by decide, by decide, whole, by decide, List.not_mem_nil⟩

theorem header_found {name : List UInt8} (plain : fieldColon ∉ name) (value : List UInt8) :
    findFirstOf (headerLine name value) fieldColon ≠ none := by
  rw [headerLine, findFirstOf_append plain]
  exact Option.some_ne_none _

/-- Headers that `assign` says the effect of, one line after the other. -/
theorem parse_headers {σ : Type} {parseLine : σ -> List UInt8 -> Option (σ × Int)}
    {assign : σ -> List UInt8 × List UInt8 -> σ}
    (reads : forall state name value, fieldColon ∉ name ->
      parseLine state (headerLine name value) = some (assign state (name, value), 0))
    (headers : List (List UInt8 × List UInt8)) (plain : forall header, header ∈ headers -> fieldColon ∉ header.1)
    (start : σ) :
    (headers.map fun header => headerLine header.1 header.2).foldlM
        (fun state line => (parseLine state line).map Prod.fst) start = some (headers.foldl assign start) := by
  induction headers generalizing start with
  | nil => rfl
  | cons header headers inductionHypothesis =>
      rw [List.forall_mem_cons] at plain
      rw [List.map_cons, List.foldlM_cons, reads start header.1 header.2 plain.1, Option.map_some, List.foldl_cons]
      exact inductionHypothesis plain.2 _

namespace WebSocketProtocolServer

/-- What a header is read into. -/
def assign (server : WebSocketProtocolServer) (header : List UInt8 × List UInt8) : WebSocketProtocolServer :=
  if header.1 = ascii "Connection" then { server with connection := header.2 }
  else if header.1 = ascii "Host" then { server with host := header.2 }
  else if header.1 = ascii "Origin" then { server with origin := header.2 }
  else if header.1 = ascii "Sec-WebSocket-Extensions" then { server with extensions := header.2 }
  else if header.1 = ascii "Sec-WebSocket-Key" then { server with key := header.2 }
  else if header.1 = ascii "Sec-WebSocket-Version" then { server with version := header.2 }
  else if header.1 = ascii "Upgrade" then { server with upgrade := header.2 }
  else server

theorem parseLine_header (server : WebSocketProtocolServer) (name value : List UInt8) (plain : fieldColon ∉ name) :
    server.parseLine (headerLine name value) = some (server.assign (name, value), 0) := by
  rw [parseLine, if_neg (header_found plain value), parseAttribute, cutAttribute_header plain]
  rfl

end WebSocketProtocolServer

namespace WebSocketProtocolClient

/-- What a header is read into. -/
def assign (client : WebSocketProtocolClient) (header : List UInt8 × List UInt8) : WebSocketProtocolClient :=
  if header.1 = ascii "Connection" then { client with connection := header.2 }
  else if header.1 = ascii "Sec-WebSocket-Accept" then { client with accept := header.2 }
  else if header.1 = ascii "Upgrade" then { client with upgrade := header.2 }
  else client

theorem parseLine_header (client : WebSocketProtocolClient) (name value : List UInt8) (plain : fieldColon ∉ name) :
    client.parseLine (headerLine name value) = some (client.assign (name, value), 0) := by
  rw [parseLine, if_neg (header_found plain value), parseAttribute, cutAttribute_header plain]
  rfl

end WebSocketProtocolClient

/-! ## What the texts are made of -/

/-- A text of a first line and headers. -/
def message (first : List UInt8) (headers : List (List UInt8 × List UInt8)) : List UInt8 :=
  unlines ((first ++ [13]) :: (headers.map fun header => headerLine header.1 header.2) ++ [[13]])

/-- The headers of the request. -/
def WebSocketProtocolClient.headers (client : WebSocketProtocolClient) : List (List UInt8 × List UInt8) :=
  [(ascii "Host", client.host), (ascii "Connection", client.connection), (ascii "User-Agent", client.userAgent),
    (ascii "Upgrade", client.upgrade), (ascii "Origin", client.origin), (ascii "Sec-WebSocket-Version", client.version),
    (ascii "Sec-WebSocket-Protocol", client.protocol), (ascii "Sec-WebSocket-Key", client.key),
    (ascii "Sec-WebSocket-Extensions", client.extensions)]

/-- The headers of the response. -/
def WebSocketProtocolServer.headers (server : WebSocketProtocolServer) (date : List UInt8) :
    List (List UInt8 × List UInt8) :=
  [(ascii "Connection", server.connection), (ascii "Server", ascii "WebSocket Server(HeJingsheng)"),
    (ascii "Date", date), (ascii "Upgrade", server.upgrade), (ascii "Sec-WebSocket-Accept", server.accept)]

/-- The words of the first line of the request. -/
def WebSocketProtocolClient.requestLine (client : WebSocketProtocolClient) : List UInt8 :=
  (if client.method = 0 then ascii "GET" else ascii "POST") ++ 32 :: (client.path ++ 32 :: client.protocolVer)

/-- A header that is sent piece by piece. -/
theorem flatten_header {label : List UInt8} (name : List UInt8) (split : label = name ++ [fieldColon, 32])
    (value : List UInt8) (pieces : List (List UInt8)) :
    (label :: value :: crlf :: pieces).flatten = headerLine name value ++ ([10] ++ pieces.flatten) := by
  have ending : crlf = [13] ++ [10] := by decide
  simp only [List.flatten_cons, split, ending, headerLine, List.append_assoc, List.cons_append, List.nil_append]

theorem message_cons (first : List UInt8) (headers : List (List UInt8 × List UInt8)) : message first headers =
    first ++ (crlf ++ unlines ((headers.map fun header => headerLine header.1 header.2) ++ [[13]])) := by
  have ending : crlf = [13] ++ [10] := by decide
  rw [message, List.cons_append, unlines, List.flatMap_cons, ending, List.append_assoc, List.append_assoc]
  rfl

theorem unlines_cons (line : List UInt8) (lines : List (List UInt8)) :
    unlines (line :: lines) = line ++ ([10] ++ unlines lines) := by
  rw [unlines, List.flatMap_cons, List.append_assoc]
  rfl

theorem WebSocketProtocolClient.doHandShake_eq (client : WebSocketProtocolClient) :
    client.doHandShake = message client.requestLine client.headers := by
  have space : ascii " " = [32] := by decide
  have ending : [crlf].flatten = unlines [[13]] := by decide
  rw [message_cons, doHandShake, requestLine, headers]
  simp only [List.map_cons, List.map_nil, List.cons_append, List.nil_append, unlines_cons]
  rw [List.flatten_cons, List.flatten_cons, List.flatten_cons, List.flatten_cons, List.flatten_cons, List.flatten_cons,
    flatten_header (ascii "Host") (by decide), flatten_header (ascii "Connection") (by decide),
    flatten_header (ascii "User-Agent") (by decide), flatten_header (ascii "Upgrade") (by decide),
    flatten_header (ascii "Origin") (by decide), flatten_header (ascii "Sec-WebSocket-Version") (by decide),
    flatten_header (ascii "Sec-WebSocket-Protocol") (by decide), flatten_header (ascii "Sec-WebSocket-Key") (by decide),
    flatten_header (ascii "Sec-WebSocket-Extensions") (by decide), space, ending]
  simp only [unlines_cons, List.append_assoc, List.cons_append, List.nil_append]

theorem WebSocketProtocolServer.doResponse_eq (server : WebSocketProtocolServer) (date : List UInt8) :
    (server.doResponse date).2 =
      message (server.protocolVer ++ ascii " 101 Switching Protocols") (server.headers date) := by
  have ending : [crlf].flatten = unlines [[13]] := by decide
  rw [message_cons, doResponse, headers]
  simp only [List.map_cons, List.map_nil, List.cons_append, List.nil_append, unlines_cons]
  rw [List.flatten_cons, List.flatten_cons, List.flatten_cons, flatten_header (ascii "Connection") (by decide),
    flatten_header (ascii "Server") (by decide), flatten_header (ascii "Date") (by decide),
    flatten_header (ascii "Upgrade") (by decide), flatten_header (ascii "Sec-WebSocket-Accept") (by decide), ending]
  simp only [unlines_cons, List.append_assoc, List.cons_append, List.nil_append]

theorem findPiece_end (lines : List (List UInt8)) (last : List UInt8) :
    (findPiece (ascii "\r\n\r\n") (unlines (lines ++ [last ++ [13]] ++ [[13]]))).isSome := by
  have ending : unlines (lines ++ [last ++ [13]] ++ [[13]]) =
      (unlines lines ++ last) ++ (ascii "\r\n\r\n" ++ []) := by
    have piece : ascii "\r\n\r\n" = [13, 10, 13, 10] := by decide
    simp only [unlines, List.flatMap_append, List.flatMap_cons, List.flatMap_nil, List.append_nil, List.append_assoc,
      piece, List.cons_append, List.nil_append]
  rw [ending]
  exact findPiece_isSome _ _

/-- A message is complete. -/
theorem message_complete (first : List UInt8) (headers : List (List UInt8 × List UInt8)) :
    (findPiece (ascii "\r\n\r\n") (message first headers)).isSome := by
  rcases List.eq_nil_or_concat headers with none | ⟨before, last, split⟩
  · rw [none]
    exact findPiece_end [] first
  · have ended : headerLine last.1 last.2 = (last.1 ++ fieldColon :: 32 :: last.2) ++ [13] := by
      rw [headerLine, List.append_assoc]
      rfl
    rw [message, split, List.concat_eq_append, List.map_append, List.map_cons, List.map_nil, ended,
      ← List.cons_append]
    exact findPiece_end _ _

/-- A message is read line by line, where no part of it has a line end. -/
theorem parse_message {σ : Type} {parseLine : σ -> List UInt8 -> Option (σ × Int)}
    {assign : σ -> List UInt8 × List UInt8 -> σ}
    (reads : forall state name value, fieldColon ∉ name ->
      parseLine state (headerLine name value) = some (assign state (name, value), 0))
    (skips : forall state, parseLine state [13] = some (state, 0)) {first : List UInt8} {start next : σ} {ret : Int}
    (begins : parseLine start (first ++ [13]) = some (next, ret)) {headers : List (List UInt8 × List UInt8)}
    (plain : forall header, header ∈ headers -> fieldColon ∉ header.1)
    (one : 10 ∉ first) (ones : forall header, header ∈ headers -> 10 ∉ headerLine header.1 header.2) :
    parseLines parseLine start (message first headers) = some (headers.foldl assign next) := by
  have lines : forall line,
      line ∈ (first ++ [13]) :: (headers.map fun header => headerLine header.1 header.2) ++ [[13]] ->
        10 ∉ line := by
    intro line member
    rw [List.mem_append, List.mem_cons, List.mem_map, List.mem_singleton] at member
    rcases member with (same | ⟨header, within, same⟩) | same
    · rw [same, List.mem_append, not_or]
      exact ⟨one, by decide⟩
    · rw [← same]
      exact ones header within
    · rw [same]
      decide
  rw [parseLines, message, linesFrom_unlines lines, List.foldlM_append, List.foldlM_cons, begins, Option.map_some,
    Option.bind_eq_bind, Option.bind_some, parse_headers reads headers plain, Option.bind_some, List.foldlM_cons, skips,
    Option.map_some]
  rfl

/-! ## The first lines -/

/-- The words of the request line. -/
def requestWordsOf (client : WebSocketProtocolClient) : List (List UInt8) :=
  (if client.method = 0 then ascii "GET" else ascii "POST") :: (wordsFrom [] client.path ++ [client.protocolVer])

theorem words_of_request (client : WebSocketProtocolClient) (version : IsWord client.protocolVer) :
    wordsFrom [] (client.requestLine ++ [13]) = requestWordsOf client := by
  have space : isSpace 32 = true := by decide
  have ending : isSpace 13 = true := by decide
  have last : wordsFrom [] (client.protocolVer ++ [13]) = [client.protocolVer] := by
    rw [wordsFrom_space [] client.protocolVer ending, wordsFrom_word version]
    rfl
  have method : IsWord (if client.method = 0 then ascii "GET" else ascii "POST") := by
    split
    · decide
    · decide
  rw [WebSocketProtocolClient.requestLine, requestWordsOf, List.append_assoc, List.cons_append, List.append_assoc,
    List.cons_append, wordsFrom_space [] _ space, wordsFrom_space [] _ space, wordsFrom_word method, last]
  rfl

theorem cutAttribute_some {name rest : List UInt8} (plain : fieldColon ∉ name) (more : rest ≠ []) :
    Exists fun value => cutAttribute (name ++ fieldColon :: rest) = some (name, value) := by
  have inside : name.length + 2 ≤ (name ++ fieldColon :: rest).length := by
    have some := List.length_pos_iff.mpr more
    rw [List.length_append, List.length_cons]
    omega
  rw [cutAttribute, findFirstOf_append plain]
  simp only [substrFrom, if_pos inside, Option.bind_eq_bind, Option.bind_some, substrTo, List.take_left]
  exact ⟨_, rfl⟩

/-- The method is no part of a header's name. -/
theorem method_head (method : Int32) (others : List UInt8) :
    ((if method = 0 then ascii "GET" else ascii "POST") ++ others).head? = some 0x47 ∨
      ((if method = 0 then ascii "GET" else ascii "POST") ++ others).head? = some 0x50 := by
  by_cases get : method = 0
  · rw [if_pos get]
    exact .inl rfl
  · rw [if_neg get]
    exact .inr rfl

theorem method_plain (method : Int32) : fieldColon ∉ (if method = 0 then ascii "GET" else ascii "POST") ∧
    10 ∉ (if method = 0 then ascii "GET" else ascii "POST") := by
  split
  · decide
  · decide

/-- Where the path has a colon, the request line is taken for a header that
nothing is read from. -/
theorem WebSocketProtocolServer.parse_colon (server : WebSocketProtocolServer) {client : WebSocketProtocolClient}
    (colon : fieldColon ∈ client.path) : server.parseLine (client.requestLine ++ [13]) = some (server, 0) := by
  rcases List.eq_append_cons_of_mem colon with ⟨before, behind, split, absent⟩
  have line : client.requestLine ++ [13] =
      ((if client.method = 0 then ascii "GET" else ascii "POST") ++ 32 :: before) ++ fieldColon ::
        (behind ++ 32 :: (client.protocolVer ++ [13])) := by
    rw [WebSocketProtocolClient.requestLine, split]
    simp only [List.append_assoc, List.cons_append]
  have plain : fieldColon ∉ (if client.method = 0 then ascii "GET" else ascii "POST") ++ 32 :: before := by
    rw [List.mem_append, List.mem_cons, not_or, not_or]
    exact ⟨(method_plain client.method).1, by decide, absent⟩
  have more : behind ++ 32 :: (client.protocolVer ++ [13]) ≠ [] :=
    List.append_ne_nil_of_right_ne_nil behind (List.cons_ne_nil _ _)
  rcases cutAttribute_some plain more with ⟨value, cut⟩
  have head := method_head client.method (32 :: before)
  generalize (if client.method = 0 then ascii "GET" else ascii "POST") ++ 32 :: before = name at line plain cut head
  have differs (other : List UInt8) (starts : other.head? ≠ some 0x47 ∧ other.head? ≠ some 0x50) :
      name ≠ other := by
    intro same
    rw [same] at head
    exact head.elim starts.1 starts.2
  have unread : server.assign (name, value) = server := by
    rw [assign, if_neg (differs _ (by decide)), if_neg (differs _ (by decide)), if_neg (differs _ (by decide)),
      if_neg (differs _ (by decide)), if_neg (differs _ (by decide)), if_neg (differs _ (by decide)),
      if_neg (differs _ (by decide))]
  have found : findFirstOf (client.requestLine ++ [13]) fieldColon ≠ none := by
    rw [line, findFirstOf_append plain]
    exact Option.some_ne_none _
  have parsed : server.parseLine (client.requestLine ++ [13]) = some (server.assign (name, value), 0) := by
    rw [parseLine, if_neg found, parseAttribute, line, cut]
    rfl
  rw [parsed, unread]

/-- Otherwise its words are read. -/
theorem WebSocketProtocolServer.parse_words (server : WebSocketProtocolServer) {client : WebSocketProtocolClient}
    (noColon : fieldColon ∉ client.path) (version : IsWord client.protocolVer)
    (plain : fieldColon ∉ client.protocolVer) :
    server.parseLine (client.requestLine ++ [13]) = some (server.requestWords 0 (requestWordsOf client)) := by
  have absent : fieldColon ∉ client.requestLine ++ [13] := by
    rw [WebSocketProtocolClient.requestLine]
    simp only [List.mem_append, List.mem_cons, not_or]
    exact ⟨⟨(method_plain client.method).1, by decide, noColon, by decide, plain⟩, by decide, by decide⟩
  rw [parseLine, if_pos (findFirstOf_eq_none absent), words_of_request client version]

/-- Words behind the third change nothing. -/
theorem requestWords_late (server : WebSocketProtocolServer) (words : List (List UInt8)) (i : Nat) :
    server.requestWords (i + 3) words = (server, 0) := by
  induction words generalizing i with
  | nil => rw [WebSocketProtocolServer.requestWords]
  | cons word words inductionHypothesis =>
      have same : server.requestWord (i + 3) word = some server := rfl
      rw [WebSocketProtocolServer.requestWords, same]
      exact inductionHypothesis (i + 1)

/-- What the words of the request are read into. -/
theorem requestWords_eq (server : WebSocketProtocolServer) (client : WebSocketProtocolClient) :
    server.requestWords 0 (requestWordsOf client) = ({ server with
      method := if client.method = 0 then 0 else 1
      path := ((wordsFrom [] client.path ++ [client.protocolVer])[0]?).getD server.path
      protocolVer := ((wordsFrom [] client.path ++ [client.protocolVer])[1]?).getD server.protocolVer }, 0) := by
  have first : server.requestWord 0 (if client.method = 0 then ascii "GET" else ascii "POST") =
      some { server with method := if client.method = 0 then 0 else 1 } := by
    by_cases get : client.method = 0
    · rw [if_pos get, if_pos get, WebSocketProtocolServer.requestWord, if_pos rfl]
    · rw [if_neg get, if_neg get, WebSocketProtocolServer.requestWord, if_neg (by decide), if_pos rfl]
  rw [requestWordsOf, WebSocketProtocolServer.requestWords, first]
  dsimp only
  rcases wordsFrom [] client.path ++ [client.protocolVer] with _ | ⟨one, _ | ⟨two, others⟩⟩
  · rfl
  · rfl
  · rw [WebSocketProtocolServer.requestWords, WebSocketProtocolServer.requestWord]
    dsimp only
    rw [WebSocketProtocolServer.requestWords, WebSocketProtocolServer.requestWord]
    dsimp only
    rw [requestWords_late]
    rfl

/-! ## The key -/

theorem generateRandom_mem {rands : List Nat} {letter : UInt8} (member : letter ∈ generateRandom rands) :
    letter ≠ 0 ∧ letter ≠ 10 := by
  rcases List.mem_map.mp member with ⟨value, _, rfl⟩
  have inside : value % 67 < 67 := Nat.mod_lt _ (by decide)
  have all : forall index : Fin 67,
      (ascii "0123456789abcdefghijklmnopqrstuvwxyzABCDEFGHIJKLMNOPQRSTUVWXYZ+-*/=").getD index.val 0 ≠ 0 ∧
        (ascii "0123456789abcdefghijklmnopqrstuvwxyzABCDEFGHIJKLMNOPQRSTUVWXYZ+-*/=").getD index.val 0 ≠ 10 := by
    decide +kernel
  exact all ⟨value % 67, inside⟩

/-- What the server appends to a key. -/
def keyGuid : List UInt8 := ascii "258EAFA5-E914-47DA-95CA-C5AB0DC85B11"

/-! ## The server reads the request -/

/-- The server that has read a request. -/
def served (fresh : WBuffert) (client : WebSocketProtocolClient) : WebSocketProtocolServer :=
  { if fieldColon ∈ client.path then blank
      else (WebSocketProtocolServer.requestWords blank 0 (requestWordsOf client)).1 with
    connection := client.connection
    host := client.host
    origin := client.origin
    extensions := client.extensions
    key := client.key
    version := client.version
    upgrade := client.upgrade
    accept := shacalc fresh (client.key ++ keyGuid) }

/-- A client that asks for a connection. -/
structure Asks (client : WebSocketProtocolClient) : Prop where
  version : client.protocolVer = ascii "HTTP/1.1"
  upgrade : client.upgrade = ascii "websocket"
  connection : client.connection = ascii "Upgrade"
  protocol : client.version = ascii "13"
  key : client.key ≠ []
  keyLetters : forall letter, letter ∈ client.key -> letter ≠ 0 ∧ letter ≠ 10
  path : 10 ∉ client.path
  headers : forall header, header ∈ client.headers -> fieldColon ∉ header.1 ∧ 10 ∉ headerLine header.1 header.2

theorem WebSocketProtocolServer.assign_request (server : WebSocketProtocolServer) (client : WebSocketProtocolClient) :
    client.headers.foldl WebSocketProtocolServer.assign server = { server with
      connection := client.connection
      host := client.host
      origin := client.origin
      extensions := client.extensions
      key := client.key
      version := client.version
      upgrade := client.upgrade } := by
  simp +decide only [WebSocketProtocolClient.headers, List.foldl_cons, List.foldl_nil, assign, if_true, if_false]

theorem WebSocketProtocolServer.parse_blank (server : WebSocketProtocolServer) :
    server.parseLine [13] = some (server, 0) := rfl

theorem requestLine_whole {client : WebSocketProtocolClient} (asks : Asks client) : 10 ∉ client.requestLine := by
  rw [WebSocketProtocolClient.requestLine, asks.version]
  simp only [List.mem_append, List.mem_cons, not_or]
  exact ⟨(method_plain client.method).2, by decide, asks.path, by decide, by decide⟩

/-- The server accepts every such request, also one whose first line it could
not make sense of. -/
theorem server_reads (fresh : WBuffert) {client : WebSocketProtocolClient} (asks : Asks client) :
    WebSocketProtocolServer.doHandShake (shacalc fresh) blank client.doHandShake = some (served fresh client, 0) := by
  have version : IsWord client.protocolVer := by
    rw [asks.version]
    decide
  have plain : fieldColon ∉ client.protocolVer := by
    rw [asks.version]
    decide
  have begins : WebSocketProtocolServer.parseLine blank (client.requestLine ++ [13]) =
      some (if fieldColon ∈ client.path then blank
        else (WebSocketProtocolServer.requestWords blank 0 (requestWordsOf client)).1, 0) := by
    by_cases colon : fieldColon ∈ client.path
    · rw [if_pos colon, WebSocketProtocolServer.parse_colon blank colon]
    · rw [if_neg colon, WebSocketProtocolServer.parse_words blank colon version plain, requestWords_eq]
  have parsed := parse_message WebSocketProtocolServer.parseLine_header WebSocketProtocolServer.parse_blank begins
    (fun header member => (asks.headers header member).1) (requestLine_whole asks)
    (fun header member => (asks.headers header member).2)
  have noNul : ¬ 0 ∈ client.key ++ keyGuid := by
    rw [List.mem_append, not_or]
    exact ⟨fun member => (asks.keyLetters 0 member).1 rfl, by decide⟩
  have first : (if fieldColon ∈ client.path then blank
      else (WebSocketProtocolServer.requestWords blank 0 (requestWordsOf client)).1).accept = [] := by
    split
    · rfl
    · rw [requestWords_eq]
      rfl
  rw [client.doHandShake_eq, WebSocketProtocolServer.doHandShake, if_pos (message_complete _ _), parsed,
    WebSocketProtocolServer.assign_request, served]
  generalize (if fieldColon ∈ client.path then blank
    else (WebSocketProtocolServer.requestWords blank 0 (requestWordsOf client)).1) = read at first
  simp only [Option.bind_eq_bind, Option.bind_some, asks.upgrade, asks.connection, asks.protocol, asks.key,
    ne_eq, not_true_eq_false, or_false, if_false, first, List.nil_append]
  rw [← keyGuid, cStr_of_not_mem noNul]
  rfl

/-! ## The client reads the response -/

/-- The path can be told from a header, and is there. -/
def Understood (path : List UInt8) : Prop := fieldColon ∉ path ∧ wordsFrom [] path ≠ []

instance (path : List UInt8) : Decidable (Understood path) := inferInstanceAs (Decidable (_ ∧ _))

/-- The version that the server sends back: a word of the request, or nothing. -/
theorem served_version (fresh : WBuffert) {client : WebSocketProtocolClient} (asks : Asks client) :
    if Understood client.path then
      IsWord (served fresh client).protocolVer ∧ fieldColon ∉ (served fresh client).protocolVer ∧
        10 ∉ (served fresh client).protocolVer
    else (served fresh client).protocolVer = [] := by
  have version : (served fresh client).protocolVer = (if fieldColon ∈ client.path then blank
      else (WebSocketProtocolServer.requestWords blank 0 (requestWordsOf client)).1).protocolVer := rfl
  rw [version]
  by_cases colon : fieldColon ∈ client.path
  · rw [if_pos colon, if_neg (fun both => both.1 colon)]
    rfl
  · rw [if_neg colon, requestWords_eq]
    dsimp only
    have words (word : List UInt8) (member : word ∈ wordsFrom [] client.path) :
        IsWord word ∧ fieldColon ∉ word ∧ 10 ∉ word := by
      have found := wordsFrom_words [] client.path nofun member
      exact ⟨found.1, fun inside => colon (found.2 _ inside), fun inside => asks.path (found.2 _ inside)⟩
    have http : IsWord client.protocolVer ∧ fieldColon ∉ client.protocolVer ∧ 10 ∉ client.protocolVer := by
      rw [asks.version]
      decide
    rcases found : wordsFrom [] client.path with _ | ⟨one, _ | ⟨two, others⟩⟩
    · rw [if_neg (fun both => both.2 found)]
      rfl
    · rw [if_pos ⟨colon, by rw [found]; exact List.cons_ne_nil _ _⟩]
      exact http
    · rw [if_pos ⟨colon, by rw [found]; exact List.cons_ne_nil _ _⟩]
      apply words
      rw [found]
      exact List.mem_cons_of_mem _ List.mem_cons_self

theorem WebSocketProtocolClient.assign_response (client : WebSocketProtocolClient) (server : WebSocketProtocolServer)
    (date : List UInt8) : (server.headers date).foldl WebSocketProtocolClient.assign client = { client with
      connection := server.connection
      upgrade := server.upgrade
      accept := server.accept } := by
  simp +decide only [WebSocketProtocolServer.headers, List.foldl_cons, List.foldl_nil, assign, if_true, if_false]

theorem WebSocketProtocolClient.parse_blank (client : WebSocketProtocolClient) :
    client.parseLine [13] = some (client, 0) := rfl

/-- The words of the first line of a response. -/
theorem words_of_response (version : List UInt8) :
    wordsFrom [] (version ++ ascii " 101 Switching Protocols" ++ [13]) =
      wordsFrom [] version ++ [ascii "101", ascii "Switching", ascii "Protocols"] := by
  have space : isSpace 32 = true := by decide
  have text : ascii " 101 Switching Protocols" ++ [13] = 32 :: (ascii "101 Switching Protocols" ++ [13]) := by decide
  rw [List.append_assoc, text, wordsFrom_space [] version space]
  congr 1

/-- The code that is read from it. -/
theorem parse_response (client : WebSocketProtocolClient) {version : List UInt8}
    (known : IsWord version ∨ version = []) (plain : fieldColon ∉ version) :
    client.parseLine (version ++ ascii " 101 Switching Protocols" ++ [13]) =
      some ({ client with code := if version = [] then ascii "Switching" else ascii "101" }, 0) := by
  have absent : fieldColon ∉ version ++ ascii " 101 Switching Protocols" ++ [13] := by
    simp only [List.mem_append, not_or]
    exact ⟨⟨plain, by decide⟩, by decide⟩
  rw [WebSocketProtocolClient.parseLine, if_pos (findFirstOf_eq_none absent), words_of_response]
  rcases known with word | none
  · rw [wordsFrom_word word, if_neg word.nonempty]
    rfl
  · rw [none, if_pos rfl]
    rfl

/-- The client that has read the response. -/
def answered (fresh : WBuffert) (client : WebSocketProtocolClient) : WebSocketProtocolClient :=
  { client with
    connection := client.connection
    upgrade := client.upgrade
    accept := shacalc fresh (client.key ++ keyGuid)
    code := if (served fresh client).protocolVer = [] then ascii "Switching" else ascii "101" }

theorem shacalc_ne_nil (fresh : WBuffert) {src : List UInt8} (small : 8 * src.length < 2 ^ 31) :
    shacalc fresh src ≠ [] := by
  rw [shacalc_eq fresh small]
  intro none
  have size := base64Text_length (sha1 src)
  rw [none, sha1_length] at size
  cases size

/-- The client takes the response for one exactly where the server had understood
the path. -/
theorem client_reads (fresh : WBuffert) {client : WebSocketProtocolClient} (asks : Asks client)
    (short : client.key.length < 2 ^ 27) {date : List UInt8} (dateLine : 10 ∉ date) :
    client.doResponse ((served fresh client).doResponse date).2 =
      if Understood client.path then some ({ answered fresh client with bIsConnect := true }, 0)
      else some (answered fresh client, -1) := by
  have version := served_version fresh asks
  have known : (IsWord (served fresh client).protocolVer ∨ (served fresh client).protocolVer = []) ∧
      fieldColon ∉ (served fresh client).protocolVer ∧ 10 ∉ (served fresh client).protocolVer ∧
        ((served fresh client).protocolVer = [] ↔ ¬ Understood client.path) := by
    by_cases understood : Understood client.path
    · rw [if_pos understood] at version
      exact ⟨.inl version.1, version.2.1, version.2.2, fun none => absurd none version.1.nonempty,
        fun not => absurd understood not⟩
    · rw [if_neg understood] at version
      rw [version]
      exact ⟨.inr rfl, List.not_mem_nil, List.not_mem_nil, fun _ => understood, fun _ => rfl⟩
  have small : 8 * (client.key ++ keyGuid).length < 2 ^ 31 := by
    have guid : keyGuid.length = 36 := by decide
    rw [List.length_append, guid]
    omega
  have accept : (served fresh client).accept = base64Text (sha1 (client.key ++ keyGuid)) := shacalc_eq fresh small
  have one : 10 ∉ (served fresh client).protocolVer ++ ascii " 101 Switching Protocols" := by
    rw [List.mem_append, not_or]
    exact ⟨known.2.2.1, by decide⟩
  have headers : forall header, header ∈ (served fresh client).headers date ->
      fieldColon ∉ header.1 ∧ 10 ∉ headerLine header.1 header.2 := by
    have connection : 10 ∉ (served fresh client).connection := by
      rw [show (served fresh client).connection = ascii "Upgrade" from asks.connection]
      decide
    have upgrade : 10 ∉ (served fresh client).upgrade := by
      rw [show (served fresh client).upgrade = ascii "websocket" from asks.upgrade]
      decide
    have accepted : 10 ∉ (served fresh client).accept := by
      rw [accept]
      exact base64Text_without _ (by decide)
    rw [WebSocketProtocolServer.headers]
    simp only [List.forall_mem_cons]
    exact ⟨header_whole (by decide) connection, header_whole (by decide) (by decide),
      header_whole (by decide) dateLine, header_whole (by decide) upgrade, header_whole (by decide) accepted, nofun⟩
  have parsed := parse_message WebSocketProtocolClient.parseLine_header WebSocketProtocolClient.parse_blank
    (parse_response client known.1 known.2.1) (fun header member => (headers header member).1) one
    (fun header member => (headers header member).2)
  have read : parseLines WebSocketProtocolClient.parseLine client ((served fresh client).doResponse date).2 =
      some (answered fresh client) := by
    rw [WebSocketProtocolServer.doResponse_eq, parsed, WebSocketProtocolClient.assign_response]
    rfl
  have complete : (findPiece (ascii "\r\n\r\n") ((served fresh client).doResponse date).2).isSome := by
    rw [WebSocketProtocolServer.doResponse_eq]
    exact message_complete _ _
  have upgrade : sameNoCase (answered fresh client).upgrade (ascii "websocket") = true := by
    rw [show (answered fresh client).upgrade = ascii "websocket" from asks.upgrade]
    decide
  have accepted : (answered fresh client).accept ≠ [] := shacalc_ne_nil fresh small
  have code : (answered fresh client).code =
      if (served fresh client).protocolVer = [] then ascii "Switching" else ascii "101" := rfl
  rw [WebSocketProtocolClient.doResponse, if_pos complete, read, Option.bind_eq_bind, Option.bind_some]
  by_cases understood : Understood client.path
  · rw [if_neg (fun none => known.2.2.2.mp none understood)] at code
    have passes : ¬ (¬ sameNoCase (answered fresh client).upgrade (ascii "websocket") = true ∨
        (answered fresh client).code ≠ ascii "101" ∨ (answered fresh client).accept = []) := by
      simp only [upgrade, code, accepted, not_true_eq_false, ne_eq, or_self, not_false_eq_true]
    rw [if_pos understood, if_neg passes]
    rfl
  · rw [if_pos (known.2.2.2.mpr understood)] at code
    have fails : (answered fresh client).code ≠ ascii "101" := by
      rw [code]
      decide
    rw [if_neg understood, if_pos (.inr (.inl fails))]
    rfl

section Opening

variable (client : WebSocketProtocolClient) {rands : List Nat} (key : rands.length = 24) (method : Int32)
  {path host extensions : List UInt8} (pathLine : 10 ∉ path) (hostLine : 10 ∉ host)
  (extensionsLine : 10 ∉ extensions)

include key pathLine hostLine extensionsLine

theorem initParam_asks : Asks (client.initParam rands method path host extensions) where
  version := rfl
  upgrade := rfl
  connection := rfl
  protocol := rfl
  key := by
    have length : (generateRandom rands).length = 24 := by rw [generateRandom, List.length_map, key]
    exact List.ne_nil_of_length_pos (Nat.lt_of_lt_of_eq (by decide) length.symm)
  keyLetters := fun _ member => generateRandom_mem member
  path := pathLine
  headers := by
    simp only [WebSocketProtocolClient.headers, WebSocketProtocolClient.initParam, List.forall_mem_cons]
    exact ⟨header_whole (by decide) hostLine, header_whole (by decide) (by decide),
      header_whole (by decide) (by decide), header_whole (by decide) (by decide),
      header_whole (by decide) (by decide), header_whole (by decide) (by decide),
      header_whole (by decide) (by decide), header_whole (by decide) (fun member => (generateRandom_mem member).2 rfl),
      header_whole (by decide) extensionsLine, nofun⟩

/-- A server and a client open a connection.  The server accepts every request,
and holds what the client asked for and the digest of its key.  The client
accepts the response only if the path is more than spaces and has no colon;
otherwise the server counts itself as connected and the client does not. -/
theorem opening_completes_iff (fresh : WBuffert) (apart : client.bIsConnect = false) {date : List UInt8}
    (dateLine : 10 ∉ date) : Exists fun server => Exists fun client' =>
      WebSocketProtocolServer.doHandShake (shacalc fresh) blank
          (client.initParam rands method path host extensions).doHandShake = some (server, 0) ∧
        (server.key = generateRandom rands ∧ server.host = host ∧ server.extensions = extensions ∧
          server.accept = shacalc fresh (generateRandom rands ++ ascii "258EAFA5-E914-47DA-95CA-C5AB0DC85B11")) ∧
        (server.doResponse date).1.bIsConnect = true ∧
        (client.initParam rands method path host extensions).doResponse (server.doResponse date).2 =
          some (client', if Understood path then 0 else -1) ∧
        client'.accept = server.accept ∧ (client'.bIsConnect = true ↔ Understood path) := by
  have asks := initParam_asks client key method pathLine hostLine extensionsLine
  have length : (generateRandom rands).length = 24 := by rw [generateRandom, List.length_map, key]
  have short : (generateRandom rands).length < 2 ^ 27 := by
    rw [length]
    decide
  have read := client_reads fresh asks short dateLine
  have members : (client.initParam rands method path host extensions).path = path := rfl
  rw [members] at read
  by_cases understood : Understood path
  · rw [if_pos understood] at read ⊢
    exact ⟨served fresh (client.initParam rands method path host extensions),
      { answered fresh (client.initParam rands method path host extensions) with bIsConnect := true },
      server_reads fresh asks, ⟨rfl, rfl, rfl, rfl⟩, rfl, read, rfl, fun _ => understood, fun _ => rfl⟩
  · rw [if_neg understood] at read ⊢
    have stays : (answered fresh (client.initParam rands method path host extensions)).bIsConnect = false := apart
    refine ⟨served fresh (client.initParam rands method path host extensions),
      answered fresh (client.initParam rands method path host extensions),
      server_reads fresh asks, ⟨rfl, rfl, rfl, rfl⟩, rfl, read, rfl, ?_⟩
    rw [stays]
    exact ⟨nofun, fun known => absurd known understood⟩

end Opening

/-- A client that nothing has been read into. -/
def blankClient : WebSocketProtocolClient := ⟨blank, [], [], []⟩

/-- A path with a colon. -/
theorem opening_completes_iff_colon : Exists fun server => Exists fun client' =>
      WebSocketProtocolServer.doHandShake (shacalc (Vector.replicate 80 0)) blank
          (blankClient.initParam (List.replicate 24 1) 0 (ascii "/a:b") (ascii "10.0.0.1:80")
            (ascii "ws rtc client")).doHandShake = some (server, 0) ∧
        (server.key = generateRandom (List.replicate 24 1) ∧ server.host = ascii "10.0.0.1:80" ∧
          server.extensions = ascii "ws rtc client" ∧
          server.accept = shacalc (Vector.replicate 80 0)
            (generateRandom (List.replicate 24 1) ++ ascii "258EAFA5-E914-47DA-95CA-C5AB0DC85B11")) ∧
        (server.doResponse (ascii "Thu Jan  1 00:00:00 1970")).1.bIsConnect = true ∧
        (blankClient.initParam (List.replicate 24 1) 0 (ascii "/a:b") (ascii "10.0.0.1:80")
            (ascii "ws rtc client")).doResponse (server.doResponse (ascii "Thu Jan  1 00:00:00 1970")).2 =
          some (client', if Understood (ascii "/a:b") then 0 else -1) ∧
        client'.accept = server.accept ∧ (client'.bIsConnect = true ↔ Understood (ascii "/a:b")) :=
  opening_completes_iff blankClient List.length_replicate 0 (by decide) (by decide) (by decide)
    (Vector.replicate 80 0) rfl (by decide)

end Net
end RtmpClient
