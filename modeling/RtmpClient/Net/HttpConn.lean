import RtmpClient.Library.CppString

namespace RtmpClient
namespace Net

open Library

/-!
# A connection of the HTTP server (`NetCore.cc`)

`HttpConn::onRecvData` and the callbacks that `http_parser` makes.  The parser
is a parameter: what it makes of the bytes of a call are the callbacks, in their
order, and what it says of itself behind the call.
-/

/-- `parser.method`, as far as `onRecvData` tells methods apart. -/
inductive HttpMethod where
  | httpGet
  | httpPost
  | other
  deriving DecidableEq, Repr

/-- A call of one of the `settings`. -/
inductive HttpCallback where
  | onMessageBegin
  | onUrl (fragment : List UInt8)
  | onHeaderField (fragment : List UInt8)
  | onHeaderValue (fragment : List UInt8)
  | onHeadersComplete
  | onBody (fragment : List UInt8)
  | onMessageComplete
  deriving DecidableEq, Repr

/-- What `http_parser_execute` does, `HTTP_PARSER_ERRNO(&parser) == HPE_OK` and
`parser.method` behind it. -/
structure HttpParsed where
  callbacks : List HttpCallback
  errnoOk : Bool
  method : HttpMethod
  deriving DecidableEq, Repr

structure HttpParser where
  State : Type
  init : State
  execute : State -> List UInt8 -> State × HttpParsed

structure HttpConn (parser : HttpParser) where
  state : parser.State
  headerKey : List UInt8
  headerVal : List UInt8
  headerComplete : Bool
  messageComplete : Bool
  url : List UInt8
  httpBody : List UInt8
  httpHeader : List (List UInt8 × List UInt8)

/-- A call of `server_`. -/
inductive HttpServerCall where
  | onHttpPost (url body : List UInt8)
  | onHttpGet (url param : List UInt8)
  deriving DecidableEq, Repr

namespace HttpConn

variable {parser : HttpParser}

/-- The constructor. -/
def new (parser : HttpParser) : HttpConn parser where
  state := parser.init
  headerKey := []
  headerVal := []
  headerComplete := false
  messageComplete := false
  url := []
  httpBody := []
  httpHeader := []

/-- `httpHeader_[header_key] = header_val`, unless there is no value. -/
def storeHeader (conn : HttpConn parser) : HttpConn parser :=
  if conn.headerVal ≠ [] then
    { conn with
      httpHeader := (conn.headerKey, conn.headerVal) :: conn.httpHeader.filter fun header => header.1 ≠ conn.headerKey
      headerKey := []
      headerVal := [] }
  else conn

/-- The callbacks. -/
def call (conn : HttpConn parser) : HttpCallback -> HttpConn parser
  | .onMessageBegin => conn
  | .onUrl fragment => { conn with url := fragment }
  | .onHeaderField fragment => { conn.storeHeader with headerKey := conn.storeHeader.headerKey ++ fragment }
  | .onHeaderValue fragment => { conn with headerVal := conn.headerVal ++ fragment }
  | .onHeadersComplete => { conn with headerComplete := true }
  | .onBody fragment => { conn with httpBody := conn.httpBody ++ fragment }
  | .onMessageComplete => { conn with messageComplete := true }

/-- The call of `server_` for this method; the url of a `GET` is cut at its
question mark. -/
def serve (conn : HttpConn parser) : HttpMethod -> Option HttpServerCall
  | .httpPost => some (.onHttpPost conn.url conn.httpBody)
  | .httpGet =>
      match findFirstOf conn.url 0x3f with
      | some index => some (.onHttpGet (conn.url.take index) (conn.url.drop (index + 1)))
      | none => some (.onHttpGet conn.url [])
  | .other => none

/-- `onRecvData`: the connection behind the call, and what is called of
`server_`. -/
def onRecvData (conn : HttpConn parser) (data : List UInt8) : HttpConn parser × Option HttpServerCall :=
  if data = [] then (conn, none)
  else
    let (state, parsed) := parser.execute conn.state data
    let conn := parsed.callbacks.foldl call { conn with state }
    if parsed.errnoOk = false then (conn, none)
    else if conn.messageComplete then (conn, conn.serve parsed.method)
    else (conn, none)

/-- What is called of `server_` while these bytes come in. -/
def handled (conn : HttpConn parser) : List (List UInt8) -> List HttpServerCall
  | [] => []
  | data :: chunks => (conn.onRecvData data).2.toList ++ (conn.onRecvData data).1.handled chunks

end HttpConn

/-! ## What the parser reports -/

/-- What `http_parser` does in the calls that give it bytes. -/
def HttpParser.parsed (parser : HttpParser) (state : parser.State) : List (List UInt8) -> List HttpParsed
  | [] => []
  | data :: chunks =>
      if data = [] then parser.parsed state chunks
      else (parser.execute state data).2 :: parser.parsed (parser.execute state data).1 chunks

/-- The callbacks of each of these calls. -/
def HttpParser.calls (parser : HttpParser) (chunks : List (List UInt8)) : List (List HttpCallback) :=
  (parser.parsed parser.init chunks).map HttpParsed.callbacks

namespace HttpCallback

/-- The fragments of a url, joined. -/
def joinedUrl (callbacks : List HttpCallback) : List UInt8 :=
  callbacks.flatMap fun
    | onUrl fragment => fragment
    | _ => []

/-- The last fragment of a url. -/
def lastUrl (callbacks : List HttpCallback) : List UInt8 :=
  callbacks.foldl (fun url callback =>
    match callback with
    | onUrl fragment => fragment
    | _ => url) []

/-- The fragments of bodies, joined. -/
def joinedBody (callbacks : List HttpCallback) : List UInt8 :=
  callbacks.flatMap fun
    | onBody fragment => fragment
    | _ => []

end HttpCallback

open HttpCallback (joinedUrl lastUrl joinedBody)

/-- A request, by what is called for it in front of `on_message_complete`. -/
structure PostRequest where
  reported : List HttpCallback
  whole : .onMessageComplete ∉ reported

namespace PostRequest

variable (request : PostRequest)

/-- All callbacks of the request. -/
def callbacks : List HttpCallback := request.reported ++ [.onMessageComplete]

/-- Fragments come in their order, so the whole url is what they join to. -/
def url : List UInt8 := joinedUrl request.reported

def body : List UInt8 := joinedBody request.reported

def handling : HttpServerCall := .onHttpPost request.url request.body

end PostRequest

/-- The parser reports these requests for these bytes, however they are cut; no
call carries the ends of two requests. -/
structure HttpParser.Parses (parser : HttpParser) (chunks : List (List UInt8)) (requests : List PostRequest) : Prop where
  ok : forall parsed, parsed ∈ parser.parsed parser.init chunks -> parsed.errnoOk = true
  post : forall (n : Nat) (parsed : HttpParsed), (parser.parsed parser.init chunks)[n]? = some parsed ->
    .onMessageComplete ∈ ((parser.calls chunks).take (n + 1)).flatten -> parsed.method = .httpPost
  reported : (parser.calls chunks).flatten = requests.flatMap PostRequest.callbacks
  oneEnd : forall call, call ∈ parser.calls chunks -> call.count .onMessageComplete ≤ 1

/-- What keeps the requests apart, with `seen` reported before: every call behind
one that ends a request ends one too; the last fragment of a url that was reported
by then is the whole url of the request that ends; only the last request has a
body, and no call that ends a request goes on with the body of another. -/
structure KeptApart (seen : List HttpCallback) (calls : List (List HttpCallback)) (requests : List PostRequest) :
    Prop where
  ends : forall (n : Nat) (call : List HttpCallback), calls[n]? = some call ->
    .onMessageComplete ∈ seen ++ (calls.take n).flatten -> .onMessageComplete ∈ call
  url : forall (n : Nat) (call : List HttpCallback) (request : PostRequest), calls[n]? = some call ->
    .onMessageComplete ∈ call -> requests[(calls.take n).flatten.count .onMessageComplete]? = some request ->
    lastUrl (seen ++ (calls.take (n + 1)).flatten) = request.url
  bodies : forall request, request ∈ requests.dropLast -> request.body = []
  behind : forall call, call ∈ calls -> forall front behind, call = front ++ .onMessageComplete :: behind ->
    joinedBody behind = []

/-! ## What the connection keeps -/

/-- What is called of `server_` where every request is a `POST`, from what was
reported before. -/
def handledFrom (seen : List HttpCallback) : List (List HttpCallback) -> List HttpServerCall
  | [] => []
  | call :: calls =>
      (if .onMessageComplete ∈ seen ++ call then [.onHttpPost (lastUrl (seen ++ call)) (joinedBody (seen ++ call))]
        else []) ++ handledFrom (seen ++ call) calls

theorem joinedBody_append (first second : List HttpCallback) :
    joinedBody (first ++ second) = joinedBody first ++ joinedBody second :=
  List.flatMap_append

namespace HttpConn

variable {parser : HttpParser} {conn : HttpConn parser} {seen : List HttpCallback}

/-- The connection keeps this of what was reported. -/
structure Keeps (conn : HttpConn parser) (seen : List HttpCallback) : Prop where
  url : conn.url = lastUrl seen
  body : conn.httpBody = joinedBody seen
  complete : conn.messageComplete = true ↔ .onMessageComplete ∈ seen

theorem keeps_new : (new parser).Keeps [] where
  url := rfl
  body := rfl
  complete := ⟨nofun, nofun⟩

/-- A callback that reports none of what is kept. -/
theorem keeps_other {next : HttpConn parser} {callback : HttpCallback} (keeps : conn.Keeps seen)
    (url : next.url = conn.url) (body : next.httpBody = conn.httpBody)
    (complete : next.messageComplete = conn.messageComplete) (noUrl : lastUrl (seen ++ [callback]) = lastUrl seen)
    (noBody : joinedBody [callback] = []) (noEnd : callback ≠ .onMessageComplete) : next.Keeps (seen ++ [callback]) where
  url := by rw [url, keeps.url, noUrl]
  body := by rw [body, keeps.body, joinedBody_append, noBody, List.append_nil]
  complete := by
    rw [complete, keeps.complete, List.mem_append, List.mem_singleton]
    exact ⟨.inl, fun found => found.resolve_right (Ne.symm noEnd)⟩

/-- Each callback is kept. -/
theorem keeps_call (keeps : conn.Keeps seen) (callback : HttpCallback) :
    (conn.call callback).Keeps (seen ++ [callback]) := by
  have last : forall callback, lastUrl (seen ++ [callback]) = match callback with
      | .onUrl fragment => fragment
      | _ => lastUrl seen := by
    intro callback
    rw [lastUrl, List.foldl_append]
    cases callback <;> rfl
  cases callback with
  | onMessageBegin => exact keeps_other keeps rfl rfl rfl (last _) rfl nofun
  | onUrl fragment =>
      refine ⟨(last (.onUrl fragment)).symm, ?_, ?_⟩
      · rw [joinedBody_append]
        exact keeps.body.trans (List.append_nil _).symm
      · rw [List.mem_append, List.mem_singleton]
        exact keeps.complete.trans ⟨.inl, fun found => found.resolve_right nofun⟩
  | onHeaderField fragment =>
      have stored : conn.storeHeader.url = conn.url ∧ conn.storeHeader.httpBody = conn.httpBody ∧
          conn.storeHeader.messageComplete = conn.messageComplete := by
        rw [storeHeader]
        split <;> exact ⟨rfl, rfl, rfl⟩
      exact keeps_other keeps stored.1 stored.2.1 stored.2.2 (last _) rfl nofun
  | onHeaderValue fragment => exact keeps_other keeps rfl rfl rfl (last _) rfl nofun
  | onHeadersComplete => exact keeps_other keeps rfl rfl rfl (last _) rfl nofun
  | onBody fragment =>
      refine ⟨keeps.url.trans (last (.onBody fragment)).symm, ?_, ?_⟩
      · rw [joinedBody_append]
        show conn.httpBody ++ fragment = _
        rw [keeps.body]
        exact congrArg _ (List.append_nil fragment).symm
      · rw [List.mem_append, List.mem_singleton]
        exact keeps.complete.trans ⟨.inl, fun found => found.resolve_right nofun⟩
  | onMessageComplete =>
      refine ⟨keeps.url.trans (last .onMessageComplete).symm, ?_, ?_⟩
      · rw [joinedBody_append]
        exact keeps.body.trans (List.append_nil _).symm
      · exact ⟨fun _ => List.mem_append_right seen (List.mem_singleton_self _), fun _ => rfl⟩

theorem keeps_calls (keeps : conn.Keeps seen) (callbacks : List HttpCallback) :
    (callbacks.foldl call conn).Keeps (seen ++ callbacks) := by
  induction callbacks generalizing conn seen with
  | nil =>
      rw [List.append_nil]
      exact keeps
  | cons callback callbacks inductionHypothesis =>
      have later := inductionHypothesis (keeps_call keeps callback)
      rw [List.append_assoc, List.singleton_append] at later
      exact later

theorem state_calls (callbacks : List HttpCallback) : (callbacks.foldl call conn).state = conn.state := by
  induction callbacks generalizing conn with
  | nil => rfl
  | cons callback callbacks inductionHypothesis =>
      rw [List.foldl_cons, inductionHypothesis]
      cases callback with
      | onHeaderField fragment =>
          show conn.storeHeader.state = conn.state
          rw [storeHeader]
          split <;> rfl
      | onMessageBegin => rfl
      | onUrl fragment => rfl
      | onHeaderValue fragment => rfl
      | onHeadersComplete => rfl
      | onBody fragment => rfl
      | onMessageComplete => rfl

/-- What is called of `server_` is what the reports say. -/
theorem handled_eq {chunks : List (List UInt8)} (keeps : conn.Keeps seen)
    (ok : forall parsed, parsed ∈ parser.parsed conn.state chunks -> parsed.errnoOk = true)
    (post : forall (n : Nat) (parsed : HttpParsed), (parser.parsed conn.state chunks)[n]? = some parsed ->
      .onMessageComplete ∈ seen ++ (((parser.parsed conn.state chunks).map HttpParsed.callbacks).take (n + 1)).flatten ->
      parsed.method = .httpPost) :
    conn.handled chunks = handledFrom seen ((parser.parsed conn.state chunks).map HttpParsed.callbacks) := by
  induction chunks generalizing conn seen with
  | nil => rfl
  | cons data chunks inductionHypothesis =>
      by_cases empty : data = []
      · rw [HttpParser.parsed, if_pos empty] at ok post ⊢
        rw [handled, onRecvData, if_pos empty]
        exact inductionHypothesis keeps ok post
      · rw [HttpParser.parsed, if_neg empty] at ok post ⊢
        rcases executed : parser.execute conn.state data with ⟨state, parsed⟩
        rw [executed] at ok post
        have fine := ok parsed List.mem_cons_self
        have kept : ({ conn with state } : HttpConn parser).Keeps seen := ⟨keeps.url, keeps.body, keeps.complete⟩
        have kept' := keeps_calls kept parsed.callbacks
        have same := @state_calls parser { conn with state } parsed.callbacks
        have later : (parsed.callbacks.foldl call { conn with state }).handled chunks =
            handledFrom (seen ++ parsed.callbacks) ((parser.parsed state chunks).map HttpParsed.callbacks) := by
          have rest := @inductionHypothesis (parsed.callbacks.foldl call { conn with state }) _ kept'
          rw [same] at rest
          apply rest
          · exact fun other member => ok other (List.mem_cons_of_mem parsed member)
          · intro n other found complete
            rw [List.append_assoc] at complete
            exact post (n + 1) other found complete
        rw [handled, onRecvData, if_neg empty, executed]
        dsimp only
        rw [if_neg (by rw [fine]; decide), List.map_cons, handledFrom]
        by_cases complete : .onMessageComplete ∈ seen ++ parsed.callbacks
        · have method : parsed.method = .httpPost := by
            apply post 0 parsed rfl
            rw [List.map_cons, List.take_succ_cons, List.take_zero, List.flatten_cons, List.flatten_nil, List.append_nil]
            exact complete
          rw [if_pos (kept'.complete.mpr complete), if_pos complete, method, serve, kept'.url, kept'.body, later]
          rfl
        · rw [if_neg (fun ended => complete (kept'.complete.mp ended)), if_neg complete, later]
          rfl

end HttpConn

/-! ## Requests and calls -/

section Stream

variable {seen part call front behind : List HttpCallback} {calls : List (List HttpCallback)}
  {requests : List PostRequest}

/-- The first end splits callbacks in one way. -/
theorem first_unique {front' behind' : List HttpCallback} (unended : .onMessageComplete ∉ front)
    (unended' : .onMessageComplete ∉ front')
    (same : front ++ HttpCallback.onMessageComplete :: behind = front' ++ HttpCallback.onMessageComplete :: behind') :
    front = front' ∧ behind = behind' := by
  induction front generalizing front' with
  | nil =>
      cases front' with
      | nil => exact ⟨rfl, List.tail_eq_of_cons_eq same⟩
      | cons first front' => exact absurd (List.head_eq_of_cons_eq same ▸ List.mem_cons_self) unended'
  | cons first front inductionHypothesis =>
      rw [List.mem_cons, not_or] at unended
      cases front' with
      | nil => exact absurd (List.head_eq_of_cons_eq same).symm unended.1
      | cons first' front' =>
          rw [List.mem_cons, not_or] at unended'
          rcases inductionHypothesis unended.2 unended'.2 (List.tail_eq_of_cons_eq same) with ⟨rfl, rest⟩
          exact ⟨congrArg (· :: front) (List.head_eq_of_cons_eq same), rest⟩

/-- A call that ends one request. -/
theorem call_split (ended : .onMessageComplete ∈ call) (oneEnd : call.count .onMessageComplete ≤ 1) :
    Exists fun front => Exists fun behind => call = front ++ .onMessageComplete :: behind ∧
      .onMessageComplete ∉ front ∧ .onMessageComplete ∉ behind := by
  rcases List.append_of_mem ended with ⟨front, behind, rfl⟩
  rw [List.count_append, List.count_cons_self] at oneEnd
  exact ⟨front, behind, rfl, List.count_eq_zero.mp (by omega), List.count_eq_zero.mp (by omega)⟩

theorem count_callbacks (request : PostRequest) : request.callbacks.count .onMessageComplete = 1 := by
  rw [PostRequest.callbacks, List.count_append, List.count_eq_zero.mpr request.whole]
  rfl

theorem count_requests (requests : List PostRequest) :
    (requests.flatMap PostRequest.callbacks).count .onMessageComplete = requests.length := by
  induction requests with
  | nil => rfl
  | cons request requests inductionHypothesis =>
      rw [List.flatMap_cons, List.count_append, count_callbacks, inductionHypothesis, List.length_cons, Nat.add_comm]

/-- There are not more requests than calls. -/
theorem requests_length (stream : part ++ calls.flatten = requests.flatMap PostRequest.callbacks)
    (unended : .onMessageComplete ∉ part) (oneEnd : forall call, call ∈ calls -> call.count .onMessageComplete ≤ 1) :
    requests.length ≤ calls.length := by
  have ends : forall calls : List (List HttpCallback),
      (forall call, call ∈ calls -> call.count .onMessageComplete ≤ 1) ->
        calls.flatten.count .onMessageComplete ≤ calls.length := by
    intro calls oneEnd
    induction calls with
    | nil => exact Nat.le_refl 0
    | cons call calls inductionHypothesis =>
        have here := oneEnd call List.mem_cons_self
        have later := inductionHypothesis fun other member => oneEnd other (List.mem_cons_of_mem call member)
        rw [List.flatten_cons, List.count_append, List.length_cons]
        omega
  have total := congrArg (List.count HttpCallback.onMessageComplete) stream
  rw [List.count_append, List.count_eq_zero.mpr unended, count_requests, Nat.zero_add] at total
  rw [← total]
  exact ends calls oneEnd

/-- The first end is that of the first request. -/
theorem first_request {rest : List HttpCallback} (unended : .onMessageComplete ∉ part) (unended' : .onMessageComplete ∉ front)
    (stream : part ++ (front ++ .onMessageComplete :: behind ++ rest) = requests.flatMap PostRequest.callbacks) :
    Exists fun request => Exists fun later => requests = request :: later ∧ part ++ front = request.reported ∧
      behind ++ rest = later.flatMap PostRequest.callbacks := by
  cases requests with
  | nil =>
      have ended := congrArg (List.count HttpCallback.onMessageComplete) stream
      rw [List.count_append, List.count_append, List.count_append, List.count_cons_self] at ended
      have none : ([] : List PostRequest).flatMap PostRequest.callbacks = [] := rfl
      rw [none, List.count_nil] at ended
      omega
  | cons request later =>
      have split : (part ++ front) ++ HttpCallback.onMessageComplete :: (behind ++ rest) =
          request.reported ++ HttpCallback.onMessageComplete :: later.flatMap PostRequest.callbacks := by
        rw [List.flatMap_cons, PostRequest.callbacks] at stream
        simp only [List.append_assoc, List.cons_append, List.nil_append] at stream ⊢
        exact stream
      have before : HttpCallback.onMessageComplete ∉ part ++ front := by
        rw [List.mem_append, not_or]
        exact ⟨unended, unended'⟩
      rcases first_unique before request.whole split with ⟨reported, rest⟩
      exact ⟨request, later, rfl, reported, rest⟩

/-- Once a request has ended, every call is answered. -/
theorem handledFrom_length (ended : .onMessageComplete ∈ seen) : (handledFrom seen calls).length = calls.length := by
  induction calls generalizing seen with
  | nil => rfl
  | cons call calls inductionHypothesis =>
      have ended' : HttpCallback.onMessageComplete ∈ seen ++ call := List.mem_append_left call ended
      rw [handledFrom, if_pos ended', List.length_append, inductionHypothesis ended', List.length_singleton,
        List.length_cons, Nat.add_comm]

/-- What is reported by the end of a call behind the first one. -/
theorem flatten_take (call : List HttpCallback) (calls : List (List HttpCallback)) (n : Nat) :
    ((call :: calls).take (n + 1)).flatten = call ++ (calls.take n).flatten := by
  rw [List.take_succ_cons, List.flatten_cons]

/-- A call that ends no request, before any has ended. -/
theorem keptApart_unended (none : .onMessageComplete ∉ call) (unended : .onMessageComplete ∉ seen) :
    KeptApart seen (call :: calls) requests ↔ KeptApart (seen ++ call) calls requests := by
  have count : forall n, ((call :: calls).take (n + 1)).flatten.count .onMessageComplete =
      (calls.take n).flatten.count .onMessageComplete := by
    intro n
    rw [flatten_take, List.count_append, List.count_eq_zero.mpr none, Nat.zero_add]
  constructor
  · intro kept
    refine ⟨?_, ?_, kept.bodies, fun other member => kept.behind other (List.mem_cons_of_mem call member)⟩
    · intro n other found ended
      rw [List.append_assoc, ← flatten_take] at ended
      exact kept.ends (n + 1) other found ended
    · intro n other request found ended asked
      rw [← count] at asked
      rw [List.append_assoc, ← flatten_take]
      exact kept.url (n + 1) other request found ended asked
  · intro kept
    refine ⟨?_, ?_, kept.bodies, ?_⟩
    · intro n other found ended
      cases n with
      | zero => exact absurd (List.append_nil seen ▸ ended) unended
      | succ n =>
          rw [flatten_take, ← List.append_assoc] at ended
          exact kept.ends n other found ended
    · intro n other request found ended asked
      cases n with
      | zero =>
          cases found
          exact absurd ended none
      | succ n =>
          rw [count] at asked
          rw [flatten_take, ← List.append_assoc]
          exact kept.url n other request found ended asked
    · intro other member front behind split
      rcases List.mem_cons.mp member with rfl | later
      · exact absurd (split ▸ List.mem_append_right front List.mem_cons_self) none
      · exact kept.behind other later front behind split

section Ended

variable {request : PostRequest} (split : call = front ++ .onMessageComplete :: behind)
  (unended : .onMessageComplete ∉ front) (unended' : .onMessageComplete ∉ behind)

include split unended unended'

theorem count_ended : call.count .onMessageComplete = 1 := by
  rw [split, List.count_append, List.count_cons_self, List.count_eq_zero.mpr unended, List.count_eq_zero.mpr unended']

/-- The requests that a later call is asked for. -/
theorem asked_ended (n : Nat) : (request :: requests)[((call :: calls).take (n + 1)).flatten.count .onMessageComplete]? =
    requests[(calls.take n).flatten.count .onMessageComplete]? := by
  rw [flatten_take, List.count_append, count_ended split unended unended', Nat.add_comm, List.getElem?_cons_succ]

/-- Behind a call that ends a request, the others are kept apart as well. -/
theorem keptApart_later (kept : KeptApart seen (call :: calls) (request :: requests)) :
    KeptApart (seen ++ call) calls requests := by
  refine ⟨?_, ?_, ?_, fun other member => kept.behind other (List.mem_cons_of_mem call member)⟩
  · intro n other found ended'
    rw [List.append_assoc, ← flatten_take] at ended'
    exact kept.ends (n + 1) other found ended'
  · intro n other request' found ended' asked'
    rw [← asked_ended split unended unended'] at asked'
    rw [List.append_assoc, ← flatten_take]
    exact kept.url (n + 1) other request' found ended' asked'
  · intro request' member
    apply kept.bodies
    rw [List.dropLast_cons_of_ne_nil (List.ne_nil_of_mem (requests.dropLast_subset member))]
    exact List.mem_cons_of_mem request member

/-- A call that ends a request. -/
theorem keptApart_ended : KeptApart seen (call :: calls) (request :: requests) ↔
    lastUrl (seen ++ call) = request.url ∧ joinedBody behind = [] ∧ (requests ≠ [] -> request.body = []) ∧
      KeptApart (seen ++ call) calls requests := by
  have ended : .onMessageComplete ∈ call := split ▸ List.mem_append_right front List.mem_cons_self
  constructor
  · intro kept
    refine ⟨?_, kept.behind call List.mem_cons_self front behind split, ?_,
      keptApart_later split unended unended' kept⟩
    · have here := kept.url 0 call request rfl ended rfl
      rw [flatten_take, List.take_zero, List.flatten_nil, List.append_nil] at here
      exact here
    · intro more
      apply kept.bodies
      rw [List.dropLast_cons_of_ne_nil more]
      exact List.mem_cons_self
  · rintro ⟨url, noBody, empty, kept⟩
    refine ⟨?_, ?_, ?_, ?_⟩
    · intro n other found ended'
      cases n with
      | zero =>
          cases found
          exact ended
      | succ n =>
          rw [flatten_take, ← List.append_assoc] at ended'
          exact kept.ends n other found ended'
    · intro n other request' found ended' asked'
      cases n with
      | zero =>
          cases found
          cases asked'
          rw [flatten_take, List.take_zero, List.flatten_nil, List.append_nil]
          exact url
      | succ n =>
          rw [asked_ended split unended unended'] at asked'
          rw [flatten_take, ← List.append_assoc]
          exact kept.url n other request' found ended' asked'
    · intro request' member
      cases requests with
      | nil => cases member
      | cons second requests =>
          rcases List.mem_cons.mp member with rfl | later
          · exact empty (List.cons_ne_nil _ _)
          · exact kept.bodies request' later
    · intro other member front' behind' split'
      rcases List.mem_cons.mp member with rfl | later
      · have unended'' : .onMessageComplete ∉ front' := by
          have one := count_ended split unended unended'
          rw [split', List.count_append, List.count_cons_self] at one
          exact List.count_eq_zero.mp (by omega)
        rw [← (first_unique unended unended'' (split.symm.trans split')).2]
        exact noBody
      · exact kept.behind other later front' behind' split'

end Ended

/-- The body of a request is added to those in front of it. -/
theorem joinedBody_callbacks (before : List HttpCallback) (request : PostRequest) :
    joinedBody (before ++ request.callbacks) = joinedBody before ++ request.body := by
  rw [joinedBody_append, PostRequest.callbacks, joinedBody_append]
  exact congrArg _ (List.append_nil request.body)

/-- The body is the one that was reported where no other was. -/
theorem joinedBody_eq_iff (before behind : List HttpCallback) (request : PostRequest) :
    joinedBody (before ++ request.callbacks ++ behind) = request.body ↔ joinedBody before = [] ∧ joinedBody behind = [] := by
  rw [joinedBody_append, joinedBody_callbacks]
  constructor
  · intro same
    have lengths := congrArg List.length same
    rw [List.length_append, List.length_append] at lengths
    exact ⟨List.length_eq_zero_iff.mp (by omega), List.length_eq_zero_iff.mp (by omega)⟩
  · rintro ⟨none, none'⟩
    rw [none, none', List.nil_append, List.append_nil]

/-- Behind some requests, the calls are answered for the others exactly where these
are kept apart from them and from one another. -/
theorem handledFrom_eq_iff {before : List HttpCallback}
    (stream : part ++ calls.flatten = requests.flatMap PostRequest.callbacks) (unended : .onMessageComplete ∉ part)
    (oneEnd : forall call, call ∈ calls -> call.count .onMessageComplete ≤ 1) :
    handledFrom (before ++ part) calls = requests.map PostRequest.handling ↔
      (requests ≠ [] -> joinedBody before = []) ∧ KeptApart (before ++ part) calls requests := by
  induction calls generalizing before part requests with
  | nil =>
      cases requests with
      | nil =>
          exact ⟨fun _ => ⟨fun some => absurd rfl some, ⟨nofun, nofun, nofun, nofun⟩⟩, fun _ => rfl⟩
      | cons request requests =>
          rw [List.flatten_nil, List.append_nil] at stream
          rw [stream, List.flatMap_cons, PostRequest.callbacks] at unended
          exact absurd (List.mem_append_left _ (List.mem_append_right _ (List.mem_singleton_self _))) unended
  | cons call calls inductionHypothesis =>
      have oneEnd' : forall other, other ∈ calls -> other.count .onMessageComplete ≤ 1 :=
        fun other member => oneEnd other (List.mem_cons_of_mem call member)
      by_cases ended : .onMessageComplete ∈ call
      · rcases call_split ended (oneEnd call List.mem_cons_self) with ⟨front, behind, split, unended', unended''⟩
        rw [split, List.flatten_cons] at stream
        rcases first_request unended unended' stream with ⟨request, later, rfl, reported, stream'⟩
        have seen : before ++ part ++ call = (before ++ request.callbacks) ++ behind := by
          rw [PostRequest.callbacks, ← reported, split]
          simp only [List.append_assoc, List.cons_append, List.nil_append]
        have rest := @inductionHypothesis behind later (before ++ request.callbacks) stream' unended'' oneEnd'
        have ended' : HttpCallback.onMessageComplete ∈ before ++ part ++ call := List.mem_append_right _ ended
        rw [handledFrom, if_pos ended', List.singleton_append, List.map_cons, List.cons.injEq, PostRequest.handling,
          HttpServerCall.onHttpPost.injEq, keptApart_ended split unended' unended'', seen, joinedBody_eq_iff, rest,
          joinedBody_callbacks]
        constructor
        · rintro ⟨⟨url, none, none'⟩, empty, kept⟩
          refine ⟨fun _ => none, url, none', ?_, kept⟩
          intro more
          have both := empty more
          rw [none, List.nil_append] at both
          exact both
        · rintro ⟨none, url, none', empty, kept⟩
          have none := none (List.cons_ne_nil _ _)
          refine ⟨⟨url, none, none'⟩, ?_, kept⟩
          intro more
          rw [none, List.nil_append]
          exact empty more
      · by_cases answered : .onMessageComplete ∈ before ++ part
        · have unended' : .onMessageComplete ∉ part ++ call := by
            rw [List.mem_append, not_or]
            exact ⟨unended, ended⟩
          rw [List.flatten_cons, ← List.append_assoc] at stream
          have few := requests_length stream unended' oneEnd'
          constructor
          · intro same
            have lengths := congrArg List.length same
            rw [handledFrom_length answered, List.length_map, List.length_cons] at lengths
            omega
          · rintro ⟨-, kept⟩
            exact absurd (kept.ends 0 call rfl (List.mem_append_left _ answered)) ended
        · have unended' : .onMessageComplete ∉ part ++ call := by
            rw [List.mem_append, not_or]
            exact ⟨unended, ended⟩
          have silent : .onMessageComplete ∉ before ++ part ++ call := by
            rw [List.mem_append, not_or]
            exact ⟨answered, ended⟩
          rw [List.flatten_cons, ← List.append_assoc] at stream
          rw [handledFrom, if_neg silent, List.nil_append, keptApart_unended ended answered, List.append_assoc]
          exact inductionHypothesis stream unended' oneEnd'

end Stream

namespace HttpParser.Parses

variable {parser : HttpParser} {chunks : List (List UInt8)} {requests : List PostRequest}

/-- Every request is handled once, in its turn and with its whole url and body,
where the requests are kept apart. -/
theorem handled_iff_keptApart (parses : parser.Parses chunks requests) :
    (HttpConn.new parser).handled chunks = requests.map PostRequest.handling ↔
      KeptApart [] (parser.calls chunks) requests := by
  have handled : (HttpConn.new parser).handled chunks = handledFrom [] (parser.calls chunks) :=
    HttpConn.handled_eq HttpConn.keeps_new parses.ok parses.post
  rw [handled]
  have both := @handledFrom_eq_iff [] (parser.calls chunks) requests [] parses.reported List.not_mem_nil parses.oneEnd
  refine both.trans ⟨fun kept => kept.2, fun kept => ⟨fun _ => rfl, kept⟩⟩

end HttpParser.Parses

/-! ## Two requests, each in a call of its own -/

/-- A request with one header, and with these fragments of a body. -/
def lengthRequest (url length : List UInt8) (bodies : List (List UInt8)) : PostRequest where
  reported := [.onMessageBegin, .onUrl url, .onHeaderField (ascii "Content-Length"), .onHeaderValue length,
    .onHeadersComplete] ++ bodies.map .onBody
  whole := by simp

/-- The bytes of such a request. -/
def postBytes (path length body : String) : List UInt8 :=
  ascii ("POST " ++ path ++ " HTTP/1.1\r\nContent-Length: " ++ length ++ "\r\n\r\n" ++ body)

/-- A parser that is given whole requests. -/
def tableParser (table : List (List UInt8 × PostRequest)) : HttpParser where
  State := Unit
  init := ()
  execute _ data :=
    ((), { callbacks := ((table.lookup data).map PostRequest.callbacks).getD [], errnoOk := true, method := .httpPost })

theorem tableParser_parsed {table : List (List UInt8 × PostRequest)} {chunks : List (List UInt8)} {parsed : HttpParsed}
    (member : parsed ∈ (tableParser table).parsed () chunks) : parsed.errnoOk = true ∧ parsed.method = .httpPost := by
  induction chunks with
  | nil => cases member
  | cons data chunks inductionHypothesis =>
      replace member : parsed ∈ if data = [] then (tableParser table).parsed () chunks
        else ((tableParser table).execute () data).2 :: (tableParser table).parsed () chunks := member
      split at member
      · exact inductionHypothesis member
      · rcases List.mem_cons.mp member with rfl | later
        · exact ⟨rfl, rfl⟩
        · exact inductionHypothesis later

theorem tableParser_parses {table : List (List UInt8 × PostRequest)} {chunks : List (List UInt8)}
    {requests : List PostRequest} (calls : (tableParser table).calls chunks = requests.map PostRequest.callbacks) :
    (tableParser table).Parses chunks requests where
  ok parsed member := (tableParser_parsed member).1
  post _ _ found _ := (tableParser_parsed (List.mem_of_getElem? found)).2
  reported := by rw [calls, List.flatMap_def]
  oneEnd call member := by
    rw [calls] at member
    rcases List.mem_map.mp member with ⟨request, -, rfl⟩
    rw [count_callbacks]

def firstBytes : List UInt8 := postBytes "/first" "0" ""

def firstRequest : PostRequest := lengthRequest (ascii "/first") (ascii "0") []

def secondBytes : List UInt8 := postBytes "/second" "2" "hi"

def secondRequest : PostRequest := lengthRequest (ascii "/second") (ascii "2") [ascii "hi"]

/-- Only the second of the requests has a body. -/
theorem handled_firstSecond :
    (HttpConn.new (tableParser [(firstBytes, firstRequest), (secondBytes, secondRequest)])).handled
        [firstBytes, secondBytes] = [firstRequest, secondRequest].map PostRequest.handling := by
  have calls : (tableParser [(firstBytes, firstRequest), (secondBytes, secondRequest)]).calls [firstBytes, secondBytes] =
      [firstRequest, secondRequest].map PostRequest.callbacks := by
    decide +kernel
  apply (HttpParser.Parses.handled_iff_keptApart (tableParser_parses calls)).mpr
  rw [calls]
  apply (keptApart_ended rfl firstRequest.whole List.not_mem_nil).mpr
  refine ⟨by decide +kernel, rfl, fun _ => rfl, ?_⟩
  apply (keptApart_ended rfl secondRequest.whole List.not_mem_nil).mpr
  exact ⟨by decide +kernel, rfl, fun more => absurd rfl more, ⟨nofun, nofun, nofun, nofun⟩⟩

/-- The body of the first request is handed over again with that of the second. -/
theorem handled_secondTwice :
    (tableParser [(secondBytes, secondRequest)]).Parses [secondBytes, secondBytes] [secondRequest, secondRequest] ∧
      (HttpConn.new (tableParser [(secondBytes, secondRequest)])).handled [secondBytes, secondBytes] ≠
        [secondRequest, secondRequest].map PostRequest.handling := by
  refine ⟨tableParser_parses (by decide +kernel), ?_⟩
  decide +kernel

end Net
end RtmpClient
