import RtmpClient.Net.StunRequest

namespace RtmpClient
namespace Net

open Library

/-!
# A STUN client and a server (`app_protocol/stun.cc`)

The datagrams between them may be lost, come late, twice or in another order,
and the address from which the server sees the client may change.  A call of
`requestStun` begins a round, in which the timer has the request sent again
until an answer comes or it has waited five times.
-/

/-- The waits behind the requests of a round, whether it was answered in time,
and whether `onStunFail` was called because it was not. -/
structure StunRound where
  waits : List Int
  answered : Bool
  timedOut : Bool
  deriving DecidableEq, Repr

/-- The waits behind the first requests of a round: each is twice the one before. -/
def backoff (count : Nat) : List Int := (List.range count).map fun tries => 500 * 2 ^ tries

theorem backoff_succ (count : Nat) : backoff (count + 1) = backoff count ++ [500 * 2 ^ count] := by
  rw [backoff, List.range_succ, List.map_append]
  rfl

/-- A round has at most five requests, and times out only behind the fifth and
without an answer. -/
def StunRound.Regular (round : StunRound) : Prop :=
  Exists fun count => count ≤ 5 ∧ round.waits = backoff count ∧
    (round.timedOut = true -> count = 5 ∧ round.answered = false)

/-- The members of both sides, all datagrams that were sent, with the address for
which an answer is meant, what was reported, the rounds, the last one first, and
the addresses in the answers that were received. -/
structure StunExchange where
  requester : StunRequester
  server : STUNServer
  requests : List (List UInt8)
  answers : List (Endpoint × List UInt8)
  reports : List StunReport
  rounds : List StunRound
  delivered : List Endpoint
  deriving DecidableEq, Repr

inductive StunEvent where
  | requestStun (rands : Nat -> Nat)
  | onTimer (rands : Nat -> Nat)
  /-- The server receives a request that was sent, and answers it. -/
  | serve (index : Nat) (endpoint : Endpoint)
  /-- The client receives an answer that was sent. -/
  | deliver (index : Nat)
  | setChangeRequest (changeValue : Int32)
  | setUseCandidate
  | clearChangeRequest
  | stopStun
  | onStopTimer

/-- The only event that may not happen twice. -/
def StunEvent.isStop : StunEvent -> Bool
  | stopStun => true
  | _ => false

namespace StunExchange

def start (username password clientId serverId : List UInt8) (stop : Bool) : StunExchange where
  requester := .new username password clientId stop
  server := { packet := .new serverId, password := password }
  requests := []
  answers := []
  reports := []
  rounds := []
  delivered := []

/-- A call of `stunCb_`, in the round that goes on. -/
def perform (exchange : StunExchange) (call : StunCall) : StunExchange :=
  match call with
  | .sendData data =>
      { exchange with
        requests := exchange.requests ++ [data]
        rounds := exchange.rounds.modifyHead fun round =>
          { round with waits := round.waits ++ [exchange.requester.initRtt] } }
  | .report report =>
      { exchange with
        reports := exchange.reports ++ [report]
        rounds := exchange.rounds.modifyHead fun round => { round with timedOut := true } }

/-- One event.  A timer that does not run, a datagram that was not sent and a
handle that does not close do nothing. -/
def step (inet : InetText) (hmac : HmacSha1) (exchange : StunExchange) : StunEvent -> Outcome StunExchange
  | .requestStun rands => do
      let (requester, call) ← exchange.requester.requestStun inet hmac rands
      return { exchange with
        requester, rounds := { waits := [], answered := false, timedOut := false } :: exchange.rounds }.perform call
  | .onTimer rands =>
      if exchange.requester.client.retryTimer then do
        let (requester, call) ← exchange.requester.onTimer inet hmac rands
        return { exchange with requester }.perform call
      else .ok exchange
  | .serve index endpoint =>
      match exchange.requests[index]? with
      | some data => do
          let server ← exchange.server.onRecvStunData inet data
          let response ← server.responseStun inet hmac (endpoint.toAddr inet)
          return { exchange with server, answers := exchange.answers ++ [(endpoint, response)] }
      | none => .ok exchange
  | .deliver index =>
      match exchange.answers[index]? with
      | some (endpoint, data) => do
          let (requester, report) ← exchange.requester.onRecvStunData inet data
          return { exchange with
            requester
            reports := exchange.reports ++ [report]
            delivered := exchange.delivered ++ [endpoint]
            rounds := exchange.rounds.modifyHead fun round => { round with answered := !round.timedOut } }
      | none => .ok exchange
  | .setChangeRequest changeValue =>
      .ok { exchange with requester := exchange.requester.setChangeRequest changeValue }
  | .setUseCandidate => .ok { exchange with requester := exchange.requester.setUseCandidate }
  | .clearChangeRequest => .ok { exchange with requester := exchange.requester.clearChangeRequest }
  | .stopStun => do
      let requester ← exchange.requester.stopStun
      return { exchange with requester }
  | .onStopTimer =>
      if exchange.requester.handle = .closing then
        let (requester, report) := exchange.requester.onStopTimer
        .ok { exchange with requester, reports := exchange.reports ++ report.toList }
      else .ok exchange

def run (inet : InetText) (hmac : HmacSha1) (exchange : StunExchange) (events : List StunEvent) :
    Outcome StunExchange :=
  events.foldlM (step inet hmac) exchange

/-! ## What holds of every run -/

def timeOuts (reports : List StunReport) : Nat := reports.count (.stunFail .stunErrorTimeOut)

def isNatMap : StunReport -> Bool
  | .stunNatMap _ _ => true
  | .stunFail _ => false

/-- What holds of an exchange at any time. -/
structure Sound (inet : InetText) (exchange : StunExchange) : Prop where
  /-- Every address that was reported is the one in the first answer that came. -/
  named : forall report, report ∈ exchange.reports -> isNatMap report = true ->
    Exists fun endpoint => exchange.delivered.head? = some endpoint ∧ report.Names inet endpoint
  /-- Every answer that came was reported. -/
  mapped : exchange.reports.countP isNatMap = exchange.delivered.length
  noServerError : .stunFail .stunErrorServer ∉ exchange.reports
  regular : forall round, round ∈ exchange.rounds -> round.Regular
  attempts : exchange.requests.length = (exchange.rounds.map fun round => round.waits.length).sum
  timedOut : timeOuts exchange.reports = exchange.rounds.countP StunRound.timedOut
  /-- Behind its end a round sends nothing. -/
  quiet : forall round, exchange.rounds.head? = some round -> round.answered = true ∨ round.timedOut = true ->
    exchange.requester.client.retryTimer = false

/-- The timer runs in this round. -/
structure Waiting (requester : StunRequester) (round : StunRound) : Prop where
  opened : requester.handle = .opened
  tries : Exists fun tries : Nat => tries < 5 ∧ requester.maxRetryNum = 5 - tries ∧
    requester.initRtt = 500 * 2 ^ tries ∧ round.waits = backoff (tries + 1)
  unanswered : round.answered = false
  running : round.timedOut = false

structure Invariant (inet : InetText) (exchange : StunExchange) : Prop extends Sound inet exchange where
  knows : exchange.requester.client.packet.Knows inet exchange.delivered.head? none
  plain : exchange.server.packet.Plain
  asked : forall data, data ∈ exchange.requests -> Exists fun tranId => StunRequester.IsRequest tranId data
  answered : forall endpoint data, (endpoint, data) ∈ exchange.answers -> IsAnswer endpoint data
  configured : StunRequester.Configured exchange.requester.attributes
  short : exchange.requester.username.length ≤ 936
  waiting : exchange.requester.client.retryTimer = true ->
    Exists fun round => exchange.rounds.head? = some round ∧ Waiting exchange.requester round
  ending : exchange.requester.handle ≠ .opened ->
    exchange.requester.stop = true ∨ 0 < exchange.requester.maxRetryNum

theorem invariant_start (inet : InetText) {username : List UInt8} (short : username.length ≤ 936)
    (password clientId serverId : List UInt8) (stop : Bool) :
    Invariant inet (start username password clientId serverId stop) where
  named := nofun
  mapped := rfl
  noServerError := nofun
  regular := nofun
  attempts := rfl
  timedOut := rfl
  quiet := nofun
  knows := knows_new inet clientId
  plain := StunMsgPacket.plain_new serverId
  asked := nofun
  answered := nofun
  configured := StunRequester.configured_empty
  short := short
  waiting := nofun
  ending := fun closes => absurd rfl closes

/-- An answer in time ends a round, and a later one changes nothing. -/
theorem regular_heard {round : StunRound} (regular : round.Regular) :
    StunRound.Regular { round with answered := !round.timedOut } := by
  rcases regular with ⟨count, few, waits, ended⟩
  refine ⟨count, few, waits, ?_⟩
  intro timedOut
  have late : round.timedOut = true := timedOut
  refine ⟨(ended late).1, ?_⟩
  dsimp only
  rw [late]
  rfl

/-- A round that waits goes on regularly. -/
theorem Waiting.regular {requester : StunRequester} {round : StunRound} (waiting : Waiting requester round) :
    round.Regular := by
  rcases waiting.tries with ⟨tries, few, -, -, waits⟩
  refine ⟨tries + 1, few, waits, ?_⟩
  rw [waiting.running]
  exact nofun

/-! ### What was reported -/

section Reports

variable {before added : List StunReport}

/-- Failures name no address. -/
theorem named_append_fails {named : StunReport -> Prop}
    (names : forall report, report ∈ before -> isNatMap report = true -> named report)
    (fails : forall report, report ∈ added -> isNatMap report = false) :
    forall report, report ∈ before ++ added -> isNatMap report = true -> named report := by
  intro report member maps
  rcases List.mem_append.mp member with earlier | later
  · exact names report earlier maps
  · exact absurd ((fails report later).symm.trans maps) Bool.false_ne_true

/-- Failures report no answer. -/
theorem mapped_append_fails (fails : forall report, report ∈ added -> isNatMap report = false) :
    (before ++ added).countP isNatMap = before.countP isNatMap := by
  have none : added.countP isNatMap = 0 := by
    rw [List.countP_eq_zero]
    intro report member maps
    exact absurd ((fails report member).symm.trans maps) Bool.false_ne_true
  rw [List.countP_append, none, Nat.add_zero]

theorem not_mem_append_fails {report : StunReport} (absent : report ∉ before) (others : report ∉ added) :
    report ∉ before ++ added := by
  intro member
  rcases List.mem_append.mp member with earlier | later
  · exact absent earlier
  · exact others later

end Reports

/-- Only the last round hears an answer. -/
theorem regular_modifyHead {rounds : List StunRound} (regular : forall round, round ∈ rounds -> round.Regular) :
    forall round, round ∈ rounds.modifyHead (fun round => { round with answered := !round.timedOut }) ->
      round.Regular := by
  cases rounds with
  | nil => exact nofun
  | cons head others =>
      rw [List.forall_mem_cons] at regular
      exact List.forall_mem_cons.mpr ⟨regular_heard regular.1, regular.2⟩

section Step

variable {inet : InetText} (hmac : HmacSha1) {exchange : StunExchange} (invariant : Invariant inet exchange)

include invariant

/-- Another request. -/
theorem asked_append {tranId data : List UInt8} (request : StunRequester.IsRequest tranId data) :
    forall other, other ∈ exchange.requests ++ [data] ->
      Exists fun tranId => StunRequester.IsRequest tranId other := by
  intro other member
  rcases List.mem_append.mp member with before | last
  · exact invariant.asked other before
  · rw [List.mem_singleton.mp last]
    exact ⟨tranId, request⟩

theorem step_requestStun (rands : Nat -> Nat) : Exists fun next =>
    exchange.step inet hmac (.requestStun rands) = .ok next ∧ Invariant inet next ∧
      next.requester.handle = exchange.requester.handle := by
  let asker : StunRequester := { exchange.requester with maxRetryNum := 5, initRtt := 500 }
  rcases @StunRequester.stunRequest_ok inet hmac asker invariant.configured invariant.short rands with
    ⟨data, requested, request⟩
  let round : StunRound := { waits := [500], answered := false, timedOut := false }
  have regular : round.Regular := ⟨1, by decide, rfl, nofun⟩
  refine ⟨{ exchange with
    requester := asker.asking rands
    requests := exchange.requests ++ [data]
    rounds := round :: exchange.rounds }, ?_, ?_, rfl⟩
  · rw [step, StunRequester.requestStun, requested]
    rfl
  · constructor
    · constructor
      · exact invariant.named
      · exact invariant.mapped
      · exact invariant.noServerError
      · exact List.forall_mem_cons.mpr ⟨regular, invariant.regular⟩
      · rw [List.length_append, List.map_cons, List.sum_cons, invariant.attempts]
        exact Nat.add_comm _ _
      · exact invariant.timedOut
      · intro found here ended
        cases here
        rcases ended with answered | timedOut
        · cases answered
        · cases timedOut
    · exact invariant.knows
    · exact invariant.plain
    · exact asked_append invariant request
    · exact invariant.answered
    · exact invariant.configured
    · exact invariant.short
    · intro runs
      exact ⟨round, rfl, of_decide_eq_true runs, ⟨0, by decide, rfl, rfl, rfl⟩, rfl, rfl⟩
    · exact fun _ => .inr (by decide : (0 : Int) < 5)

/-- The fifth wait is over: the round ends and is reported. -/
theorem step_onTimer_spent {round : StunRound} {others : List StunRound} (rounds : exchange.rounds = round :: others)
    (runs : exchange.requester.client.retryTimer = true) (waiting : Waiting exchange.requester round)
    (last : exchange.requester.maxRetryNum = 1) (rands : Nat -> Nat) : Exists fun next =>
    exchange.step inet hmac (.onTimer rands) = .ok next ∧ Invariant inet next ∧
      next.requester.handle = exchange.requester.handle := by
  rcases waiting.tries with ⟨tries, few, left, wait, waits⟩
  have four : tries = 4 := by omega
  have spent : exchange.requester.maxRetryNum - 1 ≤ 0 := by omega
  have regular := invariant.regular
  rw [rounds, List.forall_mem_cons] at regular
  have attempts := invariant.attempts
  rw [rounds, List.map_cons, List.sum_cons] at attempts
  have timedOut := invariant.timedOut
  rw [rounds, List.countP_cons, waiting.running] at timedOut
  have ended : StunRound.Regular { round with timedOut := true } := by
    refine ⟨5, by decide, ?_, fun _ => ⟨rfl, waiting.unanswered⟩⟩
    rw [waits, four]
  have noMap : forall report, report ∈ [StunReport.stunFail .stunErrorTimeOut] -> isNatMap report = false :=
    List.forall_mem_singleton.mpr rfl
  refine ⟨{ exchange with
    requester := { exchange.requester with
      client := { exchange.requester.client with retryTimer := false }
      maxRetryNum := exchange.requester.maxRetryNum - 1 }
    reports := exchange.reports ++ [.stunFail .stunErrorTimeOut]
    rounds := { round with timedOut := true } :: others }, ?_, ?_, rfl⟩
  · rw [step, if_pos runs, StunRequester.onTimer, StunRequester.startRetransmit]
    dsimp only
    rw [if_pos spent, Outcome.ok_bind_do, perform, rounds]
    rfl
  · exact { invariant with
      named := named_append_fails invariant.named noMap
      mapped := (mapped_append_fails noMap).trans invariant.mapped
      noServerError := not_mem_append_fails invariant.noServerError (by decide)
      regular := List.forall_mem_cons.mpr ⟨ended, regular.2⟩
      attempts := by
        rw [List.map_cons, List.sum_cons]
        exact attempts
      timedOut := by
        rw [timeOuts, List.count_append, List.countP_cons]
        exact congrArg (· + 1) timedOut
      quiet := fun _ _ _ => rfl
      waiting := nofun
      ending := fun closes => absurd waiting.opened closes }

/-- An earlier wait is over: the request is sent again, behind a wait twice as
long. -/
theorem step_onTimer_again {round : StunRound} {others : List StunRound} (rounds : exchange.rounds = round :: others)
    (runs : exchange.requester.client.retryTimer = true) (waiting : Waiting exchange.requester round)
    (earlier : exchange.requester.maxRetryNum ≠ 1) (rands : Nat -> Nat) : Exists fun next =>
    exchange.step inet hmac (.onTimer rands) = .ok next ∧ Invariant inet next ∧
      next.requester.handle = exchange.requester.handle := by
  rcases waiting.tries with ⟨tries, few, left, wait, waits⟩
  have more : ¬ exchange.requester.maxRetryNum - 1 ≤ 0 := by omega
  have wait' : exchange.requester.initRtt * 2 = 500 * 2 ^ (tries + 1) := by
    rw [wait, pow_succ, Int.mul_assoc]
  have waits' : round.waits ++ [exchange.requester.initRtt * 2] = backoff (tries + 2) := by
    rw [backoff_succ, waits, wait']
  have regular := invariant.regular
  rw [rounds, List.forall_mem_cons] at regular
  have attempts := invariant.attempts
  rw [rounds, List.map_cons, List.sum_cons] at attempts
  have timedOut := invariant.timedOut
  rw [rounds, List.countP_cons, waiting.running] at timedOut
  let asker : StunRequester := { exchange.requester with
    client := { exchange.requester.client with retryTimer := false }
    maxRetryNum := exchange.requester.maxRetryNum - 1
    initRtt := exchange.requester.initRtt * 2 }
  have further : Waiting (asker.asking rands)
      { round with waits := round.waits ++ [exchange.requester.initRtt * 2] } :=
    ⟨waiting.opened,
      ⟨tries + 1, by omega, by show exchange.requester.maxRetryNum - 1 = _; omega, wait', waits'⟩,
      waiting.unanswered, waiting.running⟩
  rcases @StunRequester.stunRequest_ok inet hmac asker invariant.configured invariant.short rands with
    ⟨data, requested, request⟩
  refine ⟨{ exchange with
    requester := asker.asking rands
    requests := exchange.requests ++ [data]
    rounds := { round with waits := round.waits ++ [exchange.requester.initRtt * 2] } :: others }, ?_, ?_, rfl⟩
  · rw [step, if_pos runs, StunRequester.onTimer, StunRequester.startRetransmit]
    dsimp only
    rw [if_neg more, requested, Outcome.ok_bind_do, perform, rounds]
    rfl
  · exact { invariant with
      regular := List.forall_mem_cons.mpr ⟨further.regular, regular.2⟩
      attempts := by
        rw [List.length_append, List.map_cons, List.sum_cons, List.length_append, attempts, Nat.add_right_comm]
        rfl
      timedOut := by
        rw [List.countP_cons]
        dsimp only
        rw [waiting.running]
        exact timedOut
      quiet := by
        intro found first ended
        cases first
        rcases ended with answered | timedOut'
        · exact absurd (waiting.unanswered.symm.trans answered) Bool.false_ne_true
        · exact absurd (waiting.running.symm.trans timedOut') Bool.false_ne_true
      knows := invariant.knows
      asked := asked_append invariant request
      configured := invariant.configured
      short := invariant.short
      waiting := fun _ => ⟨_, rfl, further⟩
      ending := fun closes => absurd waiting.opened closes }

/-- The timer fires: another request, or the end of the round. -/
theorem step_onTimer (rands : Nat -> Nat) : Exists fun next =>
    exchange.step inet hmac (.onTimer rands) = .ok next ∧ Invariant inet next ∧
      next.requester.handle = exchange.requester.handle := by
  by_cases runs : exchange.requester.client.retryTimer = true
  · rcases invariant.waiting runs with ⟨round, here, waiting⟩
    rcases List.head?_eq_some_iff.mp here with ⟨others, rounds⟩
    by_cases last : exchange.requester.maxRetryNum = 1
    · exact step_onTimer_spent hmac invariant rounds runs waiting last rands
    · exact step_onTimer_again hmac invariant rounds runs waiting last rands
  · refine ⟨exchange, ?_, invariant, rfl⟩
    rw [step, if_neg runs]

/-- The server answers. -/
theorem step_serve (index : Nat) (endpoint : Endpoint) : Exists fun next =>
    exchange.step inet hmac (.serve index endpoint) = .ok next ∧ Invariant inet next ∧
      next.requester.handle = exchange.requester.handle := by
  cases found : exchange.requests[index]? with
  | none =>
      refine ⟨exchange, ?_, invariant, rfl⟩
      simp only [step, found]
  | some data =>
      rcases invariant.asked data (List.mem_of_getElem? found) with ⟨tranId, request⟩
      rcases decode_request inet invariant.plain request with ⟨received, decoded, plain, id⟩
      have twelve : received.stunTranId.length = 12 := by
        rw [id]
        exact request.1
      rcases @responseStun_eq inet hmac { exchange.server with packet := received } plain twelve endpoint with
        ⟨digest, crc32, answered⟩
      refine ⟨{ exchange with
        server := { exchange.server with packet := received }
        answers := exchange.answers ++
          [(endpoint, (answer ⟨received.stunTranId, twelve⟩ endpoint).message digest crc32)] }, ?_, ?_, rfl⟩
      · simp only [step, found, STUNServer.onRecvStunData, decoded, Outcome.ok_bind_do]
        rw [Outcome.pure_eq, Outcome.ok_bind_do, answered]
        rfl
      · exact { invariant with
          plain := plain
          answered := by
            intro other bytes member
            rcases List.mem_append.mp member with before | last
            · exact invariant.answered other bytes before
            · cases List.mem_singleton.mp last
              exact ⟨_, digest, crc32, rfl⟩ }

/-- The client hears an answer: the round is over. -/
theorem step_deliver (index : Nat) : Exists fun next =>
    exchange.step inet hmac (.deliver index) = .ok next ∧ Invariant inet next ∧
      next.requester.handle = exchange.requester.handle := by
  cases found : exchange.answers[index]? with
  | none =>
      refine ⟨exchange, ?_, invariant, rfl⟩
      simp only [step, found]
  | some sent =>
      rcases sent with ⟨endpoint, data⟩
      have answered := invariant.answered endpoint data (List.mem_of_getElem? found)
      rcases onRecvStunData_answer inet invariant.knows answered with ⟨client, report, heard, knows, names, stopped⟩
      have first : (exchange.delivered ++ [endpoint]).head? = some (exchange.delivered.head?.getD endpoint) := by
        rw [List.head?_append]
        cases exchange.delivered.head? <;> rfl
      have mapped : isNatMap report = true := by
        rcases names with ⟨changeAddr, rfl⟩
        rfl
      refine ⟨{ exchange with
        requester := { exchange.requester with client }
        reports := exchange.reports ++ [report]
        delivered := exchange.delivered ++ [endpoint]
        rounds := exchange.rounds.modifyHead fun round => { round with answered := !round.timedOut } }, ?_, ?_, rfl⟩
      · simp only [step, found, StunRequester.onRecvStunData, heard, Outcome.ok_bind_do]
        rfl
      · exact { invariant with
          named := by
            intro other member maps
            rcases List.mem_append.mp member with before | added
            · rcases invariant.named other before maps with ⟨earlier, head, names'⟩
              refine ⟨earlier, ?_, names'⟩
              rw [first, head]
              rfl
            · rw [List.mem_singleton.mp added]
              exact ⟨_, first, names⟩
          mapped := by
            rw [List.countP_append, invariant.mapped, List.length_append, List.countP_singleton, mapped]
            rfl
          noServerError := by
            apply not_mem_append_fails invariant.noServerError
            intro member
            rw [← List.mem_singleton.mp member] at mapped
            cases mapped
          regular := regular_modifyHead invariant.regular
          attempts := by
            rw [invariant.attempts]
            cases exchange.rounds <;> rfl
          timedOut := by
            have none : timeOuts [report] = 0 := by
              rcases names with ⟨changeAddr, rfl⟩
              rfl
            have before := invariant.timedOut
            rw [timeOuts] at none before ⊢
            rw [List.count_append, none, Nat.add_zero, before]
            cases exchange.rounds <;> rfl
          quiet := fun _ _ _ => stopped
          knows := by
            rw [first]
            exact knows
          waiting := fun runs => absurd (stopped.symm.trans runs) Bool.false_ne_true
          ending := invariant.ending }

/-- The calls that only choose attributes. -/
theorem step_configured {attributes : OrderedMap UInt16 (List UInt8)}
    (configured : StunRequester.Configured attributes) :
    Invariant inet { exchange with requester := { exchange.requester with attributes } } :=
  { invariant with
    configured := configured
    waiting := by
      intro runs
      rcases invariant.waiting runs with ⟨round, here, waiting⟩
      exact ⟨round, here, waiting.opened, waiting.tries, waiting.unanswered, waiting.running⟩ }

/-- The client is stopped, for the first time. -/
theorem step_stopStun (opened : exchange.requester.handle = .opened) : Exists fun next =>
    exchange.step inet hmac .stopStun = .ok next ∧ Invariant inet next := by
  refine ⟨{ exchange with
    requester := { exchange.requester with
      stop := true
      handle := .closing
      client := { exchange.requester.client with retryTimer := false } } }, ?_, ?_⟩
  · rw [step, StunRequester.stopStun, if_pos opened]
    rfl
  · exact { invariant with
      quiet := fun _ _ _ => rfl
      waiting := nofun
      ending := fun _ => .inl rfl }

/-- The handle is closed: the client reports that it was stopped, unless it has
begun another round since.  It never reports a time-out here. -/
theorem step_onStopTimer : Exists fun next =>
    exchange.step inet hmac .onStopTimer = .ok next ∧ Invariant inet next ∧
      (exchange.requester.handle = .opened -> next.requester.handle = .opened) := by
  by_cases closing : exchange.requester.handle = .closing
  · have notOpened : exchange.requester.handle ≠ .opened := by
      rw [closing]
      exact nofun
    have closes : Exists fun report : Option StunReport => exchange.requester.onStopTimer.2 = report ∧
        (report = none ∨ report = some (.stunFail .stunErrorCancel)) := by
      rw [StunRequester.onStopTimer]
      dsimp only
      rcases invariant.ending notOpened with stopped | left
      · rw [if_pos stopped]
        exact ⟨_, rfl, .inr rfl⟩
      · by_cases stopped : exchange.requester.stop = true
        · rw [if_pos stopped]
          exact ⟨_, rfl, .inr rfl⟩
        · rw [if_neg stopped, if_neg (not_le.mpr left)]
          exact ⟨_, rfl, .inl rfl⟩
    rcases closes with ⟨report, returns, either⟩
    have quietly : forall other, other ∈ report.toList -> other = .stunFail .stunErrorCancel := by
      rcases either with rfl | rfl
      · exact nofun
      · exact fun other member => List.mem_singleton.mp member
    have fails : forall other, other ∈ report.toList -> isNatMap other = false := by
      intro other member
      rw [quietly other member]
      rfl
    have noTimeOut : timeOuts report.toList = 0 := by
      rcases either with rfl | rfl
      · rfl
      · rfl
    refine ⟨{ exchange with
      requester := { exchange.requester with handle := .closed }, reports := exchange.reports ++ report.toList },
      ?_, ?_, fun opened => absurd opened notOpened⟩
    · rw [step, if_pos closing, ← returns]
      rfl
    · exact { invariant with
        named := named_append_fails invariant.named fails
        mapped := (mapped_append_fails fails).trans invariant.mapped
        noServerError := by
          apply not_mem_append_fails invariant.noServerError
          intro member
          cases quietly _ member
        timedOut := by
          have before := invariant.timedOut
          rw [timeOuts] at noTimeOut before ⊢
          rw [List.count_append, noTimeOut]
          exact before
        waiting := by
          intro runs
          rcases invariant.waiting runs with ⟨round, -, waiting⟩
          exact absurd waiting.opened notOpened
        ending := fun _ => invariant.ending notOpened }
  · refine ⟨exchange, ?_, invariant, id⟩
    rw [step, if_neg closing]

/-- Every event keeps the invariant, and only a stop closes the handle. -/
theorem step_invariant {event : StunEvent} (allowed : event.isStop = true -> exchange.requester.handle = .opened) :
    Exists fun next => exchange.step inet hmac event = .ok next ∧ Invariant inet next ∧
      (event.isStop = false -> exchange.requester.handle = .opened -> next.requester.handle = .opened) := by
  cases event with
  | requestStun rands =>
      rcases step_requestStun hmac invariant rands with ⟨next, stepped, invariant', handle⟩
      exact ⟨next, stepped, invariant', fun _ opened => handle.trans opened⟩
  | onTimer rands =>
      rcases step_onTimer hmac invariant rands with ⟨next, stepped, invariant', handle⟩
      exact ⟨next, stepped, invariant', fun _ opened => handle.trans opened⟩
  | serve index endpoint =>
      rcases step_serve hmac invariant index endpoint with ⟨next, stepped, invariant', handle⟩
      exact ⟨next, stepped, invariant', fun _ opened => handle.trans opened⟩
  | deliver index =>
      rcases step_deliver hmac invariant index with ⟨next, stepped, invariant', handle⟩
      exact ⟨next, stepped, invariant', fun _ opened => handle.trans opened⟩
  | setChangeRequest changeValue =>
      have configured := StunRequester.configured_change invariant.configured changeValue
      exact ⟨_, rfl, step_configured invariant configured, fun _ opened => opened⟩
  | setUseCandidate =>
      have configured := StunRequester.configured_candidate invariant.configured
      exact ⟨_, rfl, step_configured invariant configured, fun _ opened => opened⟩
  | clearChangeRequest =>
      exact ⟨_, rfl, step_configured invariant StunRequester.configured_empty, fun _ opened => opened⟩
  | stopStun =>
      rcases step_stopStun hmac invariant (allowed rfl) with ⟨next, stepped, invariant'⟩
      exact ⟨next, stepped, invariant', nofun⟩
  | onStopTimer =>
      rcases step_onStopTimer hmac invariant with ⟨next, stepped, invariant', handle⟩
      exact ⟨next, stepped, invariant', fun _ => handle⟩

/-- Events one after the other, of which at most one stops the client. -/
theorem run_invariant {events : List StunEvent}
    (once : exchange.requester.handle = .opened ∧ events.countP StunEvent.isStop ≤ 1 ∨
      events.countP StunEvent.isStop = 0) :
    Exists fun last => exchange.run inet hmac events = .ok last ∧ Invariant inet last := by
  induction events generalizing exchange with
  | nil => exact ⟨exchange, rfl, invariant⟩
  | cons event events inductionHypothesis =>
      rw [List.countP_cons] at once
      have allowed : event.isStop = true -> exchange.requester.handle = .opened := by
        intro stops
        rcases once with ⟨opened, -⟩ | none
        · exact opened
        · rw [if_pos stops] at none
          cases none
      rcases step_invariant hmac invariant allowed with ⟨next, stepped, invariant', stays⟩
      have once' : next.requester.handle = .opened ∧ events.countP StunEvent.isStop ≤ 1 ∨
          events.countP StunEvent.isStop = 0 := by
        cases stops : event.isStop with
        | true =>
            rw [if_pos stops] at once
            omega
        | false =>
            rw [if_neg (by rw [stops]; exact Bool.false_ne_true)] at once
            exact once.imp (fun both => ⟨stays stops both.1, both.2⟩) id
      rcases inductionHypothesis invariant' once' with ⟨last, ran, invariant''⟩
      refine ⟨last, ?_, invariant''⟩
      rw [run, List.foldlM_cons, stepped]
      exact ran

end Step

/-- However datagrams are lost, doubled and held up, and whenever the client is
asked for a round, is stopped or its timer fires: no call goes wrong, a round
has at most five requests, each behind a wait twice as long as the one before,
sends nothing behind its end and times out only behind the fifth and without an
answer in time, and every address that is reported is the one in the first
answer that came. -/
theorem exchange_sound (inet : InetText) (hmac : HmacSha1) {username : List UInt8} (short : username.length ≤ 936)
    (password clientId serverId : List UInt8) (stop : Bool) {events : List StunEvent}
    (once : events.countP StunEvent.isStop ≤ 1) : Exists fun last =>
      (start username password clientId serverId stop).run inet hmac events = .ok last ∧ Sound inet last := by
  rcases run_invariant hmac (invariant_start inet short password clientId serverId stop) (.inl ⟨rfl, once⟩) with
    ⟨last, ran, invariant⟩
  exact ⟨last, ran, invariant.toSound⟩

/-- A request that is lost, one that is answered twice, and a stop. -/
theorem exchange_sound_retried : Exists fun last =>
    (start (ascii "user") (ascii "secret") [] [] true).run dottedInet BindResponse.smallDigest
        [.requestStun fun _ => 7, .onTimer fun _ => 8, .serve 1 { addr := 0x0100007f, port := 3478 },
          .serve 1 { addr := 0x0100007f, port := 3479 }, .deliver 1, .deliver 0, .stopStun, .onStopTimer] = .ok last ∧
      Sound dottedInet last :=
  exchange_sound dottedInet BindResponse.smallDigest (by decide) (ascii "secret") [] [] true (by decide)

end StunExchange

end Net
end RtmpClient
