import RtmpClient.Library.Incremental
import RtmpClient.Net.DataBuf
import RtmpClient.Rtmp.Retry

namespace RtmpClient
namespace Client

open Library Net Rtmp

universe u v

/-!
# The receive loop of the client (`rtmpclient.cc`, `processData`)

After the handshake every read of the socket goes through `processData`: the
bytes join the cache, and `recvRtmpMessage` runs on the whole cache until it
fails or the cache is empty.  Decoding a completed body and acting on the packet
are two functions the loop calls; the results hold for all of them, also where a
decoder does not return.
-/

/-- The client as far as the receive loop goes.  `rest` is what its packet
handling reads and writes besides the transport. -/
structure RtmpClientState (κ : Type u) where
  dataCache : DataCacheBuf
  rtmpTransport : RtmpMessageTransport
  rest : κ

/-- One successful `recvRtmpMessage` of the loop. -/
structure RecvEvent (π : Type v) where
  consumed : Nat
  packet : Option π
  deriving DecidableEq, Repr

section Loop

variable {κ : Type u} {π : Type v}
variable (decodeMsg : RtmpMessage -> RequestsMap -> Option (Option π))
variable (handlePacket : κ -> RtmpMessageTransport -> π -> κ × RtmpMessageTransport)

/-- What the loop does with the packet of a successful call. -/
def afterPacket (rest : κ) (transport : RtmpMessageTransport) (packet : Option π) :
    κ × RtmpMessageTransport :=
  match packet with
  | some packet => handlePacket rest transport packet
  | none => (rest, transport)

/-- The loop of `processData`.  `fuel` bounds its iterations. -/
def processLoop : (fuel : Nat) -> RtmpClientState κ -> Option (RtmpClientState κ × List (RecvEvent π))
  | 0, client => some (client, [])
  | fuel + 1, client =>
      if client.dataCache.len > 0 then
        match recvRtmpMessage decodeMsg client.rtmpTransport client.dataCache.bytes with
        | none => none
        | some result =>
            if result.ret < 0 then some ({ client with rtmpTransport := result.transport }, [])
            else
              let handled := afterPacket handlePacket client.rest result.transport result.packet
              (processLoop fuel
                { dataCache := client.dataCache.popData result.ret.toNat
                  rtmpTransport := handled.2
                  rest := handled.1 }).map
                (fun next => (next.1, { consumed := result.ret.toNat, packet := result.packet } :: next.2))
      else some (client, [])

/-- `processData`.  An iteration that does not return consumes at least a byte,
so one iteration for each cached byte is enough. -/
def processData (client : RtmpClientState κ) (data : List UInt8) :
    Option (RtmpClientState κ × List (RecvEvent π)) :=
  let cached := { client with dataCache := client.dataCache.pushData data }
  processLoop decodeMsg handlePacket cached.dataCache.len cached

/-- `processData` on one read after the other. -/
def processAll (client : RtmpClientState κ) : List (List UInt8) ->
    Option (RtmpClientState κ × List (RecvEvent π))
  | [] => some (client, [])
  | data :: reads =>
      (processData decodeMsg handlePacket client data).bind fun first =>
        (processAll first.1 reads).map fun next => (next.1, first.2 ++ next.2)

/-! ## The loop is an incremental consumer -/

/-- The client without its cache. -/
structure Consumer (κ : Type u) where
  rtmpTransport : RtmpMessageTransport
  rest : κ

/-- One iteration as an attempt on the cached bytes. -/
def attempt (state : Consumer κ) (data : List UInt8) : Option (Attempt (Consumer κ) (RecvEvent π)) :=
  (recvRtmpMessage decodeMsg state.rtmpTransport data).map fun result =>
    if result.ret < 0 then .wait { state with rtmpTransport := result.transport }
    else
      let handled := afterPacket handlePacket state.rest result.transport result.packet
      .take result.ret.toNat { rtmpTransport := handled.2, rest := handled.1 }
        { consumed := result.ret.toNat, packet := result.packet }

variable {decodeMsg handlePacket}

theorem attempt_take {state after : Consumer κ} {data : List UInt8} {count : Nat} {event : RecvEvent π}
    (taken : attempt decodeMsg handlePacket state data = some (.take count after event)) :
    Exists fun result =>
      recvRtmpMessage decodeMsg state.rtmpTransport data = some result ∧ 0 ≤ result.ret ∧
        count = result.ret.toNat := by
  rcases Option.map_eq_some_iff.mp taken with ⟨result, call, shape⟩
  by_cases failed : result.ret < 0
  · simp only [failed, if_true, reduceCtorEq] at shape
  · simp only [failed, if_false, Attempt.take.injEq] at shape
    exact ⟨result, call, Int.not_lt.mp failed, shape.1.symm⟩

theorem attempt_wait {state after : Consumer κ} {data : List UInt8}
    (waited : attempt decodeMsg handlePacket state data = some (.wait after)) :
    Exists fun result =>
      recvRtmpMessage decodeMsg state.rtmpTransport data = some result ∧ result.ret < 0 ∧
        after = { state with rtmpTransport := result.transport } := by
  rcases Option.map_eq_some_iff.mp waited with ⟨result, call, shape⟩
  by_cases failed : result.ret < 0
  · simp only [failed, if_true, Attempt.wait.injEq] at shape
    exact ⟨result, call, failed, shape.symm⟩
  · simp only [failed, if_false, reduceCtorEq] at shape

variable (decodeMsg handlePacket)

/-- The receive loop satisfies the laws of a consumer: the retry law is the one
of `recvRtmpMessage`. -/
def consumer : Incremental (Consumer κ) UInt8 (RecvEvent π) where
  attempt := attempt decodeMsg handlePacket
  take_bounds := by
    intro state data count after event taken
    rcases attempt_take taken with ⟨result, call, success, counted⟩
    have bounds := recvRtmpMessage_bounds call success
    omega
  take_append := by
    intro state data count after event taken more
    rcases attempt_take taken with ⟨result, call, success, counted⟩
    have bounds := recvRtmpMessage_bounds call success
    have nonempty : data ≠ [] := by
      intro empty
      rw [empty, List.length_nil] at bounds
      omega
    have settled : forall other,
        recvRtmpMessage decodeMsg state.rtmpTransport data = some other -> 0 ≤ other.ret := by
      intro other found
      rw [call, Option.some.injEq] at found
      rw [← found]
      exact success
    rw [← taken, attempt, attempt, recvRtmpMessage_append nonempty settled more]
  wait_retry := by
    intro state data after waited more
    rcases attempt_wait waited with ⟨result, call, failed, same⟩
    rw [same, attempt, attempt, recvRtmpMessage_retry call failed more]
  fault_append := by
    intro state data nonempty faulted more
    have fault : recvRtmpMessage decodeMsg state.rtmpTransport data = none := Option.map_eq_none_iff.mp faulted
    have settled : forall other,
        recvRtmpMessage decodeMsg state.rtmpTransport data = some other -> 0 ≤ other.ret := by
      intro other found
      rw [fault] at found
      cases found
    rw [← faulted, attempt, attempt, recvRtmpMessage_append nonempty settled more]

/-- What the loop leaves, without the spare room of the cache: the transport,
the rest of the client, the bytes still cached, and the successful calls. -/
def observe (left : RtmpClientState κ × List (RecvEvent π)) : Run (Consumer κ) UInt8 (RecvEvent π) where
  state := { rtmpTransport := left.1.rtmpTransport, rest := left.1.rest }
  leftover := left.1.dataCache.bytes
  events := left.2

theorem processLoop_observe (fuel : Nat) (client : RtmpClientState κ) :
    (processLoop decodeMsg handlePacket fuel client).map observe =
      (consumer decodeMsg handlePacket).drainLoop fuel
        { rtmpTransport := client.rtmpTransport, rest := client.rest } client.dataCache.bytes := by
  induction fuel generalizing client with
  | zero => rfl
  | succ fuel inductionHypothesis =>
      unfold processLoop Incremental.drainLoop
      by_cases empty : client.dataCache.bytes.length = 0
      · have notPositive : ¬ client.dataCache.len > 0 := Nat.not_lt.mpr (Nat.le_of_eq empty)
        rw [if_neg notPositive, if_pos empty]
        simp only [Option.map_some, observe, List.eq_nil_of_length_eq_zero empty]
      · have positive : client.dataCache.len > 0 := Nat.pos_of_ne_zero empty
        have attempts : forall state data, (consumer decodeMsg handlePacket).attempt state data =
            attempt decodeMsg handlePacket state data := fun _ _ => rfl
        rw [if_pos positive, if_neg empty, attempts, attempt]
        cases recvRtmpMessage decodeMsg client.rtmpTransport client.dataCache.bytes with
        | none => rfl
        | some result =>
            by_cases failed : result.ret < 0
            · simp only [failed, if_true, Option.map_some]
              rfl
            · simp only [failed, if_false, Option.map_some]
              have rest := inductionHypothesis
                { dataCache := client.dataCache.popData result.ret.toNat
                  rtmpTransport := (afterPacket handlePacket client.rest result.transport result.packet).2
                  rest := (afterPacket handlePacket client.rest result.transport result.packet).1 }
              rw [Option.map_map]
              refine Eq.trans ?_ (congrArg (Option.map (Run.after
                [{ consumed := result.ret.toNat, packet := result.packet }])) rest)
              rw [Option.map_map]
              rfl

/-- `processData` feeds the consumer. -/
theorem processData_observe (client : RtmpClientState κ) (data : List UInt8) :
    (processData decodeMsg handlePacket client data).map observe =
      (consumer decodeMsg handlePacket).feed (observe (client, [])) data := by
  unfold processData
  rw [processLoop_observe]
  simp only [DataCacheBuf.len, DataCacheBuf.pushData_bytes]
  exact (Option.map_id_apply).symm

theorem processAll_observe (client : RtmpClientState κ) (reads : List (List UInt8)) :
    (processAll decodeMsg handlePacket client reads).map observe =
      (consumer decodeMsg handlePacket).feedAll (observe (client, [])) reads := by
  induction reads generalizing client with
  | nil => rfl
  | cons data reads inductionHypothesis =>
      have first := processData_observe decodeMsg handlePacket client data
      rw [processAll, Incremental.feedAll, ← first]
      cases processData decodeMsg handlePacket client data with
      | none => rfl
      | some next =>
          rcases next with ⟨after, events⟩
          have shape : observe (after, events) = (observe (after, ([] : List (RecvEvent π)))).after events := by
            simp only [observe, Run.after, List.append_nil]
          rw [Option.bind_some, Option.map_some, Option.bind_some, shape, Incremental.feedAll_after,
            ← inductionHypothesis after, Option.map_map, Option.map_map]
          rfl

/-! ## Rules for the loop -/

/-- The client after a call that took bytes. -/
def RtmpClientState.taken (client : RtmpClientState κ) (result : RecvCall π) : RtmpClientState κ :=
  let handled := afterPacket handlePacket client.rest result.transport result.packet
  { dataCache := client.dataCache.popData result.ret.toNat
    rtmpTransport := handled.2
    rest := handled.1 }

/-- What an iteration finds: nothing cached, a call that fails, or one that takes
bytes, with the rest of the loop behind it. -/
theorem processLoop_cases {fuel : Nat} {client after : RtmpClientState κ} {events : List (RecvEvent π)}
    (ran : processLoop decodeMsg handlePacket (fuel + 1) client = some (after, events)) :
    client.dataCache.bytes = [] ∧ after = client ∧ events = [] ∨
    (Exists fun result => recvRtmpMessage decodeMsg client.rtmpTransport client.dataCache.bytes = some result ∧
      result.ret < 0 ∧ after = { client with rtmpTransport := result.transport } ∧ events = []) ∨
    Exists fun result => Exists fun later =>
      recvRtmpMessage decodeMsg client.rtmpTransport client.dataCache.bytes = some result ∧ 0 ≤ result.ret ∧
        processLoop decodeMsg handlePacket fuel (client.taken handlePacket result) =
          some (after, later) ∧
        events = { consumed := result.ret.toNat, packet := result.packet } :: later := by
  rw [processLoop] at ran
  by_cases more : client.dataCache.len > 0
  · rw [if_pos more] at ran
    cases call : recvRtmpMessage decodeMsg client.rtmpTransport client.dataCache.bytes with
    | none =>
        simp only [call, reduceCtorEq] at ran
    | some result =>
        simp only [call] at ran
        by_cases negative : result.ret < 0
        · rw [if_pos negative, Option.some.injEq, Prod.mk.injEq] at ran
          exact Or.inr (Or.inl ⟨result, rfl, negative, ran.1.symm, ran.2.symm⟩)
        · rw [if_neg negative] at ran
          rcases Option.map_eq_some_iff.mp ran with ⟨⟨next, later⟩, rest, shape⟩
          have same : next = after := congrArg Prod.fst shape
          rw [same] at rest
          exact Or.inr (Or.inr ⟨result, later, rfl, Int.not_lt.mp negative, rest, (congrArg Prod.snd shape).symm⟩)
  · rw [if_neg more, Option.some.injEq, Prod.mk.injEq] at ran
    exact Or.inl ⟨List.eq_nil_of_length_eq_zero (Nat.eq_zero_of_not_pos more), ran.1.symm, ran.2.symm⟩

/-- A call that takes bytes leaves fewer. -/
theorem RtmpClientState.taken_len (client : RtmpClientState κ) {result : RecvCall π}
    (call : recvRtmpMessage decodeMsg client.rtmpTransport client.dataCache.bytes = some result)
    (positive : 0 ≤ result.ret) :
    1 ≤ result.ret.toNat ∧ result.ret.toNat ≤ client.dataCache.len ∧
      (client.taken handlePacket result).dataCache.len = client.dataCache.len - result.ret.toNat := by
  have bounds := recvRtmpMessage_bounds call positive
  have inside : result.ret.toNat ≤ client.dataCache.bytes.length := by omega
  exact ⟨by omega, inside, List.length_drop⟩

/-- What every iteration keeps, whether its call succeeds or fails, the loop
keeps. -/
theorem processLoop_invariant {invariant : Consumer κ -> Prop}
    (failed : forall state data result, invariant state ->
      recvRtmpMessage decodeMsg state.rtmpTransport data = some result -> result.ret < 0 ->
      invariant { state with rtmpTransport := result.transport })
    (taken : forall state data result, invariant state ->
      recvRtmpMessage decodeMsg state.rtmpTransport data = some result -> 0 ≤ result.ret ->
      let handled := afterPacket handlePacket state.rest result.transport result.packet
      invariant { rtmpTransport := handled.2, rest := handled.1 })
    {fuel : Nat} {client after : RtmpClientState κ} {events : List (RecvEvent π)}
    (initially : invariant { rtmpTransport := client.rtmpTransport, rest := client.rest })
    (ran : processLoop decodeMsg handlePacket fuel client = some (after, events)) :
    invariant { rtmpTransport := after.rtmpTransport, rest := after.rest } := by
  induction fuel generalizing client events with
  | zero =>
      rw [processLoop, Option.some.injEq, Prod.mk.injEq] at ran
      rw [← ran.1]
      exact initially
  | succ fuel inductionHypothesis =>
      rcases processLoop_cases decodeMsg handlePacket ran with
        ⟨_, same, _⟩ | ⟨result, call, negative, same, _⟩ | ⟨result, later, call, positive, rest, _⟩
      · rw [same]
        exact initially
      · rw [same]
        exact failed _ _ _ initially call negative
      · exact inductionHypothesis (taken _ _ _ initially call positive) rest

/-- The loop ends when nothing is cached, or with a call that failed and would
fail again. -/
theorem processLoop_settled {fuel : Nat} {client after : RtmpClientState κ} {events : List (RecvEvent π)}
    (enough : client.dataCache.len ≤ fuel)
    (ran : processLoop decodeMsg handlePacket fuel client = some (after, events)) :
    after.dataCache.bytes = [] ∨ Exists fun result =>
      recvRtmpMessage decodeMsg after.rtmpTransport after.dataCache.bytes = some result ∧ result.ret < 0 := by
  induction fuel generalizing client events with
  | zero =>
      rw [processLoop, Option.some.injEq, Prod.mk.injEq] at ran
      rw [← ran.1]
      exact Or.inl (List.eq_nil_of_length_eq_zero (Nat.eq_zero_of_le_zero enough))
  | succ fuel inductionHypothesis =>
      rcases processLoop_cases decodeMsg handlePacket ran with
        ⟨empty, same, _⟩ | ⟨result, call, negative, same, _⟩ | ⟨result, later, call, positive, rest, _⟩
      · rw [same]
        exact Or.inl empty
      · have again := recvRtmpMessage_retry call negative []
        rw [List.append_nil, call] at again
        rw [same]
        exact Or.inr ⟨result, again, negative⟩
      · have left := client.taken_len decodeMsg handlePacket call positive
        have shorter : (client.taken handlePacket result).dataCache.len ≤ fuel := by omega
        exact inductionHypothesis shorter rest

theorem processData_invariant {invariant : Consumer κ -> Prop}
    (failed : forall state data result, invariant state ->
      recvRtmpMessage decodeMsg state.rtmpTransport data = some result -> result.ret < 0 ->
      invariant { state with rtmpTransport := result.transport })
    (taken : forall state data result, invariant state ->
      recvRtmpMessage decodeMsg state.rtmpTransport data = some result -> 0 ≤ result.ret ->
      let handled := afterPacket handlePacket state.rest result.transport result.packet
      invariant { rtmpTransport := handled.2, rest := handled.1 })
    {client after : RtmpClientState κ} {data : List UInt8} {events : List (RecvEvent π)}
    (initially : invariant { rtmpTransport := client.rtmpTransport, rest := client.rest })
    (ran : processData decodeMsg handlePacket client data = some (after, events)) :
    invariant { rtmpTransport := after.rtmpTransport, rest := after.rest } := by
  let cached := { client with dataCache := client.dataCache.pushData data }
  have cachedInitially : invariant { rtmpTransport := cached.rtmpTransport, rest := cached.rest } := initially
  exact processLoop_invariant decodeMsg handlePacket failed taken cachedInitially ran

/-- The loop comes to its end if none of its calls faults. -/
theorem processLoop_total {invariant : Consumer κ -> Prop}
    (called : forall state data, invariant state -> data ≠ [] ->
      Exists fun result => recvRtmpMessage decodeMsg state.rtmpTransport data = some result)
    (taken : forall state data result, invariant state -> data ≠ [] ->
      recvRtmpMessage decodeMsg state.rtmpTransport data = some result -> 0 ≤ result.ret ->
      let handled := afterPacket handlePacket state.rest result.transport result.packet
      invariant { rtmpTransport := handled.2, rest := handled.1 })
    (fuel : Nat) {client : RtmpClientState κ}
    (initially : invariant { rtmpTransport := client.rtmpTransport, rest := client.rest }) :
    Exists fun run => processLoop decodeMsg handlePacket fuel client = some run := by
  induction fuel generalizing client with
  | zero => exact ⟨(client, []), rfl⟩
  | succ fuel inductionHypothesis =>
      rw [processLoop]
      by_cases more : client.dataCache.len > 0
      · have nonempty : client.dataCache.bytes ≠ [] := List.ne_nil_of_length_pos more
        rcases called _ _ initially nonempty with ⟨result, call⟩
        rw [if_pos more]
        simp only [call]
        by_cases negative : result.ret < 0
        · exact ⟨_, if_pos negative⟩
        · rw [if_neg negative]
          have kept := taken _ _ _ initially nonempty call (Int.not_lt.mp negative)
          have rest := @inductionHypothesis
            { dataCache := client.dataCache.popData result.ret.toNat
              rtmpTransport := _
              rest := _ } kept
          rcases rest with ⟨run, rest⟩
          rw [rest]
          exact ⟨_, rfl⟩
      · exact ⟨_, if_neg more⟩

theorem processLoop_empty (fuel : Nat) {client : RtmpClientState κ} (empty : client.dataCache.bytes = []) :
    processLoop decodeMsg handlePacket fuel client = some (client, []) := by
  cases fuel with
  | zero => rfl
  | succ fuel =>
      rw [processLoop, if_neg]
      rw [DataCacheBuf.len, empty]
      exact Nat.lt_irrefl 0

/-- A call that takes all that is cached is the only one. -/
theorem processLoop_whole {client : RtmpClientState κ} {result : RecvCall π} (nonempty : 0 < client.dataCache.len)
    (call : recvRtmpMessage decodeMsg client.rtmpTransport client.dataCache.bytes = some result)
    (whole : result.ret = client.dataCache.len) :
    processLoop decodeMsg handlePacket client.dataCache.len client =
      some (client.taken handlePacket result,
        [{ consumed := result.ret.toNat, packet := result.packet }]) := by
  have success : ¬ result.ret < 0 := by omega
  have counted : result.ret.toNat = client.dataCache.bytes.length := congrArg Int.toNat whole
  have left : (client.taken handlePacket result).dataCache.bytes = [] := by
    show client.dataCache.bytes.drop result.ret.toNat = []
    rw [counted, List.drop_length]
  rcases Nat.exists_eq_succ_of_ne_zero (Nat.ne_of_gt nonempty) with ⟨fuel, size⟩
  have ended := processLoop_empty decodeMsg handlePacket fuel left
  rw [size, processLoop, if_pos nonempty]
  simp only [call, success, if_false]
  exact congrArg (Option.map _) ended

/-- No read leaves bytes that the next call would take. -/
theorem processData_settled {client after : RtmpClientState κ} {data : List UInt8}
    {events : List (RecvEvent π)}
    (ran : processData decodeMsg handlePacket client data = some (after, events)) :
    after.dataCache.bytes = [] ∨ Exists fun result =>
      recvRtmpMessage decodeMsg after.rtmpTransport after.dataCache.bytes = some result ∧ result.ret < 0 :=
  processLoop_settled decodeMsg handlePacket (Nat.le_refl _) ran

/-- However the same bytes arrive, in one read or in many, the receive loop
makes the same successful calls and leaves the same cached bytes, the same
transport and the same client. -/
theorem processAll_fragmentation (client : RtmpClientState κ) (first second : List (List UInt8))
    (firstNonempty : forall data, data ∈ first -> data ≠ [])
    (secondNonempty : forall data, data ∈ second -> data ≠ [])
    (sameBytes : first.flatten = second.flatten) :
    (processAll decodeMsg handlePacket client first).map observe =
      (processAll decodeMsg handlePacket client second).map observe := by
  rw [processAll_observe, processAll_observe]
  exact Incremental.feedAll_fragmentation firstNonempty secondNonempty sameBytes

end Loop

/-- A one-byte message that arrives at once or in three reads. -/
theorem processAll_threeReads :
    (processAll (fun msg _ => some (some msg.rtmpBody)) (fun rest transport _ => (rest, transport))
        { dataCache := DataCacheBuf.new, rtmpTransport := RtmpMessageTransport.new fun _ => 0, rest := () }
        [[0x03, 0, 0, 5, 0, 0, 1, 9, 0, 0, 0, 0, 7]]).map observe =
      (processAll (fun msg _ => some (some msg.rtmpBody)) (fun rest transport _ => (rest, transport))
        { dataCache := DataCacheBuf.new, rtmpTransport := RtmpMessageTransport.new fun _ => 0, rest := () }
        [[0x03, 0], [0, 5, 0, 0, 1, 9, 0, 0, 0, 0], [7]]).map observe := by
  apply processAll_fragmentation
  · decide
  · decide
  · decide

end Client
end RtmpClient
