import RtmpClient.Client.SessionLemmas
import RtmpClient.Rtmp.HandshakeReply

namespace RtmpClient
namespace Client

open Library Net Rtmp

/-!
# Reads during the handshake

The reply is 3073 bytes long and may arrive in any number of reads.  The read
that completes it may bring bytes of the first chunk with it: they are handed to
`process_s0s1s2` with the reply, and nobody looks at them before the next read.
-/

/-- One read of the socket. -/
def readStep (client : LiveClient) (data : List UInt8) : Option LiveClient := clientStep client (.recv data)

namespace LiveClient

/-- The client with more bytes in its cache. -/
def caching (client : LiveClient) (reads : List (List UInt8)) : LiveClient :=
  { client with dataCache := reads.foldl DataCacheBuf.pushData client.dataCache }

theorem caching_bytes (client : LiveClient) (reads : List (List UInt8)) :
    (client.caching reads).dataCache.bytes = client.dataCache.bytes ++ reads.flatten := by
  have pushed : forall (reads : List (List UInt8)) (cache : DataCacheBuf),
      (reads.foldl DataCacheBuf.pushData cache).bytes = cache.bytes ++ reads.flatten := by
    intro reads
    induction reads with
    | nil =>
        intro cache
        exact (List.append_nil _).symm
    | cons data reads inductionHypothesis =>
        intro cache
        rw [List.foldl_cons, inductionHypothesis, DataCacheBuf.pushData_bytes, List.flatten_cons,
          List.append_assoc]
  exact pushed reads client.dataCache

/-- The client waits for the reply. -/
structure Waiting (client : LiveClient) : Prop where
  status : client.rest.status = .sendC0C1
  running : client.rest.halted = false

/-- A read that does not complete the reply. -/
theorem readStep_short {client : LiveClient} (waiting : client.Waiting) {data : List UInt8}
    (short : (client.dataCache.bytes ++ data).length < 3073) :
    readStep client data = some (client.caching [data]) := by
  have incomplete : (client.dataCache.pushData data).require 3073 = false := by
    rw [DataCacheBuf.require, DataCacheBuf.len, DataCacheBuf.pushData_bytes]
    simp only [show ¬ (3073 : Int) < 0 by decide, if_false, decide_eq_false_iff_not]
    omega
  rw [readStep, clientStep]
  simp only [waiting.running, Bool.false_eq_true, if_false, onRecvData, waiting.status, doHandshake,
    incomplete]
  rfl

/-- Reads that do not complete the reply. -/
theorem run_short {client : LiveClient} (waiting : client.Waiting) {reads : List (List UInt8)}
    (short : (client.dataCache.bytes ++ reads.flatten).length < 3073) :
    runAll readStep client reads = some (client.caching reads) := by
  induction reads generalizing client with
  | nil => rfl
  | cons data reads inductionHypothesis =>
      rw [List.flatten_cons, ← List.append_assoc] at short
      have first : (client.dataCache.bytes ++ data).length < 3073 := by
        rw [List.length_append] at short
        omega
      have bytes : (client.caching [data]).dataCache.bytes = client.dataCache.bytes ++ data := by
        rw [caching_bytes, List.flatten_singleton]
      have waitingToo : (client.caching [data]).Waiting := ⟨waiting.status, waiting.running⟩
      rw [← bytes] at short
      rw [runAll, readStep_short waiting first, Option.bind_some, inductionHypothesis waitingToo short]
      rfl

/-- What the read leaves that completes the reply.  `received` is everything
that is cached then. -/
structure Answered (before : LiveClient) (received : List UInt8) (after : LiveClient) : Prop where
  status : after.rest.status = .sendC2
  logged : Exists fun more => after.rest.trace = before.rest.trace ++
      (.processS0S1S2 before.rest.handshake received :: .sendC2 (fieldAt received 1 1536) :: more) ∧
    forall event, event ∈ more -> event.Routine before.rest.setting
  setting : after.rest.setting = before.rest.setting
  leftover : after.dataCache.bytes = received.drop 3073
  inChunkSize : after.rtmpTransport.inChunkSize = before.rtmpTransport.inChunkSize
  chunkCache : after.rtmpTransport.chunkCache = before.rtmpTransport.chunkCache

/-- The client when C2 is on its way. -/
def greeted (client : LiveClient) (handshake : RtmpHandshake) : LiveClient :=
  { client with
    rest := { (client.rest.log (.processS0S1S2 client.rest.handshake client.dataCache.bytes)).log
      (.sendC2 handshake.c2) with handshake, status := .sendC2 }
    dataCache := client.dataCache.popData 3073 }

theorem answerReply_eq {client : LiveClient} {result : RtmpHandshake.ReplyResult} {handshake : RtmpHandshake}
    (processed : client.rest.handshake.processS0S1S2 client.dataCache.bytes = .ok result)
    (answer : result.handshake.createC2 = .ok handshake) :
    client.answerReply =
      (client.greeted handshake).withAgent (client.greeted handshake).agent.connectApp := by
  have logged : (client.withAgent (client.agent.log (.processS0S1S2 client.rest.handshake
      client.dataCache.bytes))).rest.handshake.processS0S1S2 (client.withAgent (client.agent.log
        (.processS0S1S2 client.rest.handshake client.dataCache.bytes))).dataCache.bytes = .ok result :=
    processed
  unfold answerReply
  simp only [logged, answer]
  rfl

/-- The read that completes the reply: it is answered, whatever the parse has
found. -/
theorem readStep_greets {client : LiveClient} (waiting : client.Waiting) {data : List UInt8}
    (complete : 3073 ≤ (client.dataCache.bytes ++ data).length) :
    Exists fun handshake : RtmpHandshake =>
      handshake.c2 = fieldAt (client.dataCache.bytes ++ data) 1 1536 ∧
      readStep client data = some (((client.caching [data]).greeted handshake).withAgent
        ((client.caching [data]).greeted handshake).agent.connectApp) := by
  have enough : (client.dataCache.pushData data).require 3073 = true := by
    rw [DataCacheBuf.require, DataCacheBuf.len, DataCacheBuf.pushData_bytes]
    simp only [show ¬ (3073 : Int) < 0 by decide, if_false, decide_eq_true_eq]
    omega
  have bytes : (client.caching [data]).dataCache.bytes = client.dataCache.bytes ++ data :=
    DataCacheBuf.pushData_bytes client.dataCache data
  rcases client.rest.handshake.processS0S1S2_complete complete with ⟨ret, parsed, processed, copy, _⟩
  have answer := RtmpHandshake.createC2_eq complete copy
  rw [← bytes] at processed
  have answered := answerReply_eq processed answer
  refine ⟨{ parsed with c2 := fieldAt (client.dataCache.bytes ++ data) 1 1536 }, rfl, ?_⟩
  rw [readStep, clientStep]
  simp only [waiting.running, Bool.false_eq_true, if_false, onRecvData, waiting.status, doHandshake,
    enough, if_true]
  exact congrArg some answered

theorem readStep_complete {client : LiveClient} (waiting : client.Waiting) {data : List UInt8}
    (complete : 3073 ≤ (client.dataCache.bytes ++ data).length) :
    Exists fun after => readStep client data = some after ∧
      Answered client (client.dataCache.bytes ++ data) after := by
  have bytes : (client.caching [data]).dataCache.bytes = client.dataCache.bytes ++ data :=
    DataCacheBuf.pushData_bytes client.dataCache data
  rcases readStep_greets waiting complete with ⟨handshake, answer, read⟩
  let greeted := (client.caching [data]).greeted handshake
  have grows : greeted.rest.Grows greeted.agent.connectApp.rest := greeted.agent.connectApp_grows
  have receive := greeted.agent.sendAll_receive greeted.agent.rest.setting.connectGroup
  refine ⟨greeted.withAgent greeted.agent.connectApp, read, ?_⟩
  rcases grows.trace with ⟨more, appended, routine⟩
  refine ⟨grows.status, ⟨more, ?_, routine⟩, grows.setting, ?_, receive.1, receive.2⟩
  · have trace : greeted.rest.trace = client.rest.trace ++
        [.processS0S1S2 client.rest.handshake (client.caching [data]).dataCache.bytes] ++
        [.sendC2 handshake.c2] := rfl
    rw [bytes, answer] at trace
    refine appended.trans ?_
    rw [trace, List.append_assoc, List.append_assoc]
    rfl
  · exact congrArg (List.drop 3073) bytes

/-- A read behind the handshake is one of the receive loop. -/
theorem onRecvData_of_readStep {client after : LiveClient} {data : List UInt8}
    (read : readStep client data = some after) : client.onRecvData data = some after := by
  rw [readStep, clientStep] at read
  split at read
  · cases read
  · exact read

/-- Behind the handshake every read only adds to the log. -/
theorem run_grows {answered client : LiveClient} (done : answered.rest.status = .sendC2)
    {reads : List (List UInt8)} (ran : runAll readStep answered reads = some client) :
    answered.rest.Grows client.rest := by
  refine @runAll_invariant _ _ readStep (fun client => answered.rest.Grows client.rest) ?_ _ _ _
    (.refl answered.rest) ran
  intro state data after grown read
  exact grown.trans (onRecvData_grows (grown.status.trans done) (onRecvData_of_readStep read))

/-- The run up to the read that completes the reply. -/
theorem run_crossing {start : LiveClient} (waiting : start.Waiting) (empty : start.dataCache.bytes = [])
    {before : List (List UInt8)} {read : List UInt8} (short : before.flatten.length < 3073)
    (reached : 3073 ≤ (before.flatten ++ read).length) :
    Exists fun answered => runAll readStep start (before ++ [read]) = some answered ∧
      Answered start (before.flatten ++ read) answered := by
  have cached : (start.caching before).dataCache.bytes = before.flatten := by
    rw [caching_bytes, empty, List.nil_append]
  have first : runAll readStep start before = some (start.caching before) := by
    apply run_short waiting
    rw [empty, List.nil_append]
    exact short
  rw [← cached] at reached
  have waitingToo : (start.caching before).Waiting := ⟨waiting.status, waiting.running⟩
  rcases readStep_complete waitingToo reached with ⟨answered, crossed, answers⟩
  rw [cached] at answers
  -- the reads before the last one have changed nothing but the cache
  exact ⟨answered, (runAll_concat first read).trans crossed, answers.status, answers.logged, answers.setting,
    answers.leftover, answers.inChunkSize, answers.chunkCache⟩

/-- A run either still waits for the reply or has gone through the read that
completed it. -/
theorem run_cases {start client : LiveClient} (waiting : start.Waiting) (empty : start.dataCache.bytes = [])
    {reads : List (List UInt8)} (ran : runAll readStep start reads = some client) :
    (reads.flatten.length < 3073 ∧ client = start.caching reads) ∨
      Exists fun before => Exists fun read => Exists fun after => Exists fun answered =>
        reads = before ++ read :: after ∧ before.flatten.length < 3073 ∧
        3073 ≤ (before.flatten ++ read).length ∧ Answered start (before.flatten ++ read) answered ∧
        runAll readStep answered after = some client := by
  by_cases complete : 3073 ≤ reads.flatten.length
  · rcases exists_crossing (by decide) complete with ⟨before, read, after, split, short, reached⟩
    rcases run_crossing waiting empty short reached with ⟨answered, crossed, answers⟩
    have joined : reads = (before ++ [read]) ++ after := by
      rw [split, List.append_assoc, List.singleton_append]
    rw [joined, runAll_append, crossed, Option.bind_some] at ran
    exact Or.inr ⟨before, read, after, answered, split, short, reached, answers, ran⟩
  · have short : runAll readStep start reads = some (start.caching reads) := by
      apply run_short waiting
      rw [empty, List.nil_append]
      exact Nat.not_le.mp complete
    rw [short, Option.some.injEq] at ran
    exact Or.inl ⟨Nat.not_le.mp complete, ran.symm⟩

/-- Every entry of the log behind the handshake. -/
theorem Answered.entry {start answered client : LiveClient} {received : List UInt8}
    (answers : Answered start received answered) (grows : answered.rest.Grows client.rest)
    {event : ClientEvent} (member : event ∈ client.rest.trace) :
    event ∈ start.rest.trace ∨ event = .processS0S1S2 start.rest.handshake received ∨
      event = .sendC2 (fieldAt received 1 1536) ∨ event.Routine start.rest.setting := by
  rcases answers.logged with ⟨more, logged, routine⟩
  rcases grows.trace with ⟨later, appended, routineToo⟩
  rw [appended, logged, List.append_assoc, List.mem_append] at member
  rcases member with early | late
  · exact Or.inl early
  · rw [List.cons_append, List.cons_append, List.mem_cons, List.mem_cons, List.mem_append] at late
    rcases late with reply | answer | own | loop
    · exact Or.inr (Or.inl reply)
    · exact Or.inr (Or.inr (Or.inl answer))
    · exact Or.inr (Or.inr (Or.inr (routine event own)))
    · have setting := routineToo event loop
      rw [answers.setting] at setting
      exact Or.inr (Or.inr (Or.inr setting))

theorem Answered.reply_mem {start answered : LiveClient} {received : List UInt8}
    (answers : Answered start received answered) :
    .processS0S1S2 start.rest.handshake received ∈ answered.rest.trace ∧
      .sendC2 (fieldAt received 1 1536) ∈ answered.rest.trace := by
  rcases answers.logged with ⟨more, logged, _⟩
  rw [logged]
  constructor
  · exact List.mem_append_right _ List.mem_cons_self
  · exact List.mem_append_right _ (List.mem_cons_of_mem _ List.mem_cons_self)

end LiveClient

section Connected

variable (setting : Setting) (handshake : RtmpHandshake) (streamid : Int32) (havestop : Bool)
variable (stale : UInt32 -> UInt32)

theorem connected_waiting : (LiveClient.connected setting handshake streamid havestop stale).Waiting where
  status := rfl
  running := rfl

/-! ## What the parsing of the reply touches -/

/-- A call of `process_s0s1s2` that copies no more than the block holds, and
whose reads all lie in the first 3073 received bytes: on these alone the parse
comes out the same. -/
def ReplyBounded (received : List UInt8) (handshake : RtmpHandshake) (data : List UInt8) : Prop :=
  (Exists fun result => handshake.processS0S1S2 data = .ok result ∧ result.copied ≤ 3073) ∧
    Exists fun outcome =>
      { handshake with s0s1s2 := data.take 3073 }.parseReply data = .ok outcome ∧
      { handshake with s0s1s2 := data.take 3073 }.parseReply (received.take 3073) = .ok outcome

/-- Every call of the run is bounded, in every state that the run goes through. -/
def ReplyBound (start : LiveClient) (reads : List (List UInt8)) : Prop :=
  forall done later, reads = done ++ later ->
    forall client, runAll readStep start done = some client ->
      forall handshake data, .processS0S1S2 handshake data ∈ client.rest.trace ->
        ReplyBounded done.flatten handshake data

/-- No read brings bytes from behind the reply that it completes. -/
def ReplyAlone (reads : List (List UInt8)) : Prop :=
  forall before read after, reads = before ++ read :: after -> before.flatten.length < 3073 ->
    (before.flatten ++ read).length ≤ 3073

theorem replyAlone_of_bound {reads : List (List UInt8)}
    (bound : ReplyBound (LiveClient.connected setting handshake streamid havestop stale) reads) :
    ReplyAlone reads := by
  have waiting := connected_waiting setting handshake streamid havestop stale
  intro before read after split short
  by_contra long
  have reached : 3073 ≤ (before.flatten ++ read).length := by omega
  rcases LiveClient.run_crossing waiting rfl short reached with ⟨answered, ran, answers⟩
  have prefixed : reads = (before ++ [read]) ++ after := by
    rw [split, List.append_assoc, List.singleton_append]
  rcases bound _ after prefixed answered ran _ _ answers.reply_mem.1 with ⟨⟨result, processed, copied⟩, _⟩
  rcases handshake.processS0S1S2_complete reached with ⟨ret, parsed, processedToo, _⟩
  have same : result.copied = (before.flatten ++ read).length :=
    congrArg RtmpHandshake.ReplyResult.copied (Outcome.ok.inj (processed.symm.trans processedToo))
  omega

theorem replyBound_of_alone {reads : List (List UInt8)} (alone : ReplyAlone reads) :
    ReplyBound (LiveClient.connected setting handshake streamid havestop stale) reads := by
  have waiting := connected_waiting setting handshake streamid havestop stale
  intro done later split client ran called data member
  rcases LiveClient.run_cases waiting rfl ran with ⟨_, cached⟩ | ⟨before, read, after, answered, crossing, short,
    reached, answers, rest⟩
  · rw [cached] at member
    rcases List.mem_singleton.mp member with ⟨⟩
  · have crossed : reads = before ++ read :: (after ++ later) := by
      rw [split, crossing, List.append_assoc, List.cons_append]
    have exactly : (before.flatten ++ read).length = 3073 :=
      Nat.le_antisymm (alone before read (after ++ later) crossed short) reached
    rcases answers.entry (LiveClient.run_grows answers.status rest) member with
      early | reply | answer | routine
    · rcases List.mem_singleton.mp early with ⟨⟩
    · rw [ClientEvent.processS0S1S2.injEq] at reply
      rcases reply with ⟨rfl, rfl⟩
      rcases called.processS0S1S2_complete reached with ⟨ret, parsed, processed, _⟩
      refine ⟨⟨_, processed, Nat.le_of_eq exactly⟩, ?_⟩
      rcases RtmpHandshake.parseReply_within _ (before.flatten ++ read) [] (by omega) with
        ⟨outcome, here, _⟩
      have first : done.flatten.take 3073 = before.flatten ++ read := by
        rw [crossing, List.flatten_append, List.flatten_cons, ← List.append_assoc, ← exactly,
          List.take_left]
      exact ⟨outcome, here, by rw [first]; exact here⟩
    · cases answer
    · cases routine

/-- The handshake stays within its bounds exactly if the read that completes the
reply ends with it. -/
theorem replyBound_iff (reads : List (List UInt8)) :
    ReplyBound (LiveClient.connected setting handshake streamid havestop stale) reads ↔ ReplyAlone reads :=
  ⟨replyAlone_of_bound setting handshake streamid havestop stale,
    replyBound_of_alone setting handshake streamid havestop stale⟩

/-! ## What is left when the client waits -/

/-- In every state behind the handshake that the run goes through, the next
call on what is cached does not succeed. -/
def NothingWaits (start : LiveClient) (reads : List (List UInt8)) : Prop :=
  forall done later, reads = done ++ later ->
    forall client, runAll readStep start done = some client -> client.rest.status = .sendC2 ->
      ¬ Exists fun result =>
        recvUndecoded client.rtmpTransport client.dataCache.bytes = some result ∧ 0 ≤ result.ret

/-- The bytes begin with a whole chunk of a new connection: a header, the
extended timestamp if it announces one, and as much of the payload as a chunk
carries. -/
def CompleteChunk (bytes : List UInt8) : Prop :=
  Exists fun offset => Exists fun header => RtmpHeader.decode bytes = .ok (offset, header) ∧
    fieldLength header.timestamp + min header.msgLength.toNat 128 ≤ (bytes.drop offset).length

/-- What comes behind the reply, in the read that completes it, is no complete
chunk. -/
def NoChunkBehindReply (reads : List (List UInt8)) : Prop :=
  forall before read after, reads = before ++ read :: after -> before.flatten.length < 3073 ->
    3073 ≤ (before.flatten ++ read).length -> ¬ CompleteChunk ((before.flatten ++ read).drop 3073)

/-- The first call behind the handshake takes a complete chunk and nothing else. -/
theorem answered_succeeds_iff {received : List UInt8} {answered : LiveClient}
    (answers : LiveClient.Answered (LiveClient.connected setting handshake streamid havestop stale) received
      answered) :
    (Exists fun result =>
      recvUndecoded answered.rtmpTransport answered.dataCache.bytes = some result ∧ 0 ≤ result.ret) ↔
      CompleteChunk (received.drop 3073) := by
  have sound := (Sound.new stale).sent answers.inChunkSize answers.chunkCache
  have length : forall header : RtmpHeader,
      bodyLength answered.rtmpTransport.inChunkSize (fun _ => Assembly.start 0) header =
        fieldLength header.timestamp + min header.msgLength.toNat 128 := by
    intro header
    rw [answers.inChunkSize]
    rfl
  rw [recvUndecoded_succeeds_iff sound, answers.leftover]
  constructor
  · rintro ⟨offset, header, decoded, _, enough⟩
    rw [length] at enough
    exact ⟨offset, header, decoded, enough⟩
  · rintro ⟨offset, header, decoded, enough⟩
    rw [← length] at enough
    exact ⟨offset, header, decoded, fun started => absurd rfl started, enough⟩

theorem noChunkBehindReply_of_nothingWaits {reads : List (List UInt8)}
    (nothing : NothingWaits (LiveClient.connected setting handshake streamid havestop stale) reads) :
    NoChunkBehindReply reads := by
  have waiting := connected_waiting setting handshake streamid havestop stale
  intro before read after split short reached complete
  rcases LiveClient.run_crossing waiting rfl short reached with ⟨answered, ran, answers⟩
  have prefixed : reads = (before ++ [read]) ++ after := by
    rw [split, List.append_assoc, List.singleton_append]
  exact nothing _ after prefixed answered ran answers.status
    ((answered_succeeds_iff setting handshake streamid havestop stale answers).mpr complete)

theorem nothingWaits_of_noChunkBehindReply {reads : List (List UInt8)} (none : NoChunkBehindReply reads) :
    NothingWaits (LiveClient.connected setting handshake streamid havestop stale) reads := by
  have waiting := connected_waiting setting handshake streamid havestop stale
  intro done later split client ran status succeeds
  rcases LiveClient.run_cases waiting rfl ran with ⟨_, cached⟩ | ⟨before, read, after, answered, crossing, short,
    reached, answers, rest⟩
  · rw [cached] at status
    cases status
  · cases after using List.reverseRecOn with
    | nil =>
        -- the read that completed the reply was the last one
        rw [runAll, Option.some.injEq] at rest
        rw [← rest] at succeeds
        have crossed : reads = before ++ read :: later := by
          rw [split, crossing, List.append_assoc, List.singleton_append]
        exact none before read later crossed short reached
          ((answered_succeeds_iff setting handshake streamid havestop stale answers).mp succeeds)
    | append_singleton after last =>
        -- the last read went through the receive loop
        rw [runAll_append] at rest
        rcases Option.bind_eq_some_iff.mp rest with ⟨middle, ranMiddle, ranLast⟩
        rw [runAll] at ranLast
        rcases Option.bind_eq_some_iff.mp ranLast with ⟨final, step, finished⟩
        rw [runAll, Option.some.injEq] at finished
        subst finished
        have grown := LiveClient.run_grows answers.status ranMiddle
        exact LiveClient.onRecvData_settled (grown.status.trans answers.status)
          (LiveClient.onRecvData_of_readStep step) succeeds

/-- Nothing that could be parsed is left behind exactly if no complete chunk
follows the reply in the read that completes it. -/
theorem nothingWaits_iff (reads : List (List UInt8)) :
    NothingWaits (LiveClient.connected setting handshake streamid havestop stale) reads ↔
      NoChunkBehindReply reads :=
  ⟨noChunkBehindReply_of_nothingWaits setting handshake streamid havestop stale,
    nothingWaits_of_noChunkBehindReply setting handshake streamid havestop stale⟩

/-! ## Going on after a refusal -/

/-- What a log says about the handshake on the bytes received so far: C2 and
connect go out only behind an accepted reply, C2 is its bytes 1 to 1536, and
nothing goes out behind a refused one. -/
structure RefusalKept (received : List UInt8) (trace : List ClientEvent) : Prop where
  accepted : ((Exists fun bytes => .sendC2 bytes ∈ trace) ∨
      Exists fun packet => Exists fun streamid => .sendPacket .own (.connect packet) streamid ∈ trace) ->
    received.head? = some 0x03 ∧ Exists fun handshake => Exists fun data => Exists fun result =>
      .processS0S1S2 handshake data ∈ trace ∧ handshake.processS0S1S2 data = .ok result ∧ 0 ≤ result.ret
  answer : forall bytes, .sendC2 bytes ∈ trace -> bytes = fieldAt received 1 1536
  refused : forall handshake data result, .processS0S1S2 handshake data ∈ trace ->
    handshake.processS0S1S2 data = .ok result -> result.ret < 0 ->
      (forall bytes, ¬ .sendC2 bytes ∈ trace) ∧
        forall origin packet streamid, ¬ .sendPacket origin packet streamid ∈ trace

/-- Every state of the run keeps to it. -/
def HandshakeRefusable (start : LiveClient) (reads : List (List UInt8)) : Prop :=
  forall done later, reads = done ++ later ->
    forall client, runAll readStep start done = some client -> RefusalKept done.flatten client.rest.trace

/-- The reply does not become complete, or its first byte is the version. -/
def ReplyAccepted (reads : List (List UInt8)) : Prop :=
  reads.flatten.length < 3073 ∨ reads.flatten.head? = some 0x03

theorem replyAccepted_of_refusable {reads : List (List UInt8)}
    (kept : HandshakeRefusable (LiveClient.connected setting handshake streamid havestop stale) reads) :
    ReplyAccepted reads := by
  have waiting := connected_waiting setting handshake streamid havestop stale
  by_cases short : reads.flatten.length < 3073
  · exact Or.inl short
  · right
    rcases exists_crossing (by decide) (Nat.not_lt.mp short) with ⟨before, read, after, split, less, reached⟩
    rcases LiveClient.run_crossing waiting rfl less reached with ⟨answered, ran, answers⟩
    have prefixed : reads = (before ++ [read]) ++ after := by
      rw [split, List.append_assoc, List.singleton_append]
    have state := kept _ after prefixed answered ran
    have first := (state.accepted (Or.inl ⟨_, answers.reply_mem.2⟩)).1
    rw [prefixed, List.flatten_append, List.head?_append, first]
    rfl

/-- Before the reply is complete, the log has C0C1 and nothing else. -/
theorem refusalKept_waiting (received bytes : List UInt8) : RefusalKept received [.sendC0C1 bytes] := by
  refine ⟨?_, ?_, ?_⟩
  · rintro (⟨c2, member⟩ | ⟨packet, streamid, member⟩)
    · rcases List.mem_singleton.mp member with ⟨⟩
    · rcases List.mem_singleton.mp member with ⟨⟩
  · intro c2 member
    rcases List.mem_singleton.mp member with ⟨⟩
  · intro called data result member
    rcases List.mem_singleton.mp member with ⟨⟩

/-- A complete reply of an accepted run begins with the version. -/
theorem ReplyAccepted.head {reads : List (List UInt8)} (accepted : ReplyAccepted reads) {reply more : List UInt8}
    (received : reads.flatten = reply ++ more) (complete : 3073 ≤ reply.length) : reply.head? = some 0x03 := by
  rcases accepted with incomplete | first
  · rw [received, List.length_append] at incomplete
    omega
  · have nonempty : reply ≠ [] := by
      intro empty
      rw [empty, List.length_nil] at complete
      omega
    rw [← first, received, List.head?_append_of_ne_nil _ nonempty]

theorem refusable_of_replyAccepted {reads : List (List UInt8)} (accepted : ReplyAccepted reads) :
    HandshakeRefusable (LiveClient.connected setting handshake streamid havestop stale) reads := by
  have waiting := connected_waiting setting handshake streamid havestop stale
  intro done later split client ran
  rcases LiveClient.run_cases waiting rfl ran with ⟨_, cached⟩ | ⟨before, read, after, answered, crossing, short,
    reached, answers, rest⟩
  · have only : client.rest.trace = [.sendC0C1 handshake.c0c1] := by
      rw [cached]
      rfl
    rw [only]
    exact refusalKept_waiting _ _
  · have grows := LiveClient.run_grows answers.status rest
    have received : done.flatten = (before.flatten ++ read) ++ after.flatten := by
      rw [crossing, List.flatten_append, List.flatten_cons, List.append_assoc]
    have whole : reads.flatten = (before.flatten ++ read) ++ (after.flatten ++ later.flatten) := by
      rw [split, List.flatten_append, received, List.append_assoc]
    have head : (before.flatten ++ read).head? = some 0x03 := accepted.head whole reached
    rcases handshake.processS0S1S2_complete reached with ⟨ret, parsed, processed, _, refuses⟩
    have notRefused : 0 ≤ ret := by
      by_contra negative
      exact refuses.mp (Int.not_le.mp negative) head
    refine ⟨fun _ => ⟨?_, ?_⟩, ?_, ?_⟩
    · rw [received, List.head?_append, head]
      rfl
    · refine ⟨handshake, _, _, ?_, processed, notRefused⟩
      rcases grows.trace with ⟨more, appended, _⟩
      rw [appended]
      exact List.mem_append_left _ answers.reply_mem.1
    · intro bytes member
      rcases answers.entry grows member with early | reply | answer | routine
      · rcases List.mem_singleton.mp early with ⟨⟩
      · cases reply
      · have field := fieldAt_within [] (before.flatten ++ read) after.flatten
          (show 1 + 1536 ≤ (before.flatten ++ read).length by omega)
        rw [List.nil_append, List.length_nil, Nat.zero_add] at field
        rw [received, field]
        exact ClientEvent.sendC2.inj answer
      · cases routine
    · intro called data result member processedToo negative
      rcases answers.entry grows member with early | reply | answer | routine
      · rcases List.mem_singleton.mp early with ⟨⟩
      · rw [ClientEvent.processS0S1S2.injEq] at reply
        rcases reply with ⟨rfl, rfl⟩
        have same : result.ret = ret :=
          congrArg RtmpHandshake.ReplyResult.ret (Outcome.ok.inj (processedToo.symm.trans processed))
        rw [same] at negative
        exact absurd notRefused (Int.not_le.mpr negative)
      · cases answer
      · cases routine

/-- A refused reply stops the client exactly if there is none: either the reply
stays incomplete or it begins with the version. -/
theorem handshakeRefusable_iff (reads : List (List UInt8)) :
    HandshakeRefusable (LiveClient.connected setting handshake streamid havestop stale) reads ↔
      ReplyAccepted reads :=
  ⟨replyAccepted_of_refusable setting handshake streamid havestop stale,
    refusable_of_replyAccepted setting handshake streamid havestop stale⟩

end Connected

/-! ## The client of `main.cc` -/

/-- The URL of `main.cc`, cut as the constructor cuts it.  HMAC and the random
bytes are zeros. -/
def mainSetting (dir : Direction) : Setting where
  dir := dir
  audio := true
  width := 640
  heigth := 480
  ip := ascii "8.135.38.10"
  port := 1935
  rtmpStream := ascii "live"
  rtmpApp := ascii "live1"
  outOfRange := fun _ => Int32.minValue
  world :=
    { hmac := { digest := fun _ _ => List.replicate 32 0, digest_length := fun _ _ => List.length_replicate }
      now := 0
      joinbytes := List.replicate 1504 0
      fresh := List.replicate 1537 0 }

/-- A handshake before anything was sent. -/
def mainHandshake : RtmpHandshake :=
  RtmpHandshake.new 0 0 (.new 0 (fun _ => 0) (fun _ => 0) fun _ => 0) (.new 0 (fun _ => 0) (fun _ => 0) fun _ => 0)

/-- The client of `main.cc` when C0C1 is sent. -/
def mainClient (dir : Direction) : LiveClient :=
  .connected (mainSetting dir) mainHandshake 0 false fun _ => 0

/-- One byte behind the reply is copied to where the block has ended. -/
theorem mainClient_overruns : ¬ ReplyBound (mainClient .pull) [List.replicate 3074 0x03] := by
  intro bound
  have length := replyAlone_of_bound _ _ _ _ _ bound [] (List.replicate 3074 0x03) [] rfl (by decide)
  rw [List.flatten_nil, List.nil_append, List.length_replicate] at length
  exact absurd length (by decide)

/-- A message of one byte, sent together with the reply. -/
def replyWithMessage : List UInt8 := List.replicate 3073 0x03 ++ [0x03, 0, 0, 5, 0, 0, 1, 9, 0, 0, 0, 0, 7]

/-- A message that comes with the reply is left in the cache. -/
theorem mainClient_leaves_message : ¬ NothingWaits (mainClient .pull) [replyWithMessage] := by
  intro nothing
  have none := noChunkBehindReply_of_nothingWaits _ _ _ _ _ nothing [] replyWithMessage [] rfl (by decide)
  rw [List.flatten_nil, List.nil_append] at none
  have length : (List.replicate 3073 (0x03 : UInt8)).length = 3073 := List.length_replicate
  have behind : replyWithMessage.drop 3073 = [0x03, 0, 0, 5, 0, 0, 1, 9, 0, 0, 0, 0, 7] := by
    have dropped : replyWithMessage.drop (List.replicate 3073 (0x03 : UInt8)).length =
        [0x03, 0, 0, 5, 0, 0, 1, 9, 0, 0, 0, 0, 7] := List.drop_left
    rw [length] at dropped
    exact dropped
  rw [behind] at none
  refine none ?_ ⟨12, _, rfl, by decide⟩
  rw [replyWithMessage, List.length_append, length]
  exact Nat.le_add_right _ _

/-- A reply of a wrong version is answered all the same. -/
theorem mainClient_goes_on : ¬ HandshakeRefusable (mainClient .pull) [List.replicate 3073 0x04] := by
  intro kept
  rcases replyAccepted_of_refusable _ _ _ _ _ kept with short | first
  · rw [List.flatten_singleton, List.length_replicate] at short
    exact absurd short (by decide)
  · rw [List.flatten_singleton] at first
    exact absurd (Option.some.inj first) (by decide)

end Client
end RtmpClient
