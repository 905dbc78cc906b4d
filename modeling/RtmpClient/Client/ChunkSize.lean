import RtmpClient.Client.Peer

namespace RtmpClient
namespace Client

open Library Net Rtmp

/-!
# The two ends of a connection and their chunk sizes

A sender hands messages to `sendRtmpMessage` one after the other, and what each
call writes is delivered to a peer.  The sender takes over every chunk size it
announces; the peer refuses the small ones.
-/

/-- One call of `sendRtmpMessage`. -/
structure SendCall where
  pkg : RtmpBasePacket
  streamid : UInt32

/-- Both ends of a connection. -/
structure Link where
  sender : RtmpMessageTransport
  peer : Peer

namespace Link

/-- Both ends right after the handshake. -/
def new (staleSender stalePeer : UInt32 -> UInt32) : Link where
  sender := RtmpMessageTransport.new staleSender
  peer := Peer.new stalePeer

/-- One message is sent and its bytes are delivered; `none` when the send loop
does not end. -/
def deliver (memory : Memory UInt8) (link : Link) (call : SendCall) : Option Link :=
  (sendRtmpMessage link.sender call.pkg call.streamid).bind fun sent =>
    (link.peer.receive (wireBytes memory sent.1)).map fun received =>
      { sender := sent.2, peer := received.1 }

/-- One message after the other. -/
def deliverAll (memory : Memory UInt8) (link : Link) : List SendCall -> Option Link
  | [] => some link
  | call :: calls => (link.deliver memory call).bind fun next => deliverAll memory next calls

end Link

/-- The chunk size that a packet announces: the type says so and the cast of
`on_send_message` succeeds. -/
def announcedSize (pkg : RtmpBasePacket) : Option UInt32 :=
  if pkg.getMsgType = rtmpMsgSetChunkSize then
    match pkg.dynamicClass with
    | .setChunkSize chunkSize => some chunkSize.toUInt32
    | _ => none
  else none

/-- A packet as the packet classes make it: the chunk stream id fits one byte,
the payload fits the default chunk, and type 1 is `RtmpSetChunkSizePacket`. -/
structure SmallPacket (pkg : RtmpBasePacket) : Prop where
  csLow : 2 ≤ pkg.getCsId.toNat
  csHigh : pkg.getCsId.toNat < 64
  short : forall bytes, pkg.payload = some bytes -> bytes.length ≤ 128
  setChunkSize : pkg.getMsgType = rtmpMsgSetChunkSize -> Exists fun packet : RtmpSetChunkSizePacket =>
    pkg.payload = some packet.encodePkg ∧ pkg.dynamicClass = .setChunkSize packet.chunkSize

/-- The sender takes over what it announces. -/
theorem onSendMessage_outChunkSize (transport : RtmpMessageTransport) (pkg : RtmpBasePacket) :
    (onSendMessage transport pkg).outChunkSize = (announcedSize pkg).getD transport.outChunkSize := by
  unfold onSendMessage announcedSize
  by_cases setChunkSize : pkg.getMsgType = rtmpMsgSetChunkSize
  · simp only [if_pos setChunkSize]
    cases pkg.dynamicClass with
    | setChunkSize chunkSize => rfl
    | setWindowAckSize windowAckSize => rfl
    | request number commandName => rfl
    | other => rfl
  · simp only [if_neg setChunkSize]
    split
    · split <;> rfl
    · split
      · split <;> rfl
      · rfl

/-- The chunk size of a peer after it has received a packet. -/
def acceptedSize (pkg : RtmpBasePacket) (inChunkSize : UInt32) : UInt32 :=
  match announcedSize pkg with
  | some chunkSize => if chunkSize < rtmpDefaultChunksize then inChunkSize else chunkSize
  | none => inChunkSize

/-- Both ends agree and no bytes are on the way. -/
structure InStep (link : Link) : Prop where
  idle : Idle link.peer.rtmpTransport
  delivered : link.peer.dataCache.bytes = []
  agree : link.sender.outChunkSize = link.peer.rtmpTransport.inChunkSize

theorem InStep.new (staleSender stalePeer : UInt32 -> UInt32) : InStep (Link.new staleSender stalePeer) where
  idle := Idle.new stalePeer
  delivered := rfl
  agree := rfl

theorem Idle.chunkSize_le {transport : RtmpMessageTransport} (idle : Idle transport) :
    128 ≤ transport.inChunkSize.toNat := by
  rcases idle with ⟨assemblies, sound, _⟩
  exact sound.chunkSize_le

/-- The peer's chunk size after a whole message is the accepted one. -/
theorem WholeReceived.acceptedSize {transport : RtmpMessageTransport} {pkg : RtmpBasePacket}
    {streamid : UInt32} {bytes : List UInt8} {result : RecvResult} {msg : RtmpMessage}
    (received : WholeReceived transport (packetHeader pkg streamid) bytes result msg)
    (encoded : pkg.payload = some bytes) (small : bytes.length < 2 ^ 24)
    (coherent : pkg.getMsgType = rtmpMsgSetChunkSize -> Exists fun packet : RtmpSetChunkSizePacket =>
      pkg.payload = some packet.encodePkg ∧ pkg.dynamicClass = .setChunkSize packet.chunkSize) :
    result.transport.inChunkSize = Client.acceptedSize pkg transport.inChunkSize := by
  by_cases setChunkSize : pkg.getMsgType = rtmpMsgSetChunkSize
  · rcases coherent setChunkSize with ⟨packet, encodedToo, dynamicClass⟩
    have body : bytes = packet.encodePkg := Option.some.inj (encoded.symm.trans encodedToo)
    have announced : announcedSize pkg = some packet.chunkSize.toUInt32 := by
      rw [announcedSize, if_pos setChunkSize, dynamicClass]
    rw [received.inChunkSize_set setChunkSize body (packetHeader_msgLength encoded small streamid)]
    simp only [Client.acceptedSize, announced]
  · have announced : announcedSize pkg = none := if_neg setChunkSize
    rw [received.inChunkSize_other setChunkSize]
    simp only [Client.acceptedSize, announced]

/-- A peer in step receives a small message whole. -/
theorem receive_small {peer : Peer} (idle : Idle peer.rtmpTransport) (delivered : peer.dataCache.bytes = [])
    {pkg : RtmpBasePacket} (small : SmallPacket pkg) (streamid : UInt32) {bytes : List UInt8}
    (encoded : pkg.payload = some bytes) :
    Exists fun after => Exists fun events =>
      peer.receive (wholeBytes (packetHeader pkg streamid) bytes) = some (after, events) ∧
      Idle after.rtmpTransport ∧ after.dataCache.bytes = [] ∧
      after.rtmpTransport.inChunkSize = acceptedSize pkg peer.rtmpTransport.inChunkSize := by
  have short := small.short bytes encoded
  have below : bytes.length < 2 ^ 24 := Nat.lt_of_le_of_lt short (by decide)
  have length := packetHeader_msgLength encoded below streamid
  rcases receiver_whole idle (packetHeader pkg streamid) small.csLow small.csHigh length below
    (Nat.le_trans short (Idle.chunkSize_le idle)) [] with ⟨result, msg, received, drained⟩
  rw [List.append_nil, Incremental.drain_nil, Option.map_some] at drained
  rcases Peer.receive_of_drain delivered drained with ⟨after, events, call, transport, leftover, _⟩
  refine ⟨after, events, call, ?_, leftover, ?_⟩
  · rw [transport]
    exact received.idle
  · rw [transport]
    exact WholeReceived.acceptedSize received encoded below small.setChunkSize

/-- A peer that is handed no bytes stays as it is. -/
theorem receive_nothing {peer : Peer} (delivered : peer.dataCache.bytes = []) :
    Exists fun after => Exists fun events => peer.receive [] = some (after, events) ∧
      after.rtmpTransport = peer.rtmpTransport ∧ after.dataCache.bytes = [] := by
  rcases Peer.receive_of_drain delivered (Incremental.drain_nil (receiving peer.rtmpTransport)) with
    ⟨after, events, call, transport, leftover, _⟩
  exact ⟨after, events, call, transport, leftover⟩

/-- A packet without a payload announces nothing: a chunk size takes four bytes. -/
theorem SmallPacket.announces_nothing {pkg : RtmpBasePacket} (small : SmallPacket pkg)
    (empty : pkg.payload = none ∨ pkg.payload = some []) : announcedSize pkg = none := by
  apply if_neg
  intro setChunkSize
  rcases small.setChunkSize setChunkSize with ⟨packet, encoded, _⟩
  have four : packet.encodePkg.length = 4 := Net.writeInt32_length packet.chunkSize
  rcases empty with missing | nothing
  · rw [missing] at encoded
    cases encoded
  · rw [nothing, Option.some.injEq] at encoded
    rw [← encoded] at four
    exact absurd four (by decide)

/-- One small message between ends in step: it is sent and received, the
sender takes over what it announces and the peer what it accepts. -/
theorem deliver_small (memory : Memory UInt8) {link : Link} (inStep : InStep link) {call : SendCall}
    (small : SmallPacket call.pkg) :
    Exists fun next => link.deliver memory call = some next ∧ Idle next.peer.rtmpTransport ∧
      next.peer.dataCache.bytes = [] ∧
      next.sender.outChunkSize = (announcedSize call.pkg).getD link.sender.outChunkSize ∧
      next.peer.rtmpTransport.inChunkSize =
        acceptedSize call.pkg link.peer.rtmpTransport.inChunkSize := by
  have size : 128 ≤ link.sender.outChunkSize.toNat := by
    rw [inStep.agree]
    exact Idle.chunkSize_le inStep.idle
  cases encoded : call.pkg.payload with
  | none =>
      rcases receive_nothing inStep.delivered with ⟨after, events, received, transport, empty⟩
      have none_announced := small.announces_nothing (Or.inl encoded)
      refine ⟨{ sender := link.sender, peer := after }, ?_, ?_, empty, ?_, ?_⟩
      · simp only [Link.deliver, sendRtmpMessage, encoded, Option.bind_some, wireBytes_nil, received,
          Option.map_some]
      · rw [transport]
        exact inStep.idle
      · rw [none_announced]
        rfl
      · rw [transport, acceptedSize, none_announced]
  | some bytes =>
      by_cases nonempty : 0 < bytes.length
      · rcases sendRtmpMessage_single encoded nonempty (Nat.le_trans (small.short bytes encoded) size)
          call.streamid with ⟨ops, sent, wire⟩
        rcases receive_small inStep.idle inStep.delivered small call.streamid encoded with
          ⟨after, events, received, idle, empty, accepted⟩
        refine ⟨{ sender := onSendMessage link.sender call.pkg, peer := after }, ?_, idle, empty,
          onSendMessage_outChunkSize link.sender call.pkg, accepted⟩
        rw [wholeBytes, ← wire memory] at received
        simp only [Link.deliver, sent, Option.bind_some, received, Option.map_some]
      · have nothing : bytes = [] := List.eq_nil_of_length_eq_zero (Nat.eq_zero_of_not_pos nonempty)
        subst nothing
        rcases receive_nothing inStep.delivered with ⟨after, events, received, transport, empty⟩
        have none_announced := small.announces_nothing (Or.inr encoded)
        refine ⟨{ sender := onSendMessage link.sender call.pkg, peer := after }, ?_, ?_, empty,
          onSendMessage_outChunkSize link.sender call.pkg, ?_⟩
        · have sent : doSendMessage link.sender.outChunkSize (packetHeader call.pkg call.streamid) [] =
              some [] := rfl
          simp only [Link.deliver, sendRtmpMessage, encoded, sent, Option.map_some, Option.bind_some,
            wireBytes_nil, received]
        · rw [transport]
          exact inStep.idle
        · rw [transport, acceptedSize, none_announced]

/-! ## Agreement over a run -/

/-- The packet announces no chunk size that the peer refuses.  The comparison is
unsigned, so a negative size is not among those. -/
def SizeAccepted (pkg : RtmpBasePacket) : Prop :=
  forall size, announcedSize pkg = some size -> rtmpDefaultChunksize ≤ size

/-- At a boundary the send loop can make progress, and after a chunk size
message both ends use the same size. -/
def Boundary (call : SendCall) (link : Link) : Prop :=
  link.sender.outChunkSize ≠ 0 ∧
    (call.pkg.getMsgType = rtmpMsgSetChunkSize ->
      link.sender.outChunkSize = link.peer.rtmpTransport.inChunkSize)

/-- Every message of the run is sent, and every boundary is as it should be. -/
def ChunkSizesAgree (memory : Memory UInt8) (start : Link) (calls : List SendCall) : Prop :=
  forall sent call later, calls = sent ++ call :: later ->
    Exists fun link => start.deliverAll memory (sent ++ [call]) = some link ∧ Boundary call link

/-- The boundaries of a run are its first one and those of the rest. -/
theorem chunkSizesAgree_cons {memory : Memory UInt8} {start next : Link} {call : SendCall}
    (delivered : start.deliver memory call = some next) (calls : List SendCall) :
    ChunkSizesAgree memory start (call :: calls) ↔
      Boundary call next ∧ ChunkSizesAgree memory next calls := by
  constructor
  · intro agree
    constructor
    · rcases agree [] call calls rfl with ⟨link, ran, boundary⟩
      simp only [List.nil_append, Link.deliverAll, delivered, Option.bind_some, Option.some.injEq] at ran
      rw [ran]
      exact boundary
    · intro sent other later split
      rcases agree (call :: sent) other later (by rw [split]; rfl) with ⟨link, ran, boundary⟩
      simp only [List.cons_append, Link.deliverAll, delivered, Option.bind_some] at ran
      exact ⟨link, ran, boundary⟩
  · rintro ⟨first, rest⟩ sent other later split
    cases sent with
    | nil =>
        rw [List.nil_append, List.cons.injEq] at split
        refine ⟨next, ?_, ?_⟩
        · simp only [List.nil_append, ← split.1, Link.deliverAll, delivered, Option.bind_some]
        · rw [← split.1]
          exact first
    | cons head sent =>
        rw [List.cons_append, List.cons.injEq] at split
        rcases rest sent other later split.2 with ⟨link, ran, boundary⟩
        refine ⟨link, ?_, boundary⟩
        simp only [List.cons_append, ← split.1, Link.deliverAll, delivered, Option.bind_some, ran]

/-- An accepted size leaves both ends in step. -/
theorem deliver_inStep {memory : Memory UInt8} {link : Link} (inStep : InStep link) {call : SendCall}
    (small : SmallPacket call.pkg) (accepted : SizeAccepted call.pkg) :
    Exists fun next => link.deliver memory call = some next ∧ InStep next := by
  rcases deliver_small memory inStep small with ⟨next, delivered, idle, empty, sends, receives⟩
  refine ⟨next, delivered, idle, empty, ?_⟩
  rw [sends, receives, inStep.agree, acceptedSize]
  cases announced : announcedSize call.pkg with
  | none => rfl
  | some size => exact (if_neg (UInt32.not_lt.mpr (accepted size announced))).symm

/-- A refused size parts the two ends at once. -/
theorem deliver_refused {memory : Memory UInt8} {link next : Link} (inStep : InStep link) {call : SendCall}
    (small : SmallPacket call.pkg) (refused : ¬ SizeAccepted call.pkg)
    (delivered : link.deliver memory call = some next) : ¬ Boundary call next := by
  rcases deliver_small memory inStep small with ⟨other, deliveredToo, _, _, sends, receives⟩
  rw [delivered, Option.some.injEq] at deliveredToo
  subst deliveredToo
  intro boundary
  apply refused
  intro size announced
  have setChunkSize : call.pkg.getMsgType = rtmpMsgSetChunkSize := by
    by_contra other
    rw [announcedSize, if_neg other] at announced
    cases announced
  have same := boundary.2 setChunkSize
  rw [sends, receives, acceptedSize, announced, Option.getD_some] at same
  by_cases low : size < rtmpDefaultChunksize
  · rw [same]
    simp only [low, if_true]
    exact UInt32.le_iff_toNat_le.mpr (Idle.chunkSize_le inStep.idle)
  · exact UInt32.not_lt.mp low

theorem InStep.boundary {link : Link} (inStep : InStep link) (call : SendCall) : Boundary call link := by
  constructor
  · intro zero
    have size := Idle.chunkSize_le inStep.idle
    rw [← inStep.agree, zero] at size
    exact absurd size (by decide)
  · exact fun _ => inStep.agree

theorem chunkSizesAgree_of_accepted (memory : Memory UInt8) {start : Link} (inStep : InStep start)
    {calls : List SendCall} (small : forall call, call ∈ calls -> SmallPacket call.pkg)
    (accepted : forall call, call ∈ calls -> SizeAccepted call.pkg) :
    ChunkSizesAgree memory start calls := by
  induction calls generalizing start with
  | nil =>
      intro sent call later split
      exact absurd split.symm (List.append_ne_nil_of_right_ne_nil _ (List.cons_ne_nil _ _))
  | cons call calls inductionHypothesis =>
      have first := (List.mem_cons_self .. : call ∈ call :: calls)
      rcases deliver_inStep inStep (small call first) (accepted call first) with ⟨next, delivered, nextInStep⟩
      refine (chunkSizesAgree_cons delivered calls).mpr ⟨nextInStep.boundary call, ?_⟩
      apply inductionHypothesis nextInStep
      · intro other member
        exact small other (List.mem_cons_of_mem call member)
      · intro other member
        exact accepted other (List.mem_cons_of_mem call member)

theorem accepted_of_chunkSizesAgree {memory : Memory UInt8} {start : Link} (inStep : InStep start)
    {calls : List SendCall} (small : forall call, call ∈ calls -> SmallPacket call.pkg)
    (agree : ChunkSizesAgree memory start calls) :
    forall call, call ∈ calls -> SizeAccepted call.pkg := by
  induction calls generalizing start with
  | nil =>
      intro call member
      cases member
  | cons call calls inductionHypothesis =>
      have first := small call (List.mem_cons_self ..)
      have rest : forall other, other ∈ calls -> SmallPacket other.pkg :=
        fun other member => small other (List.mem_cons_of_mem call member)
      have accepted : SizeAccepted call.pkg := by
        by_contra refused
        rcases deliver_small memory inStep first with ⟨next, delivered, _⟩
        have boundary := ((chunkSizesAgree_cons delivered calls).mp agree).1
        exact deliver_refused inStep first refused delivered boundary
      rcases deliver_inStep inStep first accepted with ⟨next, delivered, nextInStep⟩
      have agreeRest := ((chunkSizesAgree_cons delivered calls).mp agree).2
      intro other member
      rcases List.mem_cons.mp member with here | later
      · rw [here]
        exact accepted
      · exact inductionHypothesis nextInStep rest agreeRest other later

/-- The ends agree at every boundary of a run of small messages exactly when
each announced chunk size is at least 128 as an unsigned number. -/
theorem chunkSizes_agree_iff (memory : Memory UInt8) (staleSender stalePeer : UInt32 -> UInt32)
    {calls : List SendCall} (small : forall call, call ∈ calls -> SmallPacket call.pkg) :
    ChunkSizesAgree memory (Link.new staleSender stalePeer) calls ↔
      forall call, call ∈ calls -> SizeAccepted call.pkg := by
  constructor
  · intro agree
    exact accepted_of_chunkSizesAgree (InStep.new staleSender stalePeer) small agree
  · intro accepted
    exact chunkSizesAgree_of_accepted memory (InStep.new staleSender stalePeer) small accepted

theorem smallPacket_setChunkSize (packet : RtmpSetChunkSizePacket) : SmallPacket packet.toBase where
  csLow := show 2 ≤ rtmpCidProtocolControl.toNat by decide
  csHigh := show rtmpCidProtocolControl.toNat < 64 by decide
  short := by
    intro bytes encoded
    have four : packet.encodePkg.length = 4 := Net.writeInt32_length packet.chunkSize
    rw [← Option.some.inj encoded, four]
    decide
  setChunkSize := fun _ => ⟨packet, rfl, rfl⟩

/-- The sizes 60000 and -1, one after the other. -/
def acceptedCalls : List SendCall :=
  [{ pkg := RtmpSetChunkSizePacket.toBase { chunkSize := 60000 }, streamid := 0 },
    { pkg := RtmpSetChunkSizePacket.toBase { chunkSize := -1 }, streamid := 0 }]

theorem chunkSizes_agree_accepted :
    ChunkSizesAgree (fun _ => 0) (Link.new (fun _ => 0) (fun _ => 0)) acceptedCalls := by
  apply (chunkSizes_agree_iff (fun _ => 0) (fun _ => 0) (fun _ => 0) ?_).mpr
  · intro call member size announced
    rcases List.mem_cons.mp member with first | second
    · subst first
      rw [← Option.some.inj announced]
      decide
    · rw [List.mem_singleton.mp second] at announced
      rw [← Option.some.inj announced]
      decide
  · intro call member
    rcases List.mem_cons.mp member with first | second
    · subst first
      exact smallPacket_setChunkSize _
    · rw [List.mem_singleton.mp second]
      exact smallPacket_setChunkSize _

/-- After a chunk size of 0 the ends differ, and the next message is never sent
however long the loop runs. -/
theorem chunkSizes_part_at_zero :
    ¬ ChunkSizesAgree (fun _ => 0) (Link.new (fun _ => 0) (fun _ => 0))
        [{ pkg := RtmpSetChunkSizePacket.toBase { chunkSize := 0 }, streamid := 0 }] ∧
      forall fuel, sendLoop 0 RtmpHeader.new [7] fuel { start := 0, index := 0 } = none := by
  constructor
  · intro agree
    have accepted := accepted_of_chunkSizesAgree (InStep.new _ _)
      (fun call member => by
        rw [List.mem_singleton.mp member]
        exact smallPacket_setChunkSize { chunkSize := 0 }) agree
    have positive := accepted _ (List.mem_singleton.mpr rfl) 0 rfl
    exact absurd positive (by decide)
  · intro fuel
    exact sendLoop_spins RtmpHeader.new [7] fuel { start := 0, index := 0 } (by decide)

end Client
end RtmpClient
