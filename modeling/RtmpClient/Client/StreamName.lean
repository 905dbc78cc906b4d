import RtmpClient.Client.Conversation
import RtmpClient.Client.Url

namespace RtmpClient
namespace Client

open Library Net Amf0 Rtmp

/-!
# The names that a client sends

connect names the application, the later commands name the stream.  Both were
cut from the URL by the constructor, and are handed on by other functions than
the ones that cut them.
-/

/-- The packet names the application and the stream where it names one. -/
def PacketNamed (app stream : List UInt8) : RtmpPacket -> Prop
  | .connect packet =>
      UnSortedHashtable.getProperty packet.commandObject (ascii "app") = some (.string app)
  | .fmleStart packet => packet.streamName = stream
  | .publish packet => packet.streamName = stream
  | .play packet => packet.streamName = stream
  | .call packet =>
      packet.commandName = ascii "getStreamLength" -> packet.args = some (.string stream)
  | _ => True

/-- The same for every entry of a log, whoever asked for the packet. -/
def EventNamed (app stream : List UInt8) : ClientEvent -> Prop
  | .sendPacket _ packet _ => PacketNamed app stream packet
  | _ => True

/-- In every run, every packet is named by the URL. -/
def OneStreamName (url : StreamUrl) (start : LiveClient) : Prop :=
  forall inputs client, runAll clientStep start inputs = some client ->
    forall event, event ∈ client.rest.trace -> EventNamed url.app url.stream event

/-- The push client publishes under the name of the application.  What goes
through a C string may have no zero byte. -/
def NamesAgree (url : StreamUrl) : Direction -> Prop
  | .push => url.app = url.stream ∧ 0 ∉ url.app
  | .pull => 0 ∉ url.app ∧ 0 ∉ url.stream

theorem connectPacket_app (setting : Setting) :
    UnSortedHashtable.getProperty setting.connectPacket.commandObject (ascii "app") =
      some (.string (cStr setting.rtmpStream)) := rfl

section Names

variable {url : StreamUrl} {setting : Setting}

/-- Whatever a client may log is named by the URL if the names agree. -/
theorem routine_named (agree : NamesAgree url setting.dir) (app : setting.rtmpStream = url.app)
    (stream : setting.rtmpApp = url.stream) {event : ClientEvent} (routine : event.Routine setting) :
    EventNamed url.app url.stream event := by
  have whole : cStr url.app = url.app := by
    cases dir : setting.dir with
    | push =>
        rw [dir] at agree
        exact cStr_of_not_mem agree.2
    | pull =>
        rw [dir] at agree
        exact cStr_of_not_mem agree.1
  cases routine with
  | recvMessage _ _ _ => exact trivial
  | connect member =>
      rcases List.mem_cons.mp member with rfl | member
      · refine (connectPacket_app setting).trans ?_
        rw [app, whole]
      · rw [List.mem_singleton.mp member]
        exact trivial
  | createStream member =>
      cases Setting.mem_createStreamGroup member with
      | releaseStream => exact stream
      | fcPublish => exact stream
      | createToPush => exact trivial
      | createToPull => exact trivial
      | checkBw =>
          intro other
          exact absurd other (by decide)
  | start streamid member =>
      cases Setting.mem_startGroup member with
      | setChunkSize => exact trivial
      | publish push =>
          rw [push] at agree
          exact app.trans agree.1
      | getStreamLength pull =>
          rw [pull] at agree
          intro _
          rw [stream, cStr_of_not_mem agree.2]
      | play => exact stream
      | setBufferLength => exact trivial
  | metaData _ => exact trivial
  | stop push _ =>
      rw [push] at agree
      exact app.trans agree.1

variable (handshake : RtmpHandshake) (streamid : Int32) (havestop : Bool) (stale : UInt32 -> UInt32)

theorem oneStreamName_of_agree (agree : NamesAgree url setting.dir) (app : setting.rtmpStream = url.app)
    (stream : setting.rtmpApp = url.stream) :
    OneStreamName url (.connected setting handshake streamid havestop stale) := by
  intro inputs client ran event member
  have logged : client.Logged setting := LiveClient.run_logged ran
  rcases logged.entries event member with greeting | routine
  · cases event with
    | sendPacket _ _ _ => exact False.elim greeting
    | _ => exact trivial
  · exact routine_named agree app stream routine

/-- The connect of a run. -/
theorem app_of_oneStreamName (app : setting.rtmpStream = url.app)
    (named : OneStreamName url (.connected setting handshake streamid havestop stale)) : 0 ∉ url.app := by
  have reply : (List.replicate 3073 (0x03 : UInt8)).length = 3073 := List.length_replicate
  rcases LiveClient.stands_connected setting handshake streamid havestop stale reply with
    ⟨client, step, stands⟩
  have ran : runAll clientStep (.connected setting handshake streamid havestop stale)
      [.recv (List.replicate 3073 0x03)] = some client := by
    rw [runAll, step, Option.bind_some, runAll]
  have sent : .sendPacket .own (.connect setting.connectPacket) 0 ∈ client.rest.trace := by
    rw [stands.trace_eq]
    exact List.mem_append_right _ List.mem_cons_self
  have carried : UnSortedHashtable.getProperty setting.connectPacket.commandObject (ascii "app") =
      some (.string url.app) := named _ client ran _ sent
  rw [connectPacket_app, app, Option.some.injEq, RtmpAmf0Any.string.injEq] at carried
  exact cStr_eq_self_iff.mp carried

/-- The releaseStream of a push client that is stopped at once. -/
theorem stream_of_push (push : setting.dir = .push) (app : setting.rtmpStream = url.app)
    (named : OneStreamName url (.connected setting handshake streamid havestop stale)) : url.app = url.stream := by
  let start : LiveClient := .connected setting handshake streamid havestop stale
  have positive : 0 < rtmpDefaultChunksize.toNat := by decide
  have ready : start.agent.Ready := ⟨rfl, positive⟩
  have stopped := Agent.sendRtmpPacket_eq ready (releaseStream_goesOut setting.rtmpStream) .application streamid
  have stop : start.stop = start.withAgent (start.agent.sendRtmpPacket .application
      (.fmleStart (RtmpFmleStartPacket.createReleaseStream setting.rtmpStream)) streamid) := by
    have dir : start.rest.setting.dir = .push := push
    rw [LiveClient.stop, dir]
    rfl
  have ran : runAll clientStep start [.stop] = some start.stop := rfl
  have sent : .sendPacket .application
      (.fmleStart (RtmpFmleStartPacket.createReleaseStream setting.rtmpStream)) streamid ∈ start.stop.rest.trace := by
    rw [stop, stopped]
    exact List.mem_append_right _ List.mem_cons_self
  have carried : setting.rtmpStream = url.stream := named _ _ ran _ sent
  exact app.symm.trans carried

/-- The getStreamLength of a pull client whose server answers. -/
theorem stream_of_pull (pull : setting.dir = .pull) (stream : setting.rtmpApp = url.stream)
    (named : OneStreamName url (.connected setting handshake streamid havestop stale)) : 0 ∉ url.stream := by
  have reply : (List.replicate 3073 (0x03 : UInt8)).length = 3073 := List.length_replicate
  have one : (Double.toInt32 (Double.ofNat 1)).getD (setting.outOfRange (Double.ofNat 1)) = 1 := by
    have converts : Double.toInt32 (Double.ofNat 1) = some 1 := by decide
    rw [converts, Option.getD_some]
  rcases conversation_startStream setting handshake streamid havestop stale reply one with
    ⟨first, second, client, ran, _, _, trace⟩
  let packet : RtmpCallPacket := { RtmpCallPacket.new with
    commandName := ascii "getStreamLength"
    number := Double.ofNat 4
    object := some .null
    args := some (.string (cStr setting.rtmpApp)) }
  have sent : .sendPacket .own (.call packet) 0 ∈ client.rest.trace := by
    rw [trace, Setting.startGroup, pull]
    exact List.mem_append_right _ List.mem_cons_self
  have carried : packet.commandName = ascii "getStreamLength" -> packet.args = some (.string url.stream) :=
    named _ client ran _ sent
  have name : some (RtmpAmf0Any.string (cStr setting.rtmpApp)) = some (.string url.stream) := carried rfl
  rw [stream, Option.some.injEq, RtmpAmf0Any.string.injEq] at name
  exact cStr_eq_self_iff.mp name

theorem agree_of_oneStreamName (app : setting.rtmpStream = url.app) (stream : setting.rtmpApp = url.stream)
    (named : OneStreamName url (.connected setting handshake streamid havestop stale)) :
    NamesAgree url setting.dir := by
  have noNul := app_of_oneStreamName handshake streamid havestop stale app named
  cases dir : setting.dir with
  | push => exact ⟨stream_of_push handshake streamid havestop stale dir app named, noNul⟩
  | pull => exact ⟨noNul, stream_of_pull handshake streamid havestop stale dir stream named⟩

end Names

/-- A client names the application and the stream of its URL exactly if it
pulls, or the two are the same; and if neither has a zero byte. -/
theorem oneStreamName_iff (url : StreamUrl) (setting : Setting) (undefinedPort : UInt16)
    (handshake : RtmpHandshake) (streamid : Int32) (havestop : Bool) (stale : UInt32 -> UInt32)
    {constructed : Setting} (construct : setting.construct undefinedPort url.text = some constructed) :
    OneStreamName url (.connected constructed handshake streamid havestop stale) ↔ NamesAgree url setting.dir := by
  rcases Setting.construct_text construct with ⟨dir, app, stream⟩
  rw [← dir]
  exact ⟨agree_of_oneStreamName handshake streamid havestop stale app stream,
    fun agree => oneStreamName_of_agree handshake streamid havestop stale agree app stream⟩

/-! ## The URL of `main.cc` -/

/-- `rtmp://8.135.38.10:1935/live/live1`. -/
def mainUrl : StreamUrl where
  host := ascii "8.135.38.10"
  port := some (ascii "1935")
  app := ascii "live"
  stream := ascii "live1"
  host_part := ⟨by decide, by decide, by decide⟩
  port_part := by
    intro text given
    rw [← Option.some.inj given]
    exact ⟨by decide, by decide, by decide⟩
  app_part := ⟨by decide, by decide, by decide⟩
  stream_part := ⟨by decide, by decide, by decide⟩

/-- The pull client of `main.cc` names both. -/
theorem mainClient_pull_named : OneStreamName mainUrl (mainClient .pull) := by
  have construct : (mainSetting .pull).construct 0 mainUrl.text = some (mainSetting .pull) := rfl
  have agree : NamesAgree mainUrl .pull := ⟨by decide, by decide⟩
  exact (oneStreamName_iff mainUrl (mainSetting .pull) 0 mainHandshake 0 false _ construct).mpr agree

/-- The push client publishes "live" where the stream is "live1". -/
theorem mainClient_push_misnamed :
    (mainSetting .push).construct 0 mainUrl.text = some (mainSetting .push) ∧
      ¬ OneStreamName mainUrl (mainClient .push) := by
  refine ⟨rfl, ?_⟩
  intro named
  have same : mainUrl.app = mainUrl.stream :=
    stream_of_push mainHandshake 0 false _ rfl rfl named
  exact absurd same (by decide)

end Client
end RtmpClient
