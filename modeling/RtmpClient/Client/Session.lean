import RtmpClient.Client.ProcessData
import RtmpClient.Library.Runs
import RtmpClient.Rtmp.DecodeMsg
import RtmpClient.Rtmp.Handshake

namespace RtmpClient
namespace Client

open Library Net Amf0 Rtmp

/-!
# A session of the client (`rtmpclient.cc`)

`RtmpClient` with its two subclasses, which differ in the virtual functions of
pushing and pulling.  The session logs what it sends and what it acts on, in
order.  Devices, codecs and the media they produce are left out, and so are
the files that the play client writes.
-/

/-- `RtmpClientHandshakeStatus`.  `RTMP_HANDSHAKE_CLIENT_DONE` is the last. -/
inductive RtmpClientHandshakeStatus where
  | clientStart
  | sendC0C1
  | sendC2
  deriving DecidableEq, Repr

/-- `RtmpClientPushPullStatus`. -/
inductive RtmpClientPushPullStatus where
  | connectApp
  | createStream
  | pushOrPull
  deriving DecidableEq, Repr

/-- The subclass, which is also what `dir` says. -/
inductive Direction where
  | push
  | pull
  deriving DecidableEq, Repr

/-- What `create_c0c1` is given by its surroundings. -/
structure HandshakeWorld where
  hmac : HmacSha256
  now : UInt32
  joinbytes : List UInt8
  fresh : List UInt8

/-- The members that the constructor and `start` set once.  `outOfRange` is what
the conversion of a double to `int` yields where the language leaves it open. -/
structure Setting where
  dir : Direction
  audio : Bool
  width : UInt32
  heigth : UInt32
  ip : List UInt8
  port : UInt16
  rtmpStream : List UInt8
  rtmpApp : List UInt8
  outOfRange : UInt64 -> Int32
  world : HandshakeWorld

/-- Who asked for a packet: the client by itself, or the application through
`stop`. -/
inductive Origin where
  | own
  | application
  deriving DecidableEq, Repr

/-- One entry of the log.  `recvMessage` is a message that arrives in a status,
with the requests that its decoding looks up. -/
inductive ClientEvent where
  | sendC0C1 (bytes : List UInt8)
  | processS0S1S2 (handshake : RtmpHandshake) (data : List UInt8)
  | sendC2 (bytes : List UInt8)
  | recvMessage (status : RtmpClientPushPullStatus) (requests : RequestsMap) (msg : RtmpMessage)
  | sendPacket (origin : Origin) (packet : RtmpPacket) (streamid : Int32)

/-- The members that change.  `halted` says that the program has done something
without a defined continuation, or is in a loop that never ends. -/
structure Session where
  setting : Setting
  handshake : RtmpHandshake
  status : RtmpClientHandshakeStatus
  pushPullStatus : RtmpClientPushPullStatus
  streamid : Int32
  havestop : Bool
  halted : Bool
  trace : List ClientEvent

namespace Session

def log (session : Session) (event : ClientEvent) : Session :=
  { session with trace := session.trace ++ [event] }

def halt (session : Session) : Session :=
  { session with halted := true }

end Session

/-- The client while it acts: its transport and its session. -/
abbrev Agent := Consumer Session

namespace Agent

/-! ## Sending -/

/-- `sendRtmpPacket`.  A packet whose encoding fails is dropped; a send loop that
does not end is the last thing that happens. -/
def sendRtmpPacket (origin : Origin) (packet : RtmpPacket) (streamid : Int32) (agent : Agent) : Agent :=
  if agent.rest.halted then agent
  else
    match sendRtmpMessage agent.rtmpTransport packet.toBase streamid.toUInt32 with
    | none => { agent with rest := agent.rest.halt }
    | some (_, transport) =>
        { rtmpTransport := transport
          rest := if packet.payload.isSome then agent.rest.log (.sendPacket origin packet streamid)
            else agent.rest }

/-- `sendRtmpPacket` on one packet after the other, each on its stream. -/
def sendAll (packets : List (RtmpPacket × Int32)) (agent : Agent) : Agent :=
  packets.foldl (fun agent sent => agent.sendRtmpPacket .own sent.1 sent.2) agent

def setPushPullStatus (status : RtmpClientPushPullStatus) (agent : Agent) : Agent :=
  { agent with rest := { agent.rest with pushPullStatus := status } }

end Agent

/-! ## The packets of each state -/

/-- The URL that connect carries. -/
def Setting.tcUrl (setting : Setting) : List UInt8 :=
  ascii "rtmp://" ++ setting.ip ++ ascii ":" ++ ascii (toString setting.port.toNat) ++ ascii "/" ++
    setting.rtmpStream

/-- The connect packet of `connectApp`.  `str` takes C strings. -/
def Setting.connectPacket (setting : Setting) : RtmpConnectPacket :=
  let app := RtmpConnectPacket.new.commandObject.set (ascii "app")
    (some (.string (cStr setting.rtmpStream)))
  let type := app.set (ascii "type") (some (.string (ascii "nonprivate")))
  let flashVer := type.set (ascii "flashVer") (some (.string (ascii "Jack He Rtmp Client(v0.0.1)")))
  { RtmpConnectPacket.new with
    commandObject := flashVer.set (ascii "tcUrl") (some (.string (cStr setting.tcUrl))) }

/-- What `connectApp` sends. -/
def Setting.connectGroup (setting : Setting) : List (RtmpPacket × Int32) :=
  [(.connect setting.connectPacket, 0), (.setWindowAckSize { windowAckSize := 2500000 }, 0)]

/-- What `createStream` sends for a stream name. -/
def Setting.createStreamGroup (setting : Setting) (stream : List UInt8) : List (RtmpPacket × Int32) :=
  match setting.dir with
  | .push =>
      [(.fmleStart (RtmpFmleStartPacket.createReleaseStream stream), 0),
        (.fmleStart (RtmpFmleStartPacket.createFcPublish stream), 0),
        (.createStream { RtmpCreateStreamPacket.new with number := Double.ofNat 4 }, 0)]
  | .pull =>
      [(.createStream { RtmpCreateStreamPacket.new with number := Double.ofNat 2 }, 0),
        (.call { RtmpCallPacket.new with
          commandName := ascii "_checkbw"
          number := Double.ofNat 3
          object := some .null
          args := none }, 0)]

/-- What `publish` sends. -/
def publishGroup (stream : List UInt8) (streamid : Int32) : List (RtmpPacket × Int32) :=
  [(.setChunkSize { chunkSize := 60000 }, 0),
    (.publish { RtmpPublishPacket.new with streamName := stream }, streamid)]

/-- What `play` sends.  The name in getStreamLength is `rtmp_app_`, whatever the
argument. -/
def Setting.playGroup (setting : Setting) (stream : List UInt8) (streamid : Int32) :
    List (RtmpPacket × Int32) :=
  [(.call { RtmpCallPacket.new with
      commandName := ascii "getStreamLength"
      number := Double.ofNat 4
      object := some .null
      args := some (.string (cStr setting.rtmpApp)) }, 0),
    (.play { RtmpPlayPacket.new with
      number := Double.ofNat 5
      streamName := stream
      start := Double.neg (Double.ofNat 1) }, streamid),
    (.userControl { RtmpUserControlPacket.new with
      eventType := rtmpPcucSetBufferLength
      extraData := 3 }, 0)]

/-- What `startPushStream` or `startPullStream` sends. -/
def Setting.startGroup (setting : Setting) (streamid : Int32) : List (RtmpPacket × Int32) :=
  match setting.dir with
  | .push => publishGroup setting.rtmpStream streamid
  | .pull => setting.playGroup setting.rtmpApp streamid

/-- The packet of `sendMetaData`. -/
def Setting.metaDataPacket (setting : Setting) : RtmpOnMetaDataPacket :=
  let video : List (List UInt8 × RtmpAmf0Any) :=
    [(ascii "duration", .number 0), (ascii "width", .number (Double.ofNat setting.width.toNat)),
      (ascii "height", .number (Double.ofNat setting.heigth.toNat)),
      (ascii "framerate", .number (Double.ofNat 25)), (ascii "videocodecid", .number (Double.ofNat 7))]
  let sound : List (List UInt8 × RtmpAmf0Any) :=
    [(ascii "audiocodecid", .number (Double.ofNat 8)), (ascii "audiosamplerate", .number (Double.ofNat 8000)),
      (ascii "audiosamplesize", .number (Double.ofNat 16)), (ascii "stereo", .boolean false)]
  { RtmpOnMetaDataPacket.new with
    metadata := (video ++ if setting.audio then sound else []).foldl
      (fun table property => UnSortedHashtable.set table property.1 (some property.2)) [] }

/-! ## Acting on packets -/

/-- `pkg->args->to_object()->get_property("code")->to_str()`; `none` where one of
the pointers is null. -/
def statusCode (packet : RtmpCallPacket) : Option (List UInt8) :=
  match packet.args with
  | some (.object properties) =>
      match UnSortedHashtable.getProperty properties (ascii "code") with
      | some (.string value) => some value
      | _ => none
  | _ => none

namespace Agent

/-- `connectApp`. -/
def connectApp (agent : Agent) : Agent :=
  (agent.sendAll agent.rest.setting.connectGroup).setPushPullStatus .connectApp

/-- `createStream`. -/
def createStream (stream : List UInt8) (agent : Agent) : Agent :=
  (agent.sendAll (agent.rest.setting.createStreamGroup stream)).setPushPullStatus .createStream

/-- `startPushStream` or `startPullStream`. -/
def startStream (agent : Agent) : Agent :=
  (agent.sendAll (agent.rest.setting.startGroup agent.rest.streamid)).setPushPullStatus .pushOrPull

/-- `streamid = (int)pkg->streamid_`. -/
def setStreamid (streamid : UInt64) (agent : Agent) : Agent :=
  { agent with rest := { agent.rest with
    streamid := (Double.toInt32 streamid).getD (agent.rest.setting.outOfRange streamid) } }

/-- What follows an onStatus call.  Only the publish client overrides
`onPublishStart`; its `onPublishStop` closes handles of the event loop. -/
def onStatus (value : List UInt8) (agent : Agent) : Agent :=
  if value = ascii "NetStream.Publish.Start" then
    match agent.rest.setting.dir with
    | .push => agent.sendAll [(.onMetaData agent.rest.setting.metaDataPacket, agent.rest.streamid)]
    | .pull => agent
  else if value = ascii "NetStream.Unpublish.Success" then
    { agent with rest := { agent.rest with havestop := true } }
  else agent

/-- One packet of the loop of `processData`. -/
def handle (packet : RtmpPacket) (agent : Agent) : Agent :=
  match agent.rest.pushPullStatus with
  | .connectApp =>
      match packet with
      | .connectResponse _ => agent.createStream agent.rest.setting.rtmpApp
      | _ => agent
  | .createStream =>
      match packet with
      | .createStreamResponse packet => (agent.setStreamid packet.streamid).startStream
      | _ => agent
  | .pushOrPull =>
      match packet with
      | .call packet =>
          if packet.commandName = ascii "onStatus" then
            match statusCode packet with
            | none => { agent with rest := agent.rest.halt }
            | some value => agent.onStatus value
          else agent
      | _ => agent

end Agent

/-! ## Receiving -/

/-- A completed message and the requests recorded when it was completed. -/
structure Arrival where
  requests : RequestsMap
  msg : RtmpMessage

namespace Arrival

/-- The message is set aside; `Agent.receive` decodes it. -/
def arrived (msg : RtmpMessage) (requests : RequestsMap) : Option (Option Arrival) := some (some { requests, msg })

/-- What `recvRtmpMessage` does with it for its caller. -/
def packet (arrival : Arrival) : Outcome (Option RtmpPacket) := messagePacket arrival.requests arrival.msg

end Arrival

namespace Agent

def log (event : ClientEvent) (agent : Agent) : Agent :=
  { agent with rest := agent.rest.log event }

/-- One completed message: it is logged, decoded, and acted on. -/
def receive (arrival : Arrival) (agent : Agent) : Agent :=
  if agent.rest.halted then agent
  else
    let logged := agent.log (.recvMessage agent.rest.pushPullStatus arrival.requests arrival.msg)
    match arrival.packet with
    | .ok (some packet) => logged.handle packet
    | .ok none => logged
    | .error _ => logged
    | .fault => { logged with rest := logged.rest.halt }

end Agent

/-! ## The client -/

/-- The client with its cache, its transport and its session. -/
abbrev LiveClient := RtmpClientState Session

namespace LiveClient

/-- The transport and the session, which is what packets are handled with. -/
def agent (client : LiveClient) : Agent where
  rtmpTransport := client.rtmpTransport
  rest := client.rest

/-- The client after they have changed. -/
def withAgent (client : LiveClient) (agent : Agent) : LiveClient :=
  { client with rtmpTransport := agent.rtmpTransport, rest := agent.rest }

def halt (client : LiveClient) : LiveClient :=
  { client with rest := client.rest.halt }

/-- The reply is complete: it is parsed, whatever comes of it, and answered with
C2 and the commands of `connectApp`. -/
def answerReply (client : LiveClient) : LiveClient :=
  let client := client.withAgent
    (client.agent.log (.processS0S1S2 client.rest.handshake client.dataCache.bytes))
  match client.rest.handshake.processS0S1S2 client.dataCache.bytes with
  | .ok result =>
      match result.handshake.createC2 with
      | .ok handshake =>
          let session := { client.rest.log (.sendC2 handshake.c2) with handshake, status := .sendC2 }
          let client : LiveClient :=
            { client with rest := session, dataCache := client.dataCache.popData 3073 }
          client.withAgent client.agent.connectApp
      | _ => client.halt
  | _ => client.halt

/-- `doHandshake`. -/
def doHandshake (client : LiveClient) (data : List UInt8) : LiveClient :=
  match client.rest.status with
  | .clientStart =>
      let world := client.rest.setting.world
      match client.rest.handshake.createC0C1 world.hmac .schemaType1 world.now world.joinbytes world.fresh with
      | .ok handshake =>
          { client with rest := { client.rest.log (.sendC0C1 handshake.c0c1) with
            handshake, status := .sendC0C1 } }
      | _ => client.halt
  | .sendC0C1 =>
      let client : LiveClient := { client with dataCache := client.dataCache.pushData data }
      if client.dataCache.require 3073 then client.answerReply else client
  | .sendC2 => client

/-- `onConnect`. -/
def onConnect (client : LiveClient) (status : Int) : LiveClient :=
  if status = 0 then client.doHandshake [] else client

/-- `onRecvData`; `none` when `recvRtmpMessage` touches memory that it does not
own. -/
def onRecvData (client : LiveClient) (data : List UInt8) : Option LiveClient :=
  match client.rest.status with
  | .sendC2 =>
      (processData Arrival.arrived
        (fun rest rtmpTransport arrival =>
          let agent := Agent.receive arrival { rtmpTransport, rest }
          (agent.rest, agent.rtmpTransport)) client data).map Prod.fst
  | _ => some (client.doHandshake data)

/-- `stop`. -/
def stop (client : LiveClient) : LiveClient :=
  match client.rest.setting.dir with
  | .push => client.withAgent (client.agent.sendRtmpPacket .application
      (.fmleStart (RtmpFmleStartPacket.createReleaseStream client.rest.setting.rtmpStream)) client.rest.streamid)
  | .pull => client

end LiveClient

/-- What drives the client: reads of its socket, and the application. -/
inductive ClientInput where
  | recv (data : List UInt8)
  | stop

/-- A halted client takes no step. -/
def clientStep (client : LiveClient) (input : ClientInput) : Option LiveClient :=
  if client.rest.halted then none
  else
    match input with
    | .recv data => client.onRecvData data
    | .stop => some client.stop

namespace LiveClient

/-- The client that `start` leaves.  `streamid` and `havestop` are not set. -/
def new (setting : Setting) (handshake : RtmpHandshake) (streamid : Int32) (havestop : Bool)
    (stale : UInt32 -> UInt32) : LiveClient where
  dataCache := DataCacheBuf.new
  rtmpTransport := RtmpMessageTransport.new stale
  rest :=
    { setting
      handshake
      status := .clientStart
      pushPullStatus := .connectApp
      streamid
      havestop
      halted := false
      trace := [] }

/-- The client when C0C1 is sent. -/
def connected (setting : Setting) (handshake : RtmpHandshake) (streamid : Int32) (havestop : Bool)
    (stale : UInt32 -> UInt32) : LiveClient :=
  let client := new setting handshake streamid havestop stale
  { client with rest := { client.rest.log (.sendC0C1 handshake.c0c1) with status := .sendC0C1 } }

/-- This is what `onConnect` makes of a new client, with the C0C1 that was
created. -/
theorem onConnect_new (setting : Setting) {handshake created : RtmpHandshake} (streamid : Int32) (havestop : Bool)
    (stale : UInt32 -> UInt32)
    (creates : handshake.createC0C1 setting.world.hmac .schemaType1 setting.world.now setting.world.joinbytes
      setting.world.fresh = .ok created) :
    (new setting handshake streamid havestop stale).onConnect 0 = connected setting created streamid havestop stale := by
  show (new setting handshake streamid havestop stale).doHandshake [] = _
  simp only [doHandshake, new, creates]
  rfl

end LiveClient

end Client
end RtmpClient
