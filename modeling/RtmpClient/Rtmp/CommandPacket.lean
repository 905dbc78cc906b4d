import RtmpClient.Amf0.Read
import RtmpClient.Amf0.Write
import RtmpClient.Library.CppString
import RtmpClient.Library.Double
import RtmpClient.Rtmp.Transport

namespace RtmpClient
namespace Rtmp

open Library Amf0

/-!
# Command and data packets (`rtmp_stack_packet.cc`)

The packets whose bodies are AMF0 values one behind another.  A pointer to an
object is the table of its properties, a pointer that may be null an `Option`.
Fields that are set in the constructor and never looked at are left out.
`decode` answers with its return value and the packet it leaves; the decoders
that are `return 0` and that no message reaches are left out too.
-/

def rtmpMsgAmf0DataMessage : UInt8 := 18
def rtmpMsgAmf3DataMessage : UInt8 := 15

def rtmpCidOverConnection2 : UInt32 := 0x04
def rtmpCidOverStream : UInt32 := 0x05

/-- `RtmpAmf0Object::total_size` of the object with this table. -/
def objectSize (properties : UnSortedHashtable RtmpAmf0Any) : Nat := (RtmpAmf0Any.object properties).byteSize

/-- `RtmpAmf0Object::write` of the object with this table. -/
def writeObject (properties : UnSortedHashtable RtmpAmf0Any) : Writer UInt8 :=
  (RtmpAmf0Any.object properties).write

/-- `RtmpAmf0Size::any`, which is 0 for a null pointer. -/
def anySize (value : Option RtmpAmf0Any) : Nat := (value.map RtmpAmf0Any.byteSize).getD 0

/-- What most commands begin with: a name, read into a variable that holds
`held` and then checked, a transaction number, and null. -/
def readHead (held : List UInt8) (accepts : List UInt8 -> Bool) : Reader UInt8 (List UInt8 × UInt64) :=
  fun data => do
    let (ret, commandName) ← rtmpAmf0ReadString held data
    if accepts commandName then do
      let (ret₁, number) ← rtmpAmf0ReadNumber (data.drop ret)
      let (ret₂, _) ← rtmpAmf0ReadNull (data.drop (ret + ret₁))
      return (ret + ret₁ + ret₂, (commandName, number))
    else .error (-2)

/-! ## connect -/

/-- `RtmpConnectPacket`. -/
structure RtmpConnectPacket where
  commandName : List UInt8
  number : UInt64
  commandObject : UnSortedHashtable RtmpAmf0Any
  deriving Repr

namespace RtmpConnectPacket

def new : RtmpConnectPacket where
  commandName := ascii "connect"
  number := Double.ofNat 1
  commandObject := []

def getPkgLen (packet : RtmpConnectPacket) : Nat :=
  RtmpAmf0Size.str packet.commandName + RtmpAmf0Size.number + objectSize packet.commandObject

def encodePkg (packet : RtmpConnectPacket) : Writer UInt8 :=
  writeAll [rtmpAmf0WriteString packet.commandName, rtmpAmf0WriteNumber packet.number,
    writeObject packet.commandObject]

/-- `decode`.  A wrong name or number jumps to the label `error` with the
count of the last read in `ret`, which is no error for the caller; success is
`return 0`. -/
def decode (packet : RtmpConnectPacket) : Reader UInt8 RtmpConnectPacket := fun data => do
  let (ret, commandName) ← rtmpAmf0ReadString packet.commandName data
  if commandName = ascii "connect" then do
    let (ret₁, number) ← rtmpAmf0ReadNumber (data.drop ret)
    if doubleEq number (Double.ofNat 1) then do
      let (_, commandObject) ←
        RtmpAmf0Object.read rtmpAmf0ReadAny packet.commandObject (data.drop (ret + ret₁))
      return (0, { commandName, number, commandObject })
    else return (ret₁, { packet with commandName, number })
  else return (ret, { packet with commandName })

end RtmpConnectPacket

/-- `RtmpConnectResponsePacket`. -/
structure RtmpConnectResponsePacket where
  commandName : List UInt8
  number : UInt64
  object : UnSortedHashtable RtmpAmf0Any
  info : UnSortedHashtable RtmpAmf0Any
  deriving Repr

namespace RtmpConnectResponsePacket

def new : RtmpConnectResponsePacket where
  commandName := ascii "_result"
  number := Double.ofNat 1
  object := []
  info := []

def getPkgLen (packet : RtmpConnectResponsePacket) : Nat :=
  RtmpAmf0Size.str packet.commandName + RtmpAmf0Size.number + objectSize packet.object +
    objectSize packet.info

def encodePkg (packet : RtmpConnectResponsePacket) : Writer UInt8 :=
  writeAll [rtmpAmf0WriteString packet.commandName, rtmpAmf0WriteNumber packet.number,
    writeObject packet.object, writeObject packet.info]

/-- The optional first value: an object replaces the one of the constructor,
anything else is thrown away. -/
def readObjectPart (held : UnSortedHashtable RtmpAmf0Any) : Reader UInt8 (UnSortedHashtable RtmpAmf0Any) :=
  fun data =>
    if data.length > 0 then do
      let (ret, value) ← (rtmpAmf0ReadAny data).errorAs (-1)
      match value with
      | .object properties => return (ret, properties)
      | _ => return (ret, held)
    else return (0, held)

def decode (packet : RtmpConnectResponsePacket) : Reader UInt8 RtmpConnectResponsePacket := fun data => do
  let (ret, commandName) ← (rtmpAmf0ReadString packet.commandName data).errorAs (-1)
  if commandName = ascii "_result" then do
    let (ret₁, number) ← (rtmpAmf0ReadNumber (data.drop ret)).errorAs (-1)
    let (ret₂, object) ← readObjectPart packet.object (data.drop (ret + ret₁))
    let (ret₃, info) ← RtmpAmf0Object.read rtmpAmf0ReadAny packet.info (data.drop (ret + ret₁ + ret₂))
    return (ret + ret₁ + ret₂ + ret₃, { commandName, number, object, info })
  else .error (-2)

end RtmpConnectResponsePacket

/-! ## Calls -/

/-- `RtmpCallPacket`. -/
structure RtmpCallPacket where
  commandName : List UInt8
  number : UInt64
  object : Option RtmpAmf0Any
  args : Option RtmpAmf0Any
  deriving Repr

/-- A value behind a pointer, written only if the pointer is not null. -/
def optionalWrites (value : Option RtmpAmf0Any) : List (Writer UInt8) :=
  value.toList.map RtmpAmf0Any.write

namespace RtmpCallPacket

def new : RtmpCallPacket where
  commandName := []
  number := 0
  object := none
  args := none

def getPkgLen (packet : RtmpCallPacket) : Nat :=
  RtmpAmf0Size.str packet.commandName + RtmpAmf0Size.number + anySize packet.object + anySize packet.args

/-- `encode_pkg`, which answers every error with -1. -/
def encodePkg (packet : RtmpCallPacket) : Writer UInt8 := fun size =>
  (writeAll ([rtmpAmf0WriteString packet.commandName, rtmpAmf0WriteNumber packet.number] ++
    optionalWrites packet.object ++ optionalWrites packet.args) size).errorAs (-1)

/-- `discovery` and then the virtual `read` of the instance it made. -/
def readDiscovered : Reader UInt8 RtmpAmf0Any := fun data => do
  let value ← RtmpAmf0Any.discovery data
  value.read rtmpAmf0ReadAny data

/-- `decode`.  The object is read in any case, the arguments if bytes are
left. -/
def decode (packet : RtmpCallPacket) : Reader UInt8 RtmpCallPacket := fun data => do
  let (ret, commandName) ← rtmpAmf0ReadString packet.commandName data
  if commandName = [] then .error (-2)
  else do
    let (ret₁, number) ← (rtmpAmf0ReadNumber (data.drop ret)).errorAs (-1)
    let (ret₂, object) ← readDiscovered (data.drop (ret + ret₁))
    let offset := ret + ret₁ + ret₂
    if offset < data.length then do
      let (ret₃, args) ← readDiscovered (data.drop offset)
      return (offset + ret₃, { commandName, number, object := some object, args := some args })
    else return (offset, { packet with commandName, number, object := some object })

end RtmpCallPacket

/-- `RtmpCallResponsePacket`. -/
structure RtmpCallResponsePacket where
  commandName : List UInt8
  number : UInt64
  object : Option RtmpAmf0Any
  response : Option RtmpAmf0Any
  deriving Repr

namespace RtmpCallResponsePacket

def new (id : UInt64) : RtmpCallResponsePacket where
  commandName := ascii "_result"
  number := id
  object := none
  response := none

def getPkgLen (packet : RtmpCallResponsePacket) : Nat :=
  RtmpAmf0Size.str packet.commandName + RtmpAmf0Size.number + anySize packet.object +
    anySize packet.response

def encodePkg (packet : RtmpCallResponsePacket) : Writer UInt8 :=
  writeAll ([rtmpAmf0WriteString packet.commandName, rtmpAmf0WriteNumber packet.number] ++
    optionalWrites packet.object ++ optionalWrites packet.response)

end RtmpCallResponsePacket

/-! ## createStream and closeStream -/

/-- `RtmpCreateStreamPacket`. -/
structure RtmpCreateStreamPacket where
  commandName : List UInt8
  number : UInt64
  deriving DecidableEq, Repr

namespace RtmpCreateStreamPacket

def new : RtmpCreateStreamPacket where
  commandName := ascii "createStream"
  number := Double.ofNat 2

def getPkgLen (packet : RtmpCreateStreamPacket) : Nat :=
  RtmpAmf0Size.str packet.commandName + RtmpAmf0Size.number + RtmpAmf0Size.null

def encodePkg (packet : RtmpCreateStreamPacket) : Writer UInt8 :=
  writeAll [rtmpAmf0WriteString packet.commandName, rtmpAmf0WriteNumber packet.number, rtmpAmf0WriteNull]

def decode (packet : RtmpCreateStreamPacket) : Reader UInt8 RtmpCreateStreamPacket := fun data => do
  let (ret, commandName, number) ← readHead packet.commandName (· = ascii "createStream") data
  return (ret, { commandName, number })

end RtmpCreateStreamPacket

/-- `RtmpCreateStreamResponsePacket`. -/
structure RtmpCreateStreamResponsePacket where
  commandName : List UInt8
  number : UInt64
  streamid : UInt64
  deriving DecidableEq, Repr

namespace RtmpCreateStreamResponsePacket

def new (id streamid : UInt64) : RtmpCreateStreamResponsePacket where
  commandName := ascii "_result"
  number := id
  streamid := streamid

def getPkgLen (packet : RtmpCreateStreamResponsePacket) : Nat :=
  RtmpAmf0Size.str packet.commandName + RtmpAmf0Size.number + RtmpAmf0Size.null + RtmpAmf0Size.number

def encodePkg (packet : RtmpCreateStreamResponsePacket) : Writer UInt8 :=
  writeAll [rtmpAmf0WriteString packet.commandName, rtmpAmf0WriteNumber packet.number, rtmpAmf0WriteNull,
    rtmpAmf0WriteNumber packet.streamid]

def decode (packet : RtmpCreateStreamResponsePacket) : Reader UInt8 RtmpCreateStreamResponsePacket :=
  fun data => do
    let (ret, commandName, number) ← readHead packet.commandName (· = ascii "_result") data
    let (ret₁, streamid) ← rtmpAmf0ReadNumber (data.drop ret)
    return (ret + ret₁, { commandName, number, streamid })

end RtmpCreateStreamResponsePacket

/-- `RtmpCloseStreamPacket`. -/
structure RtmpCloseStreamPacket where
  commandName : List UInt8
  number : UInt64
  deriving DecidableEq, Repr

namespace RtmpCloseStreamPacket

def new : RtmpCloseStreamPacket where
  commandName := ascii "closeStream"
  number := 0

/-- It has no body and writes none. -/
def getPkgLen (_packet : RtmpCloseStreamPacket) : Nat := 0

def encodePkg (_packet : RtmpCloseStreamPacket) : Writer UInt8 := fun _ => .ok []

def decode (packet : RtmpCloseStreamPacket) : Reader UInt8 RtmpCloseStreamPacket := fun data => do
  let (ret, commandName, number) ← readHead packet.commandName (fun _ => true) data
  return (ret, { commandName, number })

end RtmpCloseStreamPacket

/-! ## releaseStream, FCPublish and FCUnpublish -/

/-- `RtmpFMLEStartPacket`. -/
structure RtmpFmleStartPacket where
  commandName : List UInt8
  number : UInt64
  streamName : List UInt8
  deriving DecidableEq, Repr

namespace RtmpFmleStartPacket

def new : RtmpFmleStartPacket where
  commandName := ascii "releaseStream"
  number := 0
  streamName := []

def createReleaseStream (stream : List UInt8) : RtmpFmleStartPacket :=
  { new with commandName := ascii "releaseStream", number := Double.ofNat 2, streamName := stream }

def createFcPublish (stream : List UInt8) : RtmpFmleStartPacket :=
  { new with commandName := ascii "FCPublish", number := Double.ofNat 3, streamName := stream }

def getPkgLen (packet : RtmpFmleStartPacket) : Nat :=
  RtmpAmf0Size.str packet.commandName + RtmpAmf0Size.number + RtmpAmf0Size.null +
    RtmpAmf0Size.str packet.streamName

def encodePkg (packet : RtmpFmleStartPacket) : Writer UInt8 :=
  writeAll [rtmpAmf0WriteString packet.commandName, rtmpAmf0WriteNumber packet.number, rtmpAmf0WriteNull,
    rtmpAmf0WriteString packet.streamName]

/-- The names that `decode` accepts. -/
def accepts (commandName : List UInt8) : Bool :=
  commandName = ascii "releaseStream" || commandName = ascii "FCPublish" || commandName = ascii "FCUnpublish"

def decode (packet : RtmpFmleStartPacket) : Reader UInt8 RtmpFmleStartPacket := fun data => do
  let (ret, commandName, number) ← readHead packet.commandName accepts data
  let (ret₁, streamName) ← rtmpAmf0ReadString packet.streamName (data.drop ret)
  return (ret + ret₁, { commandName, number, streamName })

end RtmpFmleStartPacket

/-- `RtmpFMLEStartResponsePacket`. -/
structure RtmpFmleStartResponsePacket where
  commandName : List UInt8
  number : UInt64
  deriving DecidableEq, Repr

namespace RtmpFmleStartResponsePacket

def new (id : UInt64) : RtmpFmleStartResponsePacket where
  commandName := ascii "_result"
  number := id

def getPkgLen (packet : RtmpFmleStartResponsePacket) : Nat :=
  RtmpAmf0Size.str packet.commandName + RtmpAmf0Size.number + RtmpAmf0Size.null + RtmpAmf0Size.undefined

def encodePkg (packet : RtmpFmleStartResponsePacket) : Writer UInt8 :=
  writeAll [rtmpAmf0WriteString packet.commandName, rtmpAmf0WriteNumber packet.number, rtmpAmf0WriteNull,
    rtmpAmf0WriteUndefined]

def decode (packet : RtmpFmleStartResponsePacket) : Reader UInt8 RtmpFmleStartResponsePacket :=
  fun data => do
    let (ret, commandName, number) ← readHead packet.commandName (· = ascii "_result") data
    let (ret₁, _) ← rtmpAmf0ReadUndefined (data.drop ret)
    return (ret + ret₁, { commandName, number })

end RtmpFmleStartResponsePacket

/-! ## publish, pause and play -/

/-- `RtmpPublishPacket`. -/
structure RtmpPublishPacket where
  commandName : List UInt8
  number : UInt64
  streamName : List UInt8
  type : List UInt8
  deriving DecidableEq, Repr

namespace RtmpPublishPacket

def new : RtmpPublishPacket where
  commandName := ascii "publish"
  number := 0
  streamName := []
  type := ascii "live"

def getPkgLen (packet : RtmpPublishPacket) : Nat :=
  RtmpAmf0Size.str packet.commandName + RtmpAmf0Size.number + RtmpAmf0Size.null +
    RtmpAmf0Size.str packet.streamName + RtmpAmf0Size.str packet.type

def encodePkg (packet : RtmpPublishPacket) : Writer UInt8 :=
  writeAll [rtmpAmf0WriteString packet.commandName, rtmpAmf0WriteNumber packet.number, rtmpAmf0WriteNull,
    rtmpAmf0WriteString packet.streamName, rtmpAmf0WriteString packet.type]

/-- `decode`.  Without bytes for it the type stays the one of the packet. -/
def decode (packet : RtmpPublishPacket) : Reader UInt8 RtmpPublishPacket := fun data => do
  let (ret, commandName, number) ← readHead packet.commandName (· = ascii "publish") data
  let (ret₁, streamName) ← rtmpAmf0ReadString packet.streamName (data.drop ret)
  let offset := ret + ret₁
  if offset < data.length then do
    let (ret₂, type) ← rtmpAmf0ReadString packet.type (data.drop offset)
    return (offset + ret₂, { commandName, number, streamName, type })
  else return (offset, { packet with commandName, number, streamName })

end RtmpPublishPacket

/-- `RtmpPausePacket`. -/
structure RtmpPausePacket where
  commandName : List UInt8
  number : UInt64
  pause : Bool
  time : UInt64
  deriving DecidableEq, Repr

namespace RtmpPausePacket

def new : RtmpPausePacket where
  commandName := ascii "pause"
  number := 0
  pause := true
  time := 0

/-- It has no body and writes none. -/
def getPkgLen (_packet : RtmpPausePacket) : Nat := 0

def encodePkg (_packet : RtmpPausePacket) : Writer UInt8 := fun _ => .ok []

def decode (packet : RtmpPausePacket) : Reader UInt8 RtmpPausePacket := fun data => do
  let (ret, commandName, number) ← readHead packet.commandName (· = ascii "pause") data
  let (ret₁, pause) ← rtmpAmf0ReadBoolean (data.drop ret)
  let (ret₂, time) ← rtmpAmf0ReadNumber (data.drop (ret + ret₁))
  return (ret + ret₁ + ret₂, { commandName, number, pause, time })

end RtmpPausePacket

/-- `RtmpPlayPacket`. -/
structure RtmpPlayPacket where
  commandName : List UInt8
  number : UInt64
  streamName : List UInt8
  start : UInt64
  duration : UInt64
  reset : Bool
  deriving DecidableEq, Repr

namespace RtmpPlayPacket

def new : RtmpPlayPacket where
  commandName := ascii "play"
  number := 0
  streamName := []
  start := Double.neg (Double.ofNat 2)
  duration := Double.neg (Double.ofNat 1)
  reset := true

/-- `!reset`. -/
def hasReset (packet : RtmpPlayPacket) : Bool := !packet.reset

/-- `duration != -1 || !reset`. -/
def hasDuration (packet : RtmpPlayPacket) : Bool :=
  !doubleEq packet.duration (Double.neg (Double.ofNat 1)) || packet.hasReset

/-- `start != -2 || duration != -1 || !reset`. -/
def hasStart (packet : RtmpPlayPacket) : Bool :=
  !doubleEq packet.start (Double.neg (Double.ofNat 2)) || packet.hasDuration

def getPkgLen (packet : RtmpPlayPacket) : Nat :=
  RtmpAmf0Size.str packet.commandName + RtmpAmf0Size.number + RtmpAmf0Size.null +
    RtmpAmf0Size.str packet.streamName +
    (if packet.hasStart then RtmpAmf0Size.number else 0) +
    (if packet.hasDuration then RtmpAmf0Size.number else 0) +
    (if packet.hasReset then RtmpAmf0Size.boolean else 0)

def encodePkg (packet : RtmpPlayPacket) : Writer UInt8 :=
  writeAll ([rtmpAmf0WriteString packet.commandName, rtmpAmf0WriteNumber packet.number, rtmpAmf0WriteNull,
    rtmpAmf0WriteString packet.streamName] ++
    (if packet.hasStart then [rtmpAmf0WriteNumber packet.start] else []) ++
    (if packet.hasDuration then [rtmpAmf0WriteNumber packet.duration] else []) ++
    (if packet.hasReset then [rtmpAmf0WriteBoolean packet.reset] else []))

/-- An optional number: the variable keeps its value if no byte is left. -/
def readOptionalNumber (held : UInt64) : Reader UInt8 UInt64 := fun data =>
  if data.length > 0 then rtmpAmf0ReadNumber data else .ok (0, held)

/-- The optional reset flag, a boolean or a number. -/
def readReset (held : Bool) : Reader UInt8 Bool := fun data =>
  if data.length > 0 then do
    let (ret, value) ← rtmpAmf0ReadAny data
    match value with
    | .boolean value => return (ret, value)
    | .number value => return (ret, !doubleEq value 0)
    | _ => .error (-2)
  else .ok (0, held)

def decode (packet : RtmpPlayPacket) : Reader UInt8 RtmpPlayPacket := fun data => do
  let (ret, commandName, number) ← readHead packet.commandName (· = ascii "play") data
  let (ret₁, streamName) ← rtmpAmf0ReadString packet.streamName (data.drop ret)
  let (ret₂, start) ← readOptionalNumber packet.start (data.drop (ret + ret₁))
  let (ret₃, duration) ← readOptionalNumber packet.duration (data.drop (ret + ret₁ + ret₂))
  let (ret₄, reset) ← readReset packet.reset (data.drop (ret + ret₁ + ret₂ + ret₃))
  return (ret + ret₁ + ret₂ + ret₃ + ret₄, { commandName, number, streamName, start, duration, reset })

end RtmpPlayPacket

/-- `RtmpPlayResponsePacket`. -/
structure RtmpPlayResponsePacket where
  commandName : List UInt8
  number : UInt64
  desc : UnSortedHashtable RtmpAmf0Any
  deriving Repr

namespace RtmpPlayResponsePacket

def new : RtmpPlayResponsePacket where
  commandName := ascii "_result"
  number := 0
  desc := []

def getPkgLen (packet : RtmpPlayResponsePacket) : Nat :=
  RtmpAmf0Size.str packet.commandName + RtmpAmf0Size.number + RtmpAmf0Size.null + objectSize packet.desc

def encodePkg (packet : RtmpPlayResponsePacket) : Writer UInt8 :=
  writeAll [rtmpAmf0WriteString packet.commandName, rtmpAmf0WriteNumber packet.number, rtmpAmf0WriteNull,
    writeObject packet.desc]

end RtmpPlayResponsePacket

/-! ## onBWDone, onStatus and data messages -/

/-- `RtmpOnBWDonePacket`. -/
structure RtmpOnBwDonePacket where
  commandName : List UInt8
  number : UInt64
  deriving DecidableEq, Repr

namespace RtmpOnBwDonePacket

def new : RtmpOnBwDonePacket where
  commandName := ascii "onBWDone"
  number := 0

def getPkgLen (packet : RtmpOnBwDonePacket) : Nat :=
  RtmpAmf0Size.str packet.commandName + RtmpAmf0Size.number + RtmpAmf0Size.null

def encodePkg (packet : RtmpOnBwDonePacket) : Writer UInt8 :=
  writeAll [rtmpAmf0WriteString packet.commandName, rtmpAmf0WriteNumber packet.number, rtmpAmf0WriteNull]

end RtmpOnBwDonePacket

/-- `RtmpOnStatusCallPacket`. -/
structure RtmpOnStatusCallPacket where
  commandName : List UInt8
  number : UInt64
  data : UnSortedHashtable RtmpAmf0Any
  deriving Repr

namespace RtmpOnStatusCallPacket

def new : RtmpOnStatusCallPacket where
  commandName := ascii "onStatus"
  number := 0
  data := []

def getPkgLen (packet : RtmpOnStatusCallPacket) : Nat :=
  RtmpAmf0Size.str packet.commandName + RtmpAmf0Size.number + RtmpAmf0Size.null + objectSize packet.data

def encodePkg (packet : RtmpOnStatusCallPacket) : Writer UInt8 :=
  writeAll [rtmpAmf0WriteString packet.commandName, rtmpAmf0WriteNumber packet.number, rtmpAmf0WriteNull,
    writeObject packet.data]

end RtmpOnStatusCallPacket

/-- `RtmpOnStatusDataPacket`. -/
structure RtmpOnStatusDataPacket where
  commandName : List UInt8
  data : UnSortedHashtable RtmpAmf0Any
  deriving Repr

namespace RtmpOnStatusDataPacket

def new : RtmpOnStatusDataPacket where
  commandName := ascii "onStatus"
  data := []

def getPkgLen (packet : RtmpOnStatusDataPacket) : Nat :=
  RtmpAmf0Size.str packet.commandName + objectSize packet.data

def encodePkg (packet : RtmpOnStatusDataPacket) : Writer UInt8 :=
  writeAll [rtmpAmf0WriteString packet.commandName, writeObject packet.data]

end RtmpOnStatusDataPacket

/-- `RtmpSampleAccessPacket`. -/
structure RtmpSampleAccessPacket where
  commandName : List UInt8
  videoSampleAccess : Bool
  audioSampleAccess : Bool
  deriving DecidableEq, Repr

namespace RtmpSampleAccessPacket

def new : RtmpSampleAccessPacket where
  commandName := ascii "|RtmpSampleAccess"
  videoSampleAccess := false
  audioSampleAccess := false

def getPkgLen (packet : RtmpSampleAccessPacket) : Nat :=
  RtmpAmf0Size.str packet.commandName + RtmpAmf0Size.boolean + RtmpAmf0Size.boolean

def encodePkg (packet : RtmpSampleAccessPacket) : Writer UInt8 :=
  writeAll [rtmpAmf0WriteString packet.commandName, rtmpAmf0WriteBoolean packet.videoSampleAccess,
    rtmpAmf0WriteBoolean packet.audioSampleAccess]

end RtmpSampleAccessPacket

/-- `RtmpOnMetaDataPacket`. -/
structure RtmpOnMetaDataPacket where
  commandName : List UInt8
  metadata : UnSortedHashtable RtmpAmf0Any
  deriving Repr

namespace RtmpOnMetaDataPacket

def new : RtmpOnMetaDataPacket where
  commandName := ascii "onMetaData"
  metadata := []

def getPkgLen (packet : RtmpOnMetaDataPacket) : Nat :=
  RtmpAmf0Size.str packet.commandName + objectSize packet.metadata

def encodePkg (packet : RtmpOnMetaDataPacket) : Writer UInt8 :=
  writeAll [rtmpAmf0WriteString packet.commandName, writeObject packet.metadata]

/-- The name, which a leading `@setDataFrame` moves one value back. -/
def readName (held : List UInt8) : Reader UInt8 (List UInt8) := fun data => do
  let (ret, commandName) ← rtmpAmf0ReadString held data
  if commandName = ascii "@setDataFrame" then do
    let (ret₁, commandName) ← rtmpAmf0ReadString commandName (data.drop ret)
    return (ret + ret₁, commandName)
  else return (ret, commandName)

/-- `decode`.  An object becomes the metadata, the entries of an ECMA array
are set in it, and any other value is thrown away. -/
def decode (packet : RtmpOnMetaDataPacket) : Reader UInt8 RtmpOnMetaDataPacket := fun data => do
  let (ret, commandName) ← readName packet.commandName data
  if ret < data.length then do
    let (ret₁, value) ← rtmpAmf0ReadAny (data.drop ret)
    match value with
    | .object metadata => return (ret + ret₁, { commandName, metadata })
    | .ecmaArray _ properties =>
        return (ret + ret₁, { commandName, metadata := copyProperties properties packet.metadata })
    | _ => return (ret + ret₁, { packet with commandName })
  else return (ret, { packet with commandName })

end RtmpOnMetaDataPacket

end Rtmp
end RtmpClient
