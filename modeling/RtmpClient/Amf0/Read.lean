import RtmpClient.Amf0.Value
import RtmpClient.Library.Codec
import RtmpClient.Net.Netio

namespace RtmpClient
namespace Amf0

open Library
open Net

/-!
# Reading AMF0 values (`rtmp_stack_amf0.cc`)

A reader is given the buffer `data` of `len` bytes, which is the list and its
length, and answers with the number of bytes it consumed and what it stored.
Raw accesses stand where the source has them; one past the buffer is a fault, and
so is the second deletion of a value.  A call on `data+offset, len-offset` is a
call on the buffer without its first `offset` bytes.
-/

/-- `rtmp_amf0_is_object_eof`. -/
def rtmpAmf0IsObjectEof : List UInt8 -> Bool
  | first :: second :: third :: _ =>
      ((first.toUInt32 <<< 16) ||| (second.toUInt32 <<< 8) ||| third.toUInt32) == 0x09
  | _ => false

/-- `RtmpAmf0Any::discovery`: a fresh instance of the subclass that the marker
names, with the contents its constructor gives it. -/
def RtmpAmf0Any.discovery (data : List UInt8) : Outcome RtmpAmf0Any :=
  if rtmpAmf0IsObjectEof data then .ok .objectEof
  else if data.length < 1 then .error (-1)
  else do
    let first ← Outcome.read data 0
    let marker := first.toInt8
    if marker = rtmpAmf0String then .ok (.string [])
    else if marker = rtmpAmf0Boolean then .ok (.boolean false)
    else if marker = rtmpAmf0Number then .ok (.number 0)
    else if marker = rtmpAmf0Null then .ok .null
    else if marker = rtmpAmf0Undefined then .ok .undefined
    else if marker = rtmpAmf0Object then .ok (.object [])
    else if marker = rtmpAmf0EcmaArray then .ok (.ecmaArray 0 [])
    else if marker = rtmpAmf0StrictArray then .ok (.strictArray 0 [])
    else if marker = rtmpAmf0Date then .ok (.date 0 0)
    else .error (-2)

/-- `rtmp_amf0_read_utf8` into a variable that holds `value`. -/
def rtmpAmf0ReadUtf8 (value : List UInt8) : Reader UInt8 (List UInt8) := fun data =>
  if data.length < 2 then .error (-1)
  else do
    let length ← readInt16 data 0
    -- the variable keeps its content when the length is not positive
    if length.toInt ≤ 0 then .ok (2, value)
    else if (data.length : Int) - 2 < length.toInt then .error (-1)
    else do
      let str ← Outcome.slice data 2 length.toInt.toNat
      return (2 + length.toInt.toNat, str)

/-- `rtmp_amf0_read_string` into a variable that holds `value`. -/
def rtmpAmf0ReadString (value : List UInt8) : Reader UInt8 (List UInt8) := fun data =>
  if data.length < 1 then .error (-1)
  else do
    let marker ← readInt8 data 0
    if marker ≠ rtmpAmf0String then .error (-1)
    else do
      let (ret, value) ← rtmpAmf0ReadUtf8 value (data.drop 1)
      return (1 + ret, value)

/-- `rtmp_amf0_read_boolean`. -/
def rtmpAmf0ReadBoolean : Reader UInt8 Bool := fun data =>
  if data.length < 2 then .error (-1)
  else do
    let marker ← readInt8 data 0
    if marker ≠ rtmpAmf0Boolean then .error (-2)
    else do
      let val ← readInt8 data 1
      return (2, val != 0)

/-- `rtmp_amf0_read_number`: the eight bytes become the bits of the double. -/
def rtmpAmf0ReadNumber : Reader UInt8 UInt64 := fun data =>
  if data.length < 9 then .error (-1)
  else do
    let marker ← readInt8 data 0
    if marker ≠ rtmpAmf0Number then .error (-1)
    else do
      let temp ← readInt64 data 1
      return (9, temp.toUInt64)

/-- `rtmp_amf0_read_null` and `rtmp_amf0_read_undefined` at their markers. -/
def readMarkerOnly (expected : Int8) : Reader UInt8 Unit := fun data =>
  if data.length < 1 then .error (-1)
  else do
    let marker ← readInt8 data 0
    if marker ≠ expected then .error (-2) else return (1, ())

def rtmpAmf0ReadNull : Reader UInt8 Unit := readMarkerOnly rtmpAmf0Null

def rtmpAmf0ReadUndefined : Reader UInt8 Unit := readMarkerOnly rtmpAmf0Undefined

/-- `RtmpAmf0Date::read`. -/
def RtmpAmf0Date.read : Reader UInt8 (Int64 × Int16) := fun data =>
  if data.length < 11 then .error (-1)
  else do
    let marker ← readInt8 data 0
    if marker ≠ rtmpAmf0Date then .error (-2)
    else do
      let dateValue ← readInt64 data 1
      let timeZone ← readInt16 data 9
      return (11, (dateValue, timeZone))

/-- `RtmpAmf0ObjectEOF::read`. -/
def RtmpAmf0ObjectEof.read : Reader UInt8 Unit := fun data =>
  if data.length < 3 then .error (-1)
  else do
    let temp ← readInt16 data 0
    if temp ≠ 0x00 then .error (-2)
    else do
      let marker ← readInt8 data 2
      if marker ≠ rtmpAmf0ObjectEnd then .error (-2) else return (3, ())

/-- One round of the loop over properties: the name, into a string that is
fresh in each round, and the value behind it. -/
def readProperty (readAny : Reader UInt8 RtmpAmf0Any) : Reader UInt8 (List UInt8 × RtmpAmf0Any) :=
  readPair (rtmpAmf0ReadUtf8 []) readAny

/-- The loop `while (offset < len)` that `RtmpAmf0Object::read` and
`RtmpAmf0EcmaArray::read` share.  `rounds` bounds its rounds: no round leaves
the cursor where it was, so that as many as the buffer has bytes suffice. -/
def readProperties (readAny : Reader UInt8 RtmpAmf0Any) (data : List UInt8) :
    (rounds : Nat) -> (offset : Nat) -> UnSortedHashtable RtmpAmf0Any ->
      Outcome (Nat × UnSortedHashtable RtmpAmf0Any)
  | 0, offset, properties => if offset < data.length then .fault else .ok (offset, properties)
  | rounds + 1, offset, properties =>
      if offset < data.length then
        if rtmpAmf0IsObjectEof (data.drop offset) then do
          let (ret, _) ← RtmpAmf0ObjectEof.read (data.drop offset)
          return (offset + ret, properties)
        else do
          let (ret, property) ← readProperty readAny (data.drop offset)
          readProperties readAny data rounds (offset + ret)
            (properties.set property.1 (some property.2))
      else .ok (offset, properties)

/-- The value of a property in `RtmpAmf0Object::read`.  When its read fails the
object deletes what the pointer points to.  `rtmp_amf0_read_any` has deleted that
as well, and the pointer is null only where discovery made nothing. -/
def readPropertyValue (readAny : Reader UInt8 RtmpAmf0Any) : Reader UInt8 RtmpAmf0Any := fun data =>
  match readAny data with
  | .error code =>
      match RtmpAmf0Any.discovery data with
      | .ok _ => .fault
      | _ => .error code
  | answer => answer

/-- Nothing is deleted behind a read that succeeds. -/
theorem readPropertyValue_eq_ok {readAny : Reader UInt8 RtmpAmf0Any} {data : List UInt8} {found : Nat × RtmpAmf0Any} :
    readPropertyValue readAny data = .ok found ↔ readAny data = .ok found := by
  rw [readPropertyValue]
  cases readAny data with
  | error code => cases RtmpAmf0Any.discovery data <;> exact iff_of_false (fun read => by cases read) fun read => by cases read
  | _ => exact Iff.rfl

/-- `RtmpAmf0Object::read` into an object that holds `properties`.  The answer
to an empty buffer is the source's. -/
def RtmpAmf0Object.read (readAny : Reader UInt8 RtmpAmf0Any)
    (properties : UnSortedHashtable RtmpAmf0Any) : Reader UInt8 (UnSortedHashtable RtmpAmf0Any) :=
  fun data =>
    if data.length < 1 then .ok (1, properties)
    else do
      let marker ← readInt8 data 0
      if marker ≠ rtmpAmf0Object then .error (-2)
      else readProperties (readPropertyValue readAny) data data.length 1 properties

/-- `RtmpAmf0EcmaArray::read` into an array that holds `properties`. -/
def RtmpAmf0EcmaArray.read (readAny : Reader UInt8 RtmpAmf0Any)
    (properties : UnSortedHashtable RtmpAmf0Any) :
    Reader UInt8 (Int32 × UnSortedHashtable RtmpAmf0Any) :=
  fun data =>
    if data.length < 5 then .error (-1)
    else do
      let marker ← readInt8 data 0
      if marker ≠ rtmpAmf0EcmaArray then .error (-2)
      else do
        let count ← readInt32 data 1
        let (ret, properties) ← readProperties readAny data data.length 5 properties
        return (ret, (count, properties))

/-- The loop `for (i = 0; i < count && offset < len; i++)` of
`RtmpAmf0StrictArray::read`, by the number of rounds that `count` leaves. -/
def readElements (readAny : Reader UInt8 RtmpAmf0Any) (data : List UInt8) :
    (remaining : Nat) -> (offset : Nat) -> List RtmpAmf0Any -> Outcome (Nat × List RtmpAmf0Any)
  | 0, offset, properties => .ok (offset, properties)
  | remaining + 1, offset, properties =>
      if offset < data.length then do
        let (ret, elem) ← readAny (data.drop offset)
        readElements readAny data remaining (offset + ret) (properties ++ [elem])
      else .ok (offset, properties)

/-- `RtmpAmf0StrictArray::read` into an array that holds `properties`. -/
def RtmpAmf0StrictArray.read (readAny : Reader UInt8 RtmpAmf0Any) (properties : List RtmpAmf0Any) :
    Reader UInt8 (Int32 × List RtmpAmf0Any) :=
  fun data =>
    if data.length < 5 then .error (-1)
    else do
      let marker ← readInt8 data 0
      if marker ≠ rtmpAmf0StrictArray then .error (-2)
      else do
        let count ← readInt32 data 1
        let (ret, properties) ← readElements readAny data count.toInt.toNat 5 properties
        return (ret, (count, properties))

/-- The virtual function `read` of an instance. -/
def RtmpAmf0Any.read (readAny : Reader UInt8 RtmpAmf0Any) (self : RtmpAmf0Any) :
    Reader UInt8 RtmpAmf0Any := fun data =>
  match self with
  | .number _ => do
      let (ret, value) ← rtmpAmf0ReadNumber data
      return (ret, .number value)
  | .boolean _ => do
      let (ret, value) ← rtmpAmf0ReadBoolean data
      return (ret, .boolean value)
  | .string value => do
      let (ret, value) ← rtmpAmf0ReadString value data
      return (ret, .string value)
  | .null => do
      let (ret, _) ← rtmpAmf0ReadNull data
      return (ret, .null)
  | .undefined => do
      let (ret, _) ← rtmpAmf0ReadUndefined data
      return (ret, .undefined)
  | .date _ _ => do
      let (ret, value, timeZone) ← RtmpAmf0Date.read data
      return (ret, .date value timeZone)
  | .objectEof => do
      let (ret, _) ← RtmpAmf0ObjectEof.read data
      return (ret, .objectEof)
  | .object properties => do
      let (ret, properties) ← RtmpAmf0Object.read readAny properties data
      return (ret, .object properties)
  | .ecmaArray _ properties => do
      let (ret, count, properties) ← RtmpAmf0EcmaArray.read readAny properties data
      return (ret, .ecmaArray count properties)
  | .strictArray _ properties => do
      let (ret, count, properties) ← RtmpAmf0StrictArray.read readAny properties data
      return (ret, .strictArray count properties)

/-- `rtmp_amf0_read_any`, where `depth` bounds how deep it calls itself
through the containers it reads. -/
def readAnyWithin : (depth : Nat) -> Reader UInt8 RtmpAmf0Any
  | 0, _ => .fault
  | depth + 1, data => do
      let value ← (RtmpAmf0Any.discovery data).errorAs (-1)
      (value.read (readAnyWithin depth) data).errorAs (-1)

/-- `rtmp_amf0_read_any`.  A container hands on strictly less than it was
given, so that the length of the buffer bounds the depth. -/
def rtmpAmf0ReadAny : Reader UInt8 RtmpAmf0Any := fun data => readAnyWithin (data.length + 1) data

end Amf0
end RtmpClient
