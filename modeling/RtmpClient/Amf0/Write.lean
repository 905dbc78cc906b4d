import RtmpClient.Amf0.Value
import RtmpClient.Library.Codec
import RtmpClient.Net.Netio

namespace RtmpClient
namespace Amf0

open Library
open Net

/-!
# Writing AMF0 values (`rtmp_stack_amf0.cc`)

A writer is given the `len` bytes that are left and answers with the bytes it
put at the front of them; the source returns their number.  A store that does
not fit is a fault, so that the length checks of the source are what rules it
out.
-/

/-- `rtmp_amf0_write_utf8`.  The length is truncated to 16 bits with a sign. -/
def rtmpAmf0WriteUtf8 (value : List UInt8) : Writer UInt8 := fun len =>
  let valuelen := Int16.ofNat value.length
  if (len : Int) < 2 + valuelen.toInt then .error (-1)
  else do
    let head ← store len (writeInt16 valuelen)
    if valuelen.toInt ≤ 0 then return head
    else do
      let body ← store (len - 2) (value.take valuelen.toInt.toNat)
      return head ++ body

/-- `rtmp_amf0_write_string`. -/
def rtmpAmf0WriteString (value : List UInt8) : Writer UInt8 := fun len =>
  if len < 1 then .error (-1)
  else do
    let marker ← store len (writeInt8 rtmpAmf0String)
    let body ← rtmpAmf0WriteUtf8 value (len - 1)
    return marker ++ body

/-- `rtmp_amf0_write_boolean`. -/
def rtmpAmf0WriteBoolean (value : Bool) : Writer UInt8 := fun len =>
  if len < 2 then .error (-1)
  else do
    let marker ← store len (writeInt8 rtmpAmf0Boolean)
    let body ← store (len - 1) (writeInt8 (if value then 0x01 else 0x00))
    return marker ++ body

/-- `rtmp_amf0_write_number`. -/
def rtmpAmf0WriteNumber (value : UInt64) : Writer UInt8 := fun len =>
  if len < 9 then .error (-1)
  else do
    let marker ← store len (writeInt8 rtmpAmf0Number)
    let body ← store (len - 1) (writeInt64 value.toInt64)
    return marker ++ body

/-- `rtmp_amf0_write_null` and `rtmp_amf0_write_undefined` at their markers. -/
def writeMarkerOnly (marker : Int8) : Writer UInt8 := fun len =>
  if len < 1 then .error (-1) else store len (writeInt8 marker)

def rtmpAmf0WriteNull : Writer UInt8 := writeMarkerOnly rtmpAmf0Null

def rtmpAmf0WriteUndefined : Writer UInt8 := writeMarkerOnly rtmpAmf0Undefined

/-- `RtmpAmf0Date::write`. -/
def RtmpAmf0Date.write (value : Int64) (timeZone : Int16) : Writer UInt8 := fun len =>
  if len < 11 then .error (-1)
  else do
    let marker ← store len (writeInt8 rtmpAmf0Date)
    let date ← store (len - 1) (writeInt64 value)
    let zone ← store (len - 9) (writeInt16 timeZone)
    return marker ++ (date ++ zone)

/-- `RtmpAmf0ObjectEOF::write`. -/
def RtmpAmf0ObjectEof.write : Writer UInt8 := fun len =>
  if len < 3 then .error (-1) else store len [0x00, 0x00, rtmpAmf0ObjectEnd.toUInt8]

/-- `RtmpAmf0Object::write` around the loop over its properties. -/
def RtmpAmf0Object.write (writeProperties : Writer UInt8) : Writer UInt8 := fun len =>
  if len < 1 then .error (-1)
  else do
    let marker ← store len (writeInt8 rtmpAmf0Object)
    let properties ← writeProperties (len - 1)
    let eof ← RtmpAmf0ObjectEof.write (len - 1 - properties.length)
    return marker ++ (properties ++ eof)

/-- `RtmpAmf0EcmaArray::write` around the loop over its properties. -/
def RtmpAmf0EcmaArray.write (count : Int32) (writeProperties : Writer UInt8) : Writer UInt8 :=
  fun len =>
    if len < 5 then .error (-1)
    else do
      let marker ← store len (writeInt8 rtmpAmf0EcmaArray)
      let announced ← store (len - 1) (writeInt32 count)
      let properties ← writeProperties (len - 5)
      let eof ← RtmpAmf0ObjectEof.write (len - 5 - properties.length)
      return marker ++ (announced ++ (properties ++ eof))

/-- `RtmpAmf0StrictArray::write` around the loop over its elements. -/
def RtmpAmf0StrictArray.write (count : Int32) (writeElements : Writer UInt8) : Writer UInt8 :=
  fun len =>
    if len < 5 then .error (-1)
    else do
      let marker ← store len (writeInt8 rtmpAmf0StrictArray)
      let announced ← store (len - 1) (writeInt32 count)
      let elements ← writeElements (len - 5)
      return marker ++ (announced ++ elements)

mutual

/-- The virtual function `write`, which is `rtmp_amf0_write_any`. -/
def RtmpAmf0Any.write : RtmpAmf0Any -> Writer UInt8
  | .number value => rtmpAmf0WriteNumber value
  | .boolean value => rtmpAmf0WriteBoolean value
  | .string value => rtmpAmf0WriteString value
  | .null => rtmpAmf0WriteNull
  | .undefined => rtmpAmf0WriteUndefined
  | .date value timeZone => RtmpAmf0Date.write value timeZone
  | .objectEof => RtmpAmf0ObjectEof.write
  | .object properties => RtmpAmf0Object.write (writeProperties (loopRounds properties.length) properties)
  | .ecmaArray count properties =>
      RtmpAmf0EcmaArray.write count (writeProperties (loopRounds properties.length) properties)
  | .strictArray count properties =>
      RtmpAmf0StrictArray.write count (writeElements (loopRounds properties.length) properties)

/-- The loop over the properties of an object or an ECMA array, which goes up to
their number as an `int`. -/
def writeProperties : (rounds : Nat) -> List (List UInt8 × RtmpAmf0Any) -> Writer UInt8
  | 0, _ => fun _ => .ok []
  | _ + 1, [] => fun _ => .ok []
  | rounds + 1, (name, value) :: rest => fun len => do
      let key ← rtmpAmf0WriteUtf8 name len
      let body ← value.write (len - key.length)
      let more ← writeProperties rounds rest (len - key.length - body.length)
      return (key ++ body) ++ more

/-- The loop over the elements of a strict array.  Every error of an element
is answered with -1. -/
def writeElements : (rounds : Nat) -> List RtmpAmf0Any -> Writer UInt8
  | 0, _ => fun _ => .ok []
  | _ + 1, [] => fun _ => .ok []
  | rounds + 1, value :: rest => fun len => do
      let body ← (value.write len).errorAs (-1)
      let more ← writeElements rounds rest (len - body.length)
      return body ++ more

end

end Amf0
end RtmpClient
