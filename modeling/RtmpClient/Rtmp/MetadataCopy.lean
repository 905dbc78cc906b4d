import RtmpClient.Amf0.Copy
import RtmpClient.Rtmp.CommandPacket

namespace RtmpClient
namespace Rtmp

open Library Amf0

/-!
# What metadata keeps of an array

`RtmpOnMetaDataPacket::decode` takes an object as it was read.  From an ECMA
array it takes copies, one property after another, and so it loses what a copy
loses.
-/

/-- Metadata that is an ECMA array is taken over through copies. -/
theorem decode_onMetaData_ecmaArray {data name : List UInt8} {ret ret' : Nat} {count : Int32}
    {properties : UnSortedHashtable RtmpAmf0Any} (packet : RtmpOnMetaDataPacket)
    (named : RtmpOnMetaDataPacket.readName packet.commandName data = .ok (ret, name)) (more : ret < data.length)
    (array : rtmpAmf0ReadAny (data.drop ret) = .ok (ret', .ecmaArray count properties)) :
    packet.decode data = .ok (ret + ret', ⟨name, copyProperties properties packet.metadata⟩) := by
  simp only [RtmpOnMetaDataPacket.decode, named, Outcome.ok_bind_do, if_pos more, array, Outcome.pure_eq]

/-- The copy of a value that was obtained is written byte for byte as the value
is exactly if no string in it that `write` gets to has a zero byte, and `write`
gets to all of them where no container has 2^31 items; and where no string has a
zero byte the properties that `RtmpOnMetaDataPacket::decode` takes from an ECMA
array are those of the array. -/
theorem copy_faithful_iff {value : RtmpAmf0Any} (obtained : value.Obtained) :
    ((forall len, value.copy.write len = value.write len) ↔ value.reached.ZeroFree) ∧
      (value.Counted -> ((forall len, value.copy.write len = value.write len) ↔ value.ZeroFree)) ∧
      forall (data name : List UInt8) (ret ret' : Nat) (count : Int32) (properties : UnSortedHashtable RtmpAmf0Any),
        RtmpOnMetaDataPacket.readName RtmpOnMetaDataPacket.new.commandName data = .ok (ret, name) ->
        ret < data.length -> rtmpAmf0ReadAny (data.drop ret) = .ok (ret', .ecmaArray count properties) ->
        Exists fun decoded => RtmpOnMetaDataPacket.new.decode data = .ok (ret + ret', decoded) ∧
          (decoded.metadata = properties ↔ (RtmpAmf0Any.ecmaArray count properties).ZeroFree) := by
  have faithful := obtained.copyable.write_copy_iff
  refine ⟨faithful, fun counted => ?_, ?_⟩
  · rw [faithful, RtmpAmf0Any.Counted.reached_eq counted]
  intro data name ret ret' count properties named more array
  have copyable : (RtmpAmf0Any.ecmaArray count properties).Copyable :=
    RtmpAmf0Any.Regular.copyable (rtmpAmf0ReadAny_regular array)
  refine ⟨_, decode_onMetaData_ecmaArray RtmpOnMetaDataPacket.new named more array, ?_⟩
  constructor
  · intro same
    have table : copyProperties properties [] = properties := same
    apply copyable.writtenSize_copy.2
    rw [RtmpAmf0Any.copy, table]
  · intro zeroFree
    exact (RtmpAmf0Any.ecmaArray.inj (copyable.copy_eq zeroFree)).2

/-- A string that was read with a zero byte in it. -/
theorem copy_cuts_string :
    ¬ forall value : RtmpAmf0Any, value.Obtained -> forall len, value.copy.write len = value.write len := by
  intro claimed
  have read : rtmpAmf0ReadAny [0x02, 0x00, 0x03, 0x61, 0x00, 0x62] = .ok (6, .string [0x61, 0x00, 0x62]) := rfl
  have same := claimed _ (.read read) 6
  have cells := Outcome.ok.inj same
  exact absurd cells (by decide)

/-- An array with a C string in it. -/
theorem copy_faithful_iff_array :
    let value := RtmpAmf0Any.strictArray 1 [.string [0x61, 0x62]]
    forall len, value.copy.write len = value.write len := by
  intro value
  have cString : (0 : UInt8) ∉ [0x61, 0x62] := by decide
  have obtained : value.Obtained := .append .strictArray (.str cString)
  apply (copy_faithful_iff obtained).1.mpr
  exact .intro trivial (List.forall_mem_cons.mpr ⟨.leaf cString rfl, List.forall_mem_nil _⟩)

end Rtmp
end RtmpClient
