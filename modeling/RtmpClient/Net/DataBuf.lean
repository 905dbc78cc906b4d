import Mathlib.Tactic.Common

namespace RtmpClient
namespace Net

/-!
# The receive cache (`net/DataBuf.cc`, `DataCacheBuf`)

Bytes arrive at the end and are consumed at the front.  The allocation only
grows; it is part of the model because `push_data` decides on it.
-/

/-- `bytes` holds the first `length` bytes of the source's allocation and
`nbytes` its size.  That the content fits is part of the type. -/
structure DataCacheBuf where
  bytes : List UInt8
  nbytes : Nat
  fits : bytes.length ≤ nbytes

namespace DataCacheBuf

/-- `MAX_CACHE_LEN`. -/
def maxCacheLen : Nat := 8 * 1024

/-- The constructor. -/
def new : DataCacheBuf where
  bytes := []
  nbytes := maxCacheLen
  fits := Nat.zero_le _

def len (cache : DataCacheBuf) : Nat := cache.bytes.length

def require (cache : DataCacheBuf) (requiredSize : Int) : Bool :=
  if requiredSize < 0 then false else decide (requiredSize ≤ cache.len)

/-- Append, after a reallocation with 2048 spare bytes if there is no room. -/
def pushData (cache : DataCacheBuf) (data : List UInt8) : DataCacheBuf :=
  if room : cache.len + data.length > cache.nbytes then
    { bytes := cache.bytes ++ data
      nbytes := cache.len + data.length + 2048
      fits := by rw [List.length_append]; exact Nat.le_add_right _ _ }
  else
    { bytes := cache.bytes ++ data
      nbytes := cache.nbytes
      fits := by rw [List.length_append]; exact Nat.le_of_not_gt room }

/-- Drop the first `len` bytes; the rest moves to the front. -/
def popData (cache : DataCacheBuf) (len : Nat) : DataCacheBuf where
  bytes := cache.bytes.drop len
  nbytes := cache.nbytes
  fits := by
    have shorter : (cache.bytes.drop len).length ≤ cache.bytes.length := by
      rw [List.length_drop]
      exact Nat.sub_le _ _
    exact Nat.le_trans shorter cache.fits

@[simp] theorem pushData_bytes (cache : DataCacheBuf) (data : List UInt8) :
    (cache.pushData data).bytes = cache.bytes ++ data := by
  unfold pushData
  split <;> rfl

end DataCacheBuf

end Net
end RtmpClient
