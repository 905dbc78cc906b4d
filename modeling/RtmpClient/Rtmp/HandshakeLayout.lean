import RtmpClient.Rtmp.Handshake

namespace RtmpClient
namespace Rtmp

open Library Net

/-!
# Where a peer finds key and digest in C1

`create_c0c1` writes the parts of C1 twice, first without the digest that is to
be signed.  Both times the parts follow each other without a gap, so that the
positions announced by the offsets are the positions of the fields.
-/

/-- What a peer adds up to find a field. -/
def byteSum (bytes : List UInt8) : Nat := (bytes.map UInt8.toNat).sum

/-- Adding up the written bytes is adding up those in memory. -/
theorem byteSum_writeUint32 (offset : UInt32) : byteSum (writeUint32 offset) = offsetSum offset := by
  have bound := offset.toNat_lt
  simp only [byteSum, writeUint32, beBytes, offsetSum, List.map_cons, List.map_nil, List.sum_cons, List.sum_nil,
    UInt8.toNat_ofNat']
  omega

/-! ## The cells of the parts -/

theorem copyIf_emits {size : Nat} {cells : List UInt8} (copied : size = 0 -> cells = []) :
    Emits (RtmpHandshake.copyIf size cells) cells := by
  by_cases positive : size > 0
  · rw [RtmpHandshake.copyIf, if_pos positive]
    exact Emits.copied cells
  · rw [RtmpHandshake.copyIf, if_neg positive, copied (by omega)]
    exact Emits.copied []

namespace RtmpHandshakeKey

/-- The 764 bytes of the key block. -/
def cells (key : RtmpHandshakeKey) : List UInt8 :=
  key.random0 ++ (key.key ++ (key.random1 ++ writeUint32 key.offset))

theorem cells_length (key : RtmpHandshakeKey) : key.cells.length = 764 := by
  have small := calcOffset_lt key.offset
  rw [cells, List.length_append, List.length_append, List.length_append, key.random0_length,
    key.key_length, key.random1_length, writeUint32_length]
  omega

/-- The last four bytes announce where the key stands. -/
theorem fieldAt_key (key : RtmpHandshakeKey) :
    fieldAt key.cells (byteSum (fieldAt key.cells 760 4) % 632) 128 = key.key := by
  have small := calcOffset_lt key.offset
  have front : (key.random0 ++ (key.key ++ key.random1)).length = 760 := by
    rw [List.length_append, List.length_append, key.random0_length, key.key_length, key.random1_length]
    omega
  have last := fieldAt_middle (key.random0 ++ (key.key ++ key.random1)) (writeUint32 key.offset) []
  rw [front, writeUint32_length, List.append_nil, List.append_assoc, List.append_assoc] at last
  have found := fieldAt_middle key.random0 key.key (key.random1 ++ writeUint32 key.offset)
  rw [key.random0_length, key.key_length] at found
  rw [cells, last, byteSum_writeUint32]
  exact found

end RtmpHandshakeKey

namespace RtmpHandshakeDigest

/-- The 764 bytes of the digest block, or the 732 around the digest. -/
def cells (digest : RtmpHandshakeDigest) (withDigest : Bool) : List UInt8 :=
  writeUint32 digest.offset ++ (digest.random0 ++ ((if withDigest then digest.digest else []) ++ digest.random1))

theorem cells_length (digest : RtmpHandshakeDigest) : (digest.cells true).length = 764 := by
  have small := calcOffset_lt digest.offset
  rw [cells, if_pos rfl, List.length_append, List.length_append, List.length_append, digest.random0_length,
    digest.digest_length, digest.random1_length, writeUint32_length]
  omega

/-- The place that the first four bytes announce. -/
def place (block : List UInt8) : Nat := 4 + byteSum (fieldAt block 0 4) % 728

theorem place_cells (digest : RtmpHandshakeDigest) :
    place (digest.cells true) = (writeUint32 digest.offset ++ digest.random0).length := by
  have first := fieldAt_middle [] (writeUint32 digest.offset)
    (digest.random0 ++ (digest.digest ++ digest.random1))
  rw [List.nil_append, List.length_nil, writeUint32_length] at first
  rw [place, cells, if_pos rfl, first, byteSum_writeUint32, List.length_append, writeUint32_length,
    digest.random0_length]
  rfl

theorem place_le (block : List UInt8) : place block + 32 ≤ 764 := by
  have small : byteSum (fieldAt block 0 4) % 728 < 728 := Nat.mod_lt _ (by decide)
  rw [place]
  omega

theorem fieldAt_digest (digest : RtmpHandshakeDigest) :
    fieldAt (digest.cells true) (place (digest.cells true)) 32 = digest.digest := by
  have found := fieldAt_middle (writeUint32 digest.offset ++ digest.random0) digest.digest digest.random1
  rw [digest.digest_length, ← place_cells, List.append_assoc] at found
  exact found

theorem withoutField_digest (digest : RtmpHandshakeDigest) :
    withoutField (digest.cells true) (place (digest.cells true)) 32 = digest.cells false := by
  have rest := withoutField_middle (writeUint32 digest.offset ++ digest.random0) digest.digest digest.random1
  rw [digest.digest_length, ← place_cells, List.append_assoc, List.append_assoc] at rest
  exact rest

end RtmpHandshakeDigest

/-! ## The whole of C1 -/

namespace RtmpHandshake

/-- Time and version. -/
def headCells (handshake : RtmpHandshake) : List UInt8 :=
  writeUint32 handshake.time ++ writeUint32 handshake.version

theorem headCells_length (handshake : RtmpHandshake) : handshake.headCells.length = 8 := by
  rw [headCells, List.length_append, writeUint32_length, writeUint32_length]

/-- The bytes of C1 in the order of a schema. -/
def c1Cells (handshake : RtmpHandshake) (withDigest : Bool) : SchemaType -> List UInt8
  | .schemaType0 =>
      handshake.headCells ++ (handshake.key.cells ++ handshake.digest.cells withDigest)
  | .schemaType1 =>
      handshake.headCells ++ (handshake.digest.cells withDigest ++ handshake.key.cells)

theorem buildKey_emits (handshake : RtmpHandshake) : Emits handshake.buildKey handshake.key.cells := by
  have copied (cells : List UInt8) : Emits (copyIf cells.length cells) cells :=
    copyIf_emits List.eq_nil_of_length_eq_zero
  have emits := Emits.cons (copied handshake.key.random0) (.cons (.copied handshake.key.key)
    (.cons (copied handshake.key.random1) (.cons (.copied (writeUint32 handshake.key.offset)) .nil)))
  rw [List.append_nil] at emits
  exact emits

/-- The key leaves bytes behind it, so the check of its size always passes. -/
theorem buildDigest_emits (handshake : RtmpHandshake) (withDigest : Bool) :
    Emits (handshake.buildDigest withDigest) (handshake.digest.cells withDigest) := by
  have small := RtmpHandshakeKey.calcOffset_lt handshake.key.offset
  have keyLeft := handshake.key.random1_length
  have before : Emits (copyIf handshake.digest.random0.length handshake.digest.random0)
      handshake.digest.random0 := copyIf_emits List.eq_nil_of_length_eq_zero
  have behind : Emits (copyIf handshake.key.random1.length handshake.digest.random1)
      handshake.digest.random1 := by
    apply copyIf_emits
    intro none
    omega
  have emits := Emits.cons (.copied (writeUint32 handshake.digest.offset)) (.cons before
    (.cons (.copied (if withDigest then handshake.digest.digest else [])) (.cons behind .nil)))
  rw [List.append_nil] at emits
  exact emits

theorem buildC1_emits (handshake : RtmpHandshake) (type : SchemaType) (withDigest : Bool) :
    Emits (handshake.buildC1 type withDigest) (handshake.c1Cells withDigest type) := by
  have time : Emits handshake.buildTime (writeUint32 handshake.time) := .copied _
  have version : Emits handshake.buildVersion (writeUint32 handshake.version) := .copied _
  cases type with
  | schemaType0 =>
      have emits := Emits.cons time (.cons version (.cons handshake.buildKey_emits
        (.cons (handshake.buildDigest_emits withDigest) .nil)))
      rw [List.append_nil, ← List.append_assoc] at emits
      exact emits
  | schemaType1 =>
      have emits := Emits.cons time (.cons version (.cons (handshake.buildDigest_emits withDigest)
        (.cons handshake.buildKey_emits .nil)))
      rw [List.append_nil, ← List.append_assoc] at emits
      exact emits

theorem c1Cells_length (handshake : RtmpHandshake) (type : SchemaType) :
    (handshake.c1Cells true type).length = 1536 := by
  cases type with
  | schemaType0 =>
      rw [c1Cells, List.length_append, List.length_append, headCells_length, RtmpHandshakeKey.cells_length,
        RtmpHandshakeDigest.cells_length]
  | schemaType1 =>
      rw [c1Cells, List.length_append, List.length_append, headCells_length, RtmpHandshakeKey.cells_length,
        RtmpHandshakeDigest.cells_length]

/-- The digest is what the full C1 has more. -/
theorem c1Cells_length_unsigned (handshake : RtmpHandshake) (type : SchemaType) :
    (handshake.c1Cells false type).length = 1504 := by
  have block : (handshake.digest.cells true).length = (handshake.digest.cells false).length + 32 := by
    simp only [RtmpHandshakeDigest.cells, if_true, Bool.false_eq_true, if_false, List.length_append,
      List.length_nil, handshake.digest.digest_length]
    omega
  have whole := handshake.c1Cells_length type
  cases type with
  | schemaType0 =>
      rw [c1Cells, List.length_append, List.length_append] at whole ⊢
      omega
  | schemaType1 =>
      rw [c1Cells, List.length_append, List.length_append] at whole ⊢
      omega

/-! ## What the peer computes -/

/-- Where the digest block begins in C1. -/
def digestStart : SchemaType -> Nat
  | .schemaType0 => 772
  | .schemaType1 => 8

/-- Where the key block begins in C1. -/
def keyStart : SchemaType -> Nat
  | .schemaType0 => 8
  | .schemaType1 => 772

/-- The position of the digest, from the four bytes that announce it. -/
def digestPosition (type : SchemaType) (c1 : List UInt8) : Nat :=
  digestStart type + 4 + byteSum (fieldAt c1 (digestStart type) 4) % 728

/-- The position of the key. -/
def keyPosition (type : SchemaType) (c1 : List UInt8) : Nat :=
  keyStart type + byteSum (fieldAt c1 (keyStart type + 760) 4) % 632

/-- The digest block between what stands before and behind it. -/
theorem c1Cells_digest (handshake : RtmpHandshake) (type : SchemaType) :
    Exists fun before => Exists fun after => before.length = digestStart type ∧
      forall withDigest, handshake.c1Cells withDigest type =
        before ++ (handshake.digest.cells withDigest ++ after) := by
  cases type with
  | schemaType0 =>
      refine ⟨handshake.headCells ++ handshake.key.cells, [], ?_, fun withDigest => ?_⟩
      · rw [List.length_append, headCells_length, RtmpHandshakeKey.cells_length]
        rfl
      · rw [c1Cells, List.append_nil, List.append_assoc]
  | schemaType1 =>
      exact ⟨handshake.headCells, handshake.key.cells, handshake.headCells_length, fun withDigest => rfl⟩

theorem c1Cells_key (handshake : RtmpHandshake) (type : SchemaType) :
    Exists fun before => Exists fun after => before.length = keyStart type ∧
      handshake.c1Cells true type = before ++ (handshake.key.cells ++ after) := by
  cases type with
  | schemaType0 =>
      exact ⟨handshake.headCells, handshake.digest.cells true, handshake.headCells_length, rfl⟩
  | schemaType1 =>
      refine ⟨handshake.headCells ++ handshake.digest.cells true, [], ?_, ?_⟩
      · rw [List.length_append, headCells_length, RtmpHandshakeDigest.cells_length]
        rfl
      · rw [c1Cells, List.append_nil, List.append_assoc]

/-- The peer finds the digest and, around it, what was signed. -/
theorem digestPosition_c1Cells (handshake : RtmpHandshake) (type : SchemaType) :
    let c1 := handshake.c1Cells true type
    fieldAt c1 (digestPosition type c1) 32 = handshake.digest.digest ∧
      withoutField c1 (digestPosition type c1) 32 = handshake.c1Cells false type := by
  intro c1
  rcases handshake.c1Cells_digest type with ⟨before, after, start, parts⟩
  have block : c1 = before ++ (handshake.digest.cells true ++ after) := parts true
  have inside := RtmpHandshakeDigest.place_le (handshake.digest.cells true)
  rw [← handshake.digest.cells_length] at inside
  have first : fieldAt c1 (digestStart type) 4 = fieldAt (handshake.digest.cells true) 0 4 := by
    have room : 0 + 4 ≤ (handshake.digest.cells true).length := by
      rw [RtmpHandshakeDigest.cells_length]
      decide
    rw [block, ← start]
    exact fieldAt_within before _ after room
  have position : digestPosition type c1 =
      before.length + RtmpHandshakeDigest.place (handshake.digest.cells true) := by
    rw [digestPosition, first, start, RtmpHandshakeDigest.place, Nat.add_assoc]
  rw [position, block]
  constructor
  · rw [fieldAt_within before _ after inside]
    exact handshake.digest.fieldAt_digest
  · rw [withoutField_within before _ after inside, handshake.digest.withoutField_digest, parts false]

theorem keyPosition_c1Cells (handshake : RtmpHandshake) (type : SchemaType) :
    let c1 := handshake.c1Cells true type
    fieldAt c1 (keyPosition type c1) 128 = handshake.key.key := by
  intro c1
  rcases handshake.c1Cells_key type with ⟨before, after, start, block⟩
  have last : fieldAt c1 (keyStart type + 760) 4 = fieldAt handshake.key.cells 760 4 := by
    rw [← start, show c1 = _ from block]
    exact fieldAt_within before _ after (by rw [RtmpHandshakeKey.cells_length])
  have small : byteSum (fieldAt handshake.key.cells 760 4) % 632 < 632 := Nat.mod_lt _ (by decide)
  rw [keyPosition, last, ← start, show c1 = _ from block,
    fieldAt_within before _ after (by rw [RtmpHandshakeKey.cells_length]; omega)]
  exact handshake.key.fieldAt_key

/-! ## Creating C0 and C1 -/

/-- The handshake when C1 is begun. -/
def stamped (handshake : RtmpHandshake) (now : UInt32) : RtmpHandshake :=
  { handshake with time := now, version := 0x80000702 }

/-- The handshake when C1 is signed. -/
def signed (handshake : RtmpHandshake) (hmac : HmacSha256) (type : SchemaType) : RtmpHandshake :=
  { handshake with digest := handshake.digest.calcC1Digest hmac (handshake.c1Cells false type) }

/-- Signing changes the digest only, which the unsigned cells leave out. -/
theorem c1Cells_signed (handshake : RtmpHandshake) (hmac : HmacSha256) (type : SchemaType) :
    (handshake.signed hmac type).c1Cells false type = handshake.c1Cells false type := by
  cases type <;> rfl

theorem createC0C1_eq (hmac : HmacSha256) (handshake : RtmpHandshake) (type : SchemaType) (now : UInt32)
    {joinbytes fresh : List UInt8} (block : joinbytes.length = 1504) (block' : fresh.length = 1537) :
    let after := (handshake.stamped now).signed hmac type
    createC0C1 hmac handshake type now joinbytes fresh =
      .ok { after with c0c1 := 0x03 :: after.c1Cells true type } := by
  intro after
  have unsigned := (handshake.stamped now).buildC1_emits type false 1504
    (Nat.le_of_eq ((handshake.stamped now).c1Cells_length_unsigned type))
  have joined : overlay joinbytes ((handshake.stamped now).c1Cells false type) =
      (handshake.stamped now).c1Cells false type :=
    overlay_full (((handshake.stamped now).c1Cells_length_unsigned type).trans block.symm)
  have length : (0x03 :: after.c1Cells true type).length = 1537 := by
    rw [List.length_cons, after.c1Cells_length]
  have emits : Emits (writeAll [writeCells [0x03], after.buildC1 type true])
      (0x03 :: after.c1Cells true type) := by
    have parts := Emits.cons (.copied [0x03]) (.cons (after.buildC1_emits type true) .nil)
    rw [List.append_nil] at parts
    exact parts
  have whole := emits 1537 (Nat.le_of_eq length)
  have filled : overlay fresh (0x03 :: after.c1Cells true type) = 0x03 :: after.c1Cells true type :=
    overlay_full (length.trans block'.symm)
  have general : after.generalC0C1 type fresh =
      .ok { after with c0c1 := 0x03 :: after.c1Cells true type } := by
    rw [generalC0C1, whole, Outcome.ok_bind_do, filled]
    rfl
  rw [createC0C1]
  rw [stamped] at unsigned joined
  simp only [unsigned, Outcome.ok_bind_do, joined]
  exact general

/-- C0 and C1 fill their 1537 bytes, whatever these held, and a peer finds at
the announced positions the key and the signature of everything else. -/
theorem createC0C1_layout (hmac : HmacSha256) (handshake : RtmpHandshake) (type : SchemaType) (now : UInt32) :
    Exists fun after : RtmpHandshake => Exists fun c1 =>
      (forall joinbytes fresh, joinbytes.length = 1504 -> fresh.length = 1537 ->
        createC0C1 hmac handshake type now joinbytes fresh = .ok after) ∧
      after.c0c1 = 0x03 :: c1 ∧ c1.length = 1536 ∧
      fieldAt c1 (digestPosition type c1) 32 =
        hmac.digest (fpKey.take 30) (withoutField c1 (digestPosition type c1) 32) ∧
      fieldAt c1 (keyPosition type c1) 128 = handshake.key.key := by
  let after := (handshake.stamped now).signed hmac type
  have digest := after.digestPosition_c1Cells type
  refine ⟨{ after with c0c1 := 0x03 :: after.c1Cells true type }, after.c1Cells true type, ?_, rfl,
    after.c1Cells_length type, ?_, after.keyPosition_c1Cells type⟩
  · exact fun joinbytes fresh block block' => createC0C1_eq hmac handshake type now block block'
  · rw [digest.1, digest.2, c1Cells_signed]
    rfl

end RtmpHandshake

end Rtmp
end RtmpClient
