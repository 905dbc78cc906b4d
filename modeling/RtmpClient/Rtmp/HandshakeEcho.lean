import RtmpClient.Rtmp.HandshakeLayout
import RtmpClient.Rtmp.HandshakeReply

namespace RtmpClient
namespace Rtmp

open Library Net

/-!
# C1 given back as S1

A block determines the key or the digest that it hides, and what a parser finds
in a buffer is the block at its beginning.  Of a C1 in the order of
`schemaType1` the digest block is looked for where it stands.  The key block is
looked for 764 bytes behind its place, in what follows C1.
-/

/-! ## A block and what it hides -/

namespace RtmpHandshakeKey

/-- What was found is spelled by the first 764 bytes. -/
theorem parseKey_cells {data : List UInt8} {ret : Nat} {key : RtmpHandshakeKey}
    (parsed : parseKey data 764 = .ok (ret, key)) : key.cells = data.take 764 := by
  rw [parseKey, if_neg (Nat.lt_irrefl 764)] at parsed
  rcases Outcome.bind_eq_ok parsed with ⟨offset, announced, parsed⟩
  rcases Outcome.bind_eq_ok parsed with ⟨before, first, parsed⟩
  rcases Outcome.bind_eq_ok parsed with ⟨middle, second, parsed⟩
  rcases Outcome.bind_eq_ok parsed with ⟨behind, third, parsed⟩
  rcases Prod.mk.inj (Outcome.ok.inj parsed) with ⟨-, rfl⟩
  have small := calcOffset_lt offset
  have front := fieldAt_append data 0 (calcOffset offset) 128
  have rest := fieldAt_append data 0 (calcOffset offset + 128) (764 - calcOffset offset - 128 - 4)
  have whole := fieldAt_append data 0 760 4
  have ends : calcOffset offset + 128 + (764 - calcOffset offset - 128 - 4) = 760 := by omega
  rw [Nat.zero_add] at front rest whole
  rw [ends] at rest
  simp only [cells]
  rw [(writeUint32_of_read announced).2, Outcome.sliceExact_eq first, Outcome.sliceExact_eq second,
    Outcome.sliceExact_eq third, ← List.append_assoc, ← List.append_assoc, front, rest]
  exact whole

theorem cells_injective {key other : RtmpHandshakeKey} (same : key.cells = other.cells) : key = other := by
  have split (key : RtmpHandshakeKey) :
      key.cells = (key.random0 ++ (key.key ++ key.random1)) ++ writeUint32 key.offset := by
    rw [cells, List.append_assoc, List.append_assoc]
  rw [split, split] at same
  rcases List.append_inj' same (by rw [writeUint32_length, writeUint32_length]) with ⟨front, announced⟩
  have offset := writeUint32_injective announced
  have length : key.random0.length = other.random0.length := by
    rw [key.random0_length, other.random0_length, offset]
  rcases List.append_inj front length with ⟨random0, front⟩
  rcases List.append_inj front (key.key_length.trans other.key_length.symm) with ⟨field, random1⟩
  cases key
  cases other
  simp only at offset random0 field random1
  subst offset random0 field random1
  rfl

/-- The parser finds a key exactly in front of the bytes that spell it. -/
theorem parseKey_iff {data : List UInt8} {ret : Nat} {found key : RtmpHandshakeKey}
    (parsed : parseKey data 764 = .ok (ret, found)) : found = key ↔ data.take 764 = key.cells := by
  rw [← parseKey_cells parsed]
  exact ⟨congrArg cells, cells_injective⟩

end RtmpHandshakeKey

namespace RtmpHandshakeDigest

theorem parseDigest_cells {data : List UInt8} {ret : Nat} {digest : RtmpHandshakeDigest}
    (parsed : parseDigest data 764 = .ok (ret, digest)) : digest.cells true = data.take 764 := by
  rw [parseDigest, if_neg (Nat.lt_irrefl 764)] at parsed
  rcases Outcome.bind_eq_ok parsed with ⟨offset, announced, parsed⟩
  rcases Outcome.bind_eq_ok parsed with ⟨before, first, parsed⟩
  rcases Outcome.bind_eq_ok parsed with ⟨middle, second, parsed⟩
  rcases Outcome.bind_eq_ok parsed with ⟨behind, third, parsed⟩
  rcases Prod.mk.inj (Outcome.ok.inj parsed) with ⟨-, rfl⟩
  have small := calcOffset_lt offset
  have front := fieldAt_append data 0 4 (calcOffset offset)
  have rest := fieldAt_append data 0 (4 + calcOffset offset) 32
  have whole := fieldAt_append data 0 (4 + calcOffset offset + 32) (764 - 4 - calcOffset offset - 32)
  have ends : 4 + calcOffset offset + 32 + (764 - 4 - calcOffset offset - 32) = 764 := by omega
  rw [Nat.zero_add] at front rest whole
  rw [ends] at whole
  simp only [cells, if_true]
  rw [(writeUint32_of_read announced).2, Outcome.sliceExact_eq first, Outcome.sliceExact_eq second,
    Outcome.sliceExact_eq third, ← List.append_assoc, ← List.append_assoc]
  rw [← fieldAt, front, rest]
  exact whole

theorem cells_injective {digest other : RtmpHandshakeDigest} (same : digest.cells true = other.cells true) :
    digest = other := by
  rw [cells, cells, if_pos rfl, if_pos rfl] at same
  rcases List.append_inj same (by rw [writeUint32_length, writeUint32_length]) with ⟨announced, behind⟩
  have offset := writeUint32_injective announced
  have length : digest.random0.length = other.random0.length := by
    rw [digest.random0_length, other.random0_length, offset]
  rcases List.append_inj behind length with ⟨random0, behind⟩
  rcases List.append_inj behind (digest.digest_length.trans other.digest_length.symm) with ⟨field, random1⟩
  cases digest
  cases other
  simp only at offset random0 field random1
  subst offset random0 field random1
  rfl

theorem parseDigest_iff {data : List UInt8} {ret : Nat} {found digest : RtmpHandshakeDigest}
    (parsed : parseDigest data 764 = .ok (ret, found)) : found = digest ↔ data.take 764 = digest.cells true := by
  rw [← parseDigest_cells parsed]
  exact ⟨fun same => congrArg (fun digest : RtmpHandshakeDigest => digest.cells true) same, cells_injective⟩

end RtmpHandshakeDigest

/-! ## The reply -/

namespace RtmpHandshake

/-- The reply is accepted, and time, version and digest of the builder are found
in it. -/
def RecoversHead (built other : RtmpHandshake) (reply : List UInt8) : Prop :=
  Exists fun result => other.processS0S1S2 reply = .ok result ∧ 0 ≤ result.ret ∧
    result.handshake.time = built.time ∧ result.handshake.version = built.version ∧
    result.handshake.digest = built.digest

/-- The key is found as well. -/
def Recovers (built other : RtmpHandshake) (reply : List UInt8) : Prop :=
  Exists fun result => other.processS0S1S2 reply = .ok result ∧ 0 ≤ result.ret ∧
    result.handshake.time = built.time ∧ result.handshake.version = built.version ∧
    result.handshake.digest = built.digest ∧ result.handshake.key = built.key

/-- C0 and C1 in the order of `schemaType1`, and what follows them. -/
def echoOf (built : RtmpHandshake) (rest : List UInt8) : List UInt8 :=
  0x03 :: built.c1Cells true .schemaType1 ++ rest

theorem echoOf_eq (built : RtmpHandshake) (rest : List UInt8) :
    built.echoOf rest = [0x03] ++ (writeUint32 built.time ++ (writeUint32 built.version ++
      (built.digest.cells true ++ (built.key.cells ++ rest)))) := by
  rw [echoOf, c1Cells, headCells]
  simp only [List.cons_append, List.append_assoc, List.nil_append]

theorem echoOf_length (built : RtmpHandshake) (rest : List UInt8) :
    (built.echoOf rest).length = 1537 + rest.length := by
  rw [echoOf, List.length_append, List.length_cons, c1Cells_length]

/-- The digest block stands where the parser looks for it. -/
theorem drop_digest (built : RtmpHandshake) (rest : List UInt8) :
    ((built.echoOf rest).drop 9).take 764 = built.digest.cells true := by
  have start : ([0x03] ++ (writeUint32 built.time ++ writeUint32 built.version)).length = 9 := by
    rw [List.length_append, List.length_append, writeUint32_length, writeUint32_length]
    rfl
  have field := fieldAt_middle ([0x03] ++ (writeUint32 built.time ++ writeUint32 built.version))
    (built.digest.cells true) (built.key.cells ++ rest)
  rw [start, RtmpHandshakeDigest.cells_length, List.append_assoc, List.append_assoc, ← echoOf_eq] at field
  exact field

/-- Where the parser looks for the key block there is nothing of C1. -/
theorem drop_key (built : RtmpHandshake) (rest : List UInt8) :
    (built.echoOf rest).drop (9 + 764 + 764) = rest := by
  have length : (0x03 :: built.c1Cells true .schemaType1).length = 9 + 764 + 764 := by
    rw [List.length_cons, c1Cells_length]
  rw [echoOf, ← length, List.drop_left]

theorem processS0S1S2_echo (built other : RtmpHandshake) {rest : List UInt8} (complete : rest.length = 1536) :
    Exists fun result => other.processS0S1S2 (built.echoOf rest) = .ok result ∧ 0 ≤ result.ret ∧
      result.handshake.time = built.time ∧ result.handshake.version = built.version ∧
      result.handshake.digest = built.digest ∧
      (result.handshake.key = built.key ↔ rest.take 764 = built.key.cells) := by
  have length : (built.echoOf rest).length = 3073 := by rw [echoOf_length, complete]
  have long : ¬ (built.echoOf rest).length < 3073 := by omega
  have first : Outcome.read (built.echoOf rest) 0 = .ok 0x03 := rfl
  have time : readUint32 (built.echoOf rest) 1 = .ok built.time := by
    rw [echoOf_eq]
    exact readUint32_write built.time [0x03] _
  have version : readUint32 (built.echoOf rest) 5 = .ok built.version := by
    rw [echoOf_eq, ← List.append_assoc [0x03]]
    exact readUint32_write built.version ([0x03] ++ writeUint32 built.time) _
  rcases RtmpHandshakeDigest.parseDigest_within ((built.echoOf rest).drop 9) [] (by
    rw [List.length_drop, length]
    decide) with ⟨⟨ret, digest⟩, parsedDigest, -⟩
  rcases RtmpHandshakeKey.parseKey_within rest [] (by omega) with ⟨⟨ret₁, key⟩, parsedKey, -⟩
  have size := RtmpHandshakeDigest.parseDigest_ret parsedDigest
  subst size
  refine ⟨⟨(built.echoOf rest).length, ((9 + 764 + ret₁ : Nat) : Int), { other with
    s0s1s2 := (built.echoOf rest).take 3073, time := built.time, version := built.version, digest, key }⟩,
    ?_, Int.natCast_nonneg _, rfl, rfl, ?_, RtmpHandshakeKey.parseKey_iff parsedKey⟩
  · rw [processS0S1S2, if_neg long]
    simp only [parseReply, first, time, version, parsedDigest, drop_key, parsedKey, Outcome.ok_bind_do, Outcome.pure_eq,
      ne_eq, not_true_eq_false, if_false]
  · exact (RtmpHandshakeDigest.parseDigest_iff parsedDigest).mpr (built.drop_digest rest)

/-- What `create_c0c1` leaves. -/
theorem c0c1_of_created {hmac : HmacSha256} {builder built : RtmpHandshake} {type : SchemaType} {now : UInt32}
    {joinbytes fresh : List UInt8} (block : joinbytes.length = 1504) (block' : fresh.length = 1537)
    (created : createC0C1 hmac builder type now joinbytes fresh = .ok built) :
    built.c0c1 = 0x03 :: built.c1Cells true type := by
  rw [createC0C1_eq hmac builder type now block block'] at created
  rw [← Outcome.ok.inj created]
  cases type <;> rfl

/-- The end of C1 is the key block. -/
theorem drop_c0c1 {built : RtmpHandshake} (cells : built.c0c1 = 0x03 :: built.c1Cells true .schemaType1) :
    built.c0c1.drop 773 = built.key.cells := by
  have length : (0x03 :: (built.headCells ++ built.digest.cells true)).length = 773 := by
    rw [List.length_cons, List.length_append, headCells_length, RtmpHandshakeDigest.cells_length]
  rw [cells, c1Cells, ← List.append_assoc, ← List.cons_append, ← length, List.drop_left]

/-- Another handshake that is given C0 and C1 back finds time, version and
digest, whatever follows.  It finds the key exactly if what follows begins with
the key block of C1 once more. -/
theorem echo_recovers_iff {hmac : HmacSha256} {builder built : RtmpHandshake} {now : UInt32}
    {joinbytes fresh : List UInt8} (block : joinbytes.length = 1504) (block' : fresh.length = 1537)
    (created : createC0C1 hmac builder .schemaType1 now joinbytes fresh = .ok built)
    (other : RtmpHandshake) {rest : List UInt8} (complete : rest.length = 1536) :
    built.RecoversHead other (built.c0c1 ++ rest) ∧
      (built.Recovers other (built.c0c1 ++ rest) ↔ rest.take 764 = built.c0c1.drop 773) := by
  have cells := c0c1_of_created block block' created
  have whole : built.c0c1 ++ rest = built.echoOf rest := by rw [cells, echoOf]
  rcases built.processS0S1S2_echo other complete with ⟨result, processed, accepted, time, version, digest, key⟩
  rw [drop_c0c1 cells, whole]
  refine ⟨⟨result, processed, accepted, time, version, digest⟩, ?_⟩
  constructor
  · rintro ⟨found, again, -, -, -, -, same⟩
    rw [Outcome.ok.inj (again.symm.trans processed)] at same
    exact key.mp same
  · intro repeated
    exact ⟨result, processed, accepted, time, version, digest, key.mpr repeated⟩

/-- A key of 128 bytes 01; the offset and the other random bytes are 0. -/
def echoBuilder : RtmpHandshake :=
  .new 0 0 (.new 0 (fun _ => 0) (fun _ => 1) fun _ => 0) (.new 0 (fun _ => 0) (fun _ => 0) fun _ => 0)

/-- The signature of the C1 that this builder creates at time 0. -/
def echoHmac : HmacSha256 where
  digest _ _ := [0x18, 0x50, 0xE7, 0x4C, 0xC0, 0x32, 0x44, 0xF2, 0xBD, 0x0C, 0xD2, 0x06, 0xA1, 0x42, 0x2B, 0xA9,
    0x53, 0x15, 0xE7, 0x3E, 0x33, 0xEC, 0xC3, 0x28, 0x36, 0xCC, 0xA1, 0x76, 0x36, 0x62, 0xBA, 0x27]
  digest_length _ _ := rfl

def echoBuilt : RtmpHandshake :=
  let after := (echoBuilder.stamped 0).signed echoHmac .schemaType1
  { after with c0c1 := 0x03 :: after.c1Cells true .schemaType1 }

theorem echoBuilt_created : createC0C1 echoHmac echoBuilder .schemaType1 0 (List.replicate 1504 0)
    (List.replicate 1537 0) = .ok echoBuilt :=
  createC0C1_eq echoHmac echoBuilder .schemaType1 0 List.length_replicate List.length_replicate

/-- A reply in which the key block stands twice. -/
theorem echo_recovers_iff_twice :
    echoBuilt.Recovers echoBuilder
      (echoBuilt.c0c1 ++ (echoBuilt.c0c1.drop 773 ++ List.replicate 772 0)) := by
  have cells := c0c1_of_created List.length_replicate List.length_replicate echoBuilt_created
  have block : (echoBuilt.c0c1.drop 773).length = 764 := by
    rw [drop_c0c1 cells, RtmpHandshakeKey.cells_length]
  have complete : (echoBuilt.c0c1.drop 773 ++ List.replicate 772 (0 : UInt8)).length = 1536 := by
    rw [List.length_append, block, List.length_replicate]
  refine (echo_recovers_iff List.length_replicate List.length_replicate echoBuilt_created echoBuilder complete).2.mpr ?_
  rw [List.take_append_of_le_length (Nat.le_of_eq block.symm), List.take_of_length_le (Nat.le_of_eq block)]

/-- Behind the returned C1 there are zeros only. -/
theorem echo_loses_key :
    ¬ forall rest : List UInt8, rest.length = 1536 -> echoBuilt.Recovers echoBuilder (echoBuilt.c0c1 ++ rest) := by
  intro recovers
  have complete : (List.replicate 1536 (0 : UInt8)).length = 1536 := List.length_replicate
  have cells := c0c1_of_created List.length_replicate List.length_replicate echoBuilt_created
  have whole : echoBuilt.c0c1 ++ List.replicate 1536 0 = echoBuilt.echoOf (List.replicate 1536 0) := by
    rw [cells, echoOf]
  rcases recovers _ complete with ⟨found, again, -, -, -, -, same⟩
  rcases echoBuilt.processS0S1S2_echo echoBuilder complete with ⟨result, processed, -, -, -, -, key⟩
  rw [whole] at again
  rw [Outcome.ok.inj (again.symm.trans processed)] at same
  have zeros := key.mp same
  have one : (1 : UInt8) ∈ echoBuilt.key.key := List.mem_map.mpr ⟨0, by decide, rfl⟩
  have inside : (1 : UInt8) ∈ echoBuilt.key.cells := by
    rw [RtmpHandshakeKey.cells]
    exact List.mem_append_right _ (List.mem_append_left _ one)
  rw [← zeros] at inside
  exact absurd (List.eq_of_mem_replicate (List.mem_of_mem_take inside)) (by decide)

end RtmpHandshake

end Rtmp
end RtmpClient
