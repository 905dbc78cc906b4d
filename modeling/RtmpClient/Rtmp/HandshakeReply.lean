import RtmpClient.Rtmp.Handshake

namespace RtmpClient
namespace Rtmp

open Library Net

/-!
# What the parsing of the reply reads

The digest block stands at byte 9 and ends at 773; the key is looked for from
byte 1537 on and ends at 2301.  Nothing behind that is looked at, so that the
parse of a buffer of 2301 bytes or more always comes to an end.
-/

theorem readUint32_within {bound offset : Nat} (inside : offset + 4 ≤ bound) :
    ReadsWithin bound (fun data => readUint32 data offset) := by
  refine .bind (.bind (.slice inside) fun cells _ => ?_) fun value _ => ?_
  · exact .const _
  · exact .const _

namespace RtmpHandshakeDigest

theorem parseDigest_within : ReadsWithin 764 (fun data => parseDigest data 764) := by
  unfold parseDigest
  simp only [Nat.lt_irrefl, if_false]
  refine .bind (readUint32_within (by decide)) fun offset _ => ?_
  have below := calcOffset_lt offset
  refine .bind (.sliceExact (by omega)) fun random0 _ => ?_
  refine .bind (.sliceExact (by omega)) fun digest _ => ?_
  refine .bind (.sliceExact (by omega)) fun random1 _ => ?_
  exact .const _

/-- A parsed block is always counted whole. -/
theorem parseDigest_ret {data : List UInt8} {ret : Nat} {digest : RtmpHandshakeDigest}
    (parsed : parseDigest data 764 = .ok (ret, digest)) : ret = 764 := by
  rw [parseDigest, if_neg (Nat.lt_irrefl 764)] at parsed
  rcases Outcome.bind_eq_ok parsed with ⟨offset, _, parsed⟩
  rcases Outcome.bind_eq_ok parsed with ⟨random0, _, parsed⟩
  rcases Outcome.bind_eq_ok parsed with ⟨digest, _, parsed⟩
  rcases Outcome.bind_eq_ok parsed with ⟨random1, _, parsed⟩
  have below := calcOffset_lt offset
  have count := congrArg Prod.fst (Outcome.ok.inj parsed)
  simp only at count
  omega

end RtmpHandshakeDigest

namespace RtmpHandshakeKey

theorem parseKey_within : ReadsWithin 764 (fun data => parseKey data 764) := by
  unfold parseKey
  simp only [Nat.lt_irrefl, if_false]
  refine .bind (readUint32_within (by decide)) fun offset _ => ?_
  have below := calcOffset_lt offset
  refine .bind (.sliceExact (by omega)) fun random0 _ => ?_
  refine .bind (.sliceExact (by omega)) fun key _ => ?_
  refine .bind (.sliceExact (by omega)) fun random1 _ => ?_
  exact .const _

end RtmpHandshakeKey

namespace RtmpHandshake

/-- The parse looks at the first 2301 bytes only. -/
theorem parseReply_within (handshake : RtmpHandshake) : ReadsWithin 2301 handshake.parseReply := by
  unfold parseReply
  refine .bind (.read_at (by decide)) fun ver _ => ?_
  split
  · exact .const _
  · refine .bind (readUint32_within (by decide)) fun time _ => ?_
    refine .bind (readUint32_within (by decide)) fun version _ => ?_
    refine .bind ((RtmpHandshakeDigest.parseDigest_within.behind 9).mono (by decide)) ?_
    rintro ⟨ret, digest⟩ ⟨data, parsed⟩
    rw [RtmpHandshakeDigest.parseDigest_ret parsed]
    refine .bind (RtmpHandshakeKey.parseKey_within.behind (9 + 764 + 764)) ?_
    rintro ⟨ret₁, key⟩ _
    exact .const _

/-- The parse refuses a reply exactly if its first byte is not 3.  It leaves the
copy of the reply as it is. -/
theorem parseReply_result {handshake after : RtmpHandshake} {data : List UInt8} {ret : Int}
    (parsed : handshake.parseReply data = .ok (ret, after)) :
    (ret < 0 ↔ data.head? ≠ some 0x03) ∧ after.s0s1s2 = handshake.s0s1s2 := by
  rw [parseReply] at parsed
  rcases Outcome.bind_eq_ok parsed with ⟨ver, first, parsed⟩
  have head : data.head? = some ver := by
    cases data with
    | nil => cases first
    | cons byte data => exact congrArg some (Outcome.ok.inj first)
  rw [head, ne_eq, Option.some.injEq]
  by_cases refused : ver ≠ 0x03
  · rw [if_pos refused, Outcome.pure_eq, Outcome.ok.injEq, Prod.mk.injEq] at parsed
    rw [← parsed.1, ← parsed.2]
    exact ⟨⟨fun _ => refused, fun _ => by decide⟩, rfl⟩
  · rw [if_neg refused] at parsed
    rcases Outcome.bind_eq_ok parsed with ⟨time, _, parsed⟩
    rcases Outcome.bind_eq_ok parsed with ⟨version, _, parsed⟩
    rcases Outcome.bind_eq_ok parsed with ⟨⟨count, digest⟩, _, parsed⟩
    rcases Outcome.bind_eq_ok parsed with ⟨⟨count₁, key⟩, _, parsed⟩
    simp only [Outcome.pure_eq, Outcome.ok.injEq, Prod.mk.injEq] at parsed
    rw [← parsed.1, ← parsed.2]
    refine ⟨⟨fun negative => ?_, fun other => absurd other refused⟩, rfl⟩
    exact absurd negative (Int.not_lt.mpr (Int.natCast_nonneg _))

/-- What one call on a complete reply does. -/
theorem processS0S1S2_complete (handshake : RtmpHandshake) {data : List UInt8} (complete : 3073 ≤ data.length) :
    Exists fun ret => Exists fun after =>
      handshake.processS0S1S2 data = .ok { copied := data.length, ret, handshake := after } ∧
      after.s0s1s2 = data.take 3073 ∧ (ret < 0 ↔ data.head? ≠ some 0x03) := by
  have notShort : ¬ data.length < 3073 := Nat.not_lt.mpr complete
  rcases parseReply_within { handshake with s0s1s2 := data.take 3073 } data [] (by omega) with
    ⟨⟨ret, after⟩, parsed, _⟩
  rcases parseReply_result parsed with ⟨refuses, copy⟩
  refine ⟨ret, after, ?_, copy, refuses⟩
  rw [processS0S1S2, if_neg notShort]
  simp only [parsed, Outcome.ok_bind_do, Outcome.pure_eq]

/-- C2 is bytes 1 to 1536 of the reply. -/
theorem createC2_eq {handshake : RtmpHandshake} {data : List UInt8} (complete : 3073 ≤ data.length)
    (copy : handshake.s0s1s2 = data.take 3073) :
    handshake.createC2 = .ok { handshake with c2 := fieldAt data 1 1536 } := by
  have length : (data.take 3073).length = 3073 := by
    rw [List.length_take]
    omega
  have field := fieldAt_within [] (data.take 3073) (data.drop 3073) (show 1 + 1536 ≤ (data.take 3073).length by omega)
  rw [List.nil_append, List.length_nil, Nat.zero_add, List.take_append_drop] at field
  rw [createC2, copy, Outcome.slice_of_le (by omega)]
  rw [fieldAt] at field
  simp only [Outcome.ok_bind_do, Outcome.pure_eq, field, fieldAt]

end RtmpHandshake

end Rtmp
end RtmpClient
