import RtmpClient.Rtmp.SendLemmas

namespace RtmpClient
namespace Rtmp

/-!
# The bound of the send cache

The loop of `do_send_message` looks at the space left only after it has written
a chunk, and asks for a header and not for the next chunk.  Every `memcpy` is
inside the cache until a chunk jumps over the last sixteen bytes.
-/

/-- A `memcpy` ends inside the cache. -/
def CacheOp.Inside : CacheOp -> Prop
  | .memcpy index bytes => index + bytes.length ≤ rtmpDefaultCacheBufferSize
  | .sendData _ => True

/-- The loop ends and all its writes are inside the cache. -/
def LoopInside (outChunkSize : UInt32) (header : RtmpHeader) (payload : List UInt8) (fuel : Nat)
    (cursor : SendCursor) : Prop :=
  Exists fun ops => sendLoop outChunkSize header payload fuel cursor = some ops ∧
    forall op, op ∈ ops -> op.Inside

/-- `do_send_message` ends and all its writes are inside the cache. -/
def CacheSafe (outChunkSize : UInt32) (header : RtmpHeader) (payload : List UInt8) : Prop :=
  Exists fun ops => doSendMessage outChunkSize header payload = some ops ∧
    forall op, op ∈ ops -> op.Inside

section Loop

variable {outChunkSize : UInt32} {header : RtmpHeader} {payload : List UInt8} {fuel : Nat}
variable {cursor : SendCursor}

/-- The cursor after one iteration. -/
def nextCursor (outChunkSize : UInt32) (header : RtmpHeader) (payload : List UInt8) (cursor : SendCursor) :
    SendCursor where
  start := cursor.start + min outChunkSize.toNat (payload.length - cursor.start)
  index :=
    if rtmpDefaultCacheBufferSize ≤ chunkEnd outChunkSize header payload cursor + 16 then 0
    else chunkEnd outChunkSize header payload cursor

/-- The stores of a chunk are inside exactly when its end is. -/
theorem chunkStores_inside :
    (forall op, op ∈ chunkStores outChunkSize header payload cursor -> op.Inside) ↔
      chunkEnd outChunkSize header payload cursor ≤ rtmpDefaultCacheBufferSize := by
  have body : cursor.index + (chunkHeaderBytes header cursor.start).length +
      (chunkBody outChunkSize payload cursor.start).length =
        chunkEnd outChunkSize header payload cursor := by
    rw [chunkBody_length, chunkEnd]
  constructor
  · intro inside
    have last := inside _ (List.mem_cons_of_mem _ (List.mem_singleton.mpr rfl))
    rw [CacheOp.Inside, body] at last
    exact last
  · intro bound op member
    rcases List.mem_cons.mp member with first | second
    · rw [first, CacheOp.Inside]
      exact Nat.le_trans (Nat.le_add_right _ _) (Nat.le_trans (Nat.le_of_eq body) bound)
    · rw [List.mem_singleton.mp second, CacheOp.Inside, body]
      exact bound

theorem loopInside_done (fuel : Nat) (done : ¬ cursor.start < payload.length) :
    LoopInside outChunkSize header payload fuel cursor := by
  rw [LoopInside, sendLoop_done fuel done]
  by_cases filled : cursor.index > 0
  · refine ⟨_, if_pos filled, ?_⟩
    intro op member
    rw [List.mem_singleton.mp member]
    trivial
  · refine ⟨_, if_neg filled, ?_⟩
    intro op member
    cases member

/-- Behind the last chunk of a payload the loop ends. -/
theorem loopInside_last (fuel : Nat) (last : payload.length - cursor.start ≤ outChunkSize.toNat) :
    LoopInside outChunkSize header payload fuel (nextCursor outChunkSize header payload cursor) := by
  apply loopInside_done
  show ¬ cursor.start + min outChunkSize.toNat (payload.length - cursor.start) < payload.length
  omega

/-- A chunk is inside with what follows it, whether or not the cache is flushed
in between. -/
theorem chunkAndRest_inside {flush : List CacheOp} (flushed : forall op, op ∈ flush -> op.Inside)
    (next : Option (List CacheOp)) :
    (Exists fun ops =>
      next.map (fun rest => chunkStores outChunkSize header payload cursor ++ (flush ++ rest)) = some ops ∧
        forall op, op ∈ ops -> op.Inside) ↔
      chunkEnd outChunkSize header payload cursor ≤ rtmpDefaultCacheBufferSize ∧
        Exists fun rest => next = some rest ∧ forall op, op ∈ rest -> op.Inside := by
  constructor
  · rintro ⟨ops, sent, inside⟩
    rcases Option.map_eq_some_iff.mp sent with ⟨rest, found, rfl⟩
    rw [List.forall_mem_append, List.forall_mem_append, chunkStores_inside] at inside
    exact ⟨inside.1, rest, found, inside.2.2⟩
  · rintro ⟨stores, rest, rfl, later⟩
    refine ⟨_, rfl, ?_⟩
    rw [List.forall_mem_append, List.forall_mem_append, chunkStores_inside]
    exact ⟨stores, flushed, later⟩

/-- One iteration is inside exactly when its chunk ends inside, and the loop
goes on from the next cursor. -/
theorem loopInside_next (more : cursor.start < payload.length) :
    LoopInside outChunkSize header payload (fuel + 1) cursor ↔
      chunkEnd outChunkSize header payload cursor ≤ rtmpDefaultCacheBufferSize ∧
        LoopInside outChunkSize header payload fuel (nextCursor outChunkSize header payload cursor) := by
  rw [LoopInside, LoopInside, sendLoop_next more, nextCursor]
  by_cases full : rtmpDefaultCacheBufferSize ≤ chunkEnd outChunkSize header payload cursor + 16
  · have flushed : forall op, op ∈ [CacheOp.sendData (chunkEnd outChunkSize header payload cursor)] ->
        op.Inside := by
      intro op member
      rw [List.mem_singleton.mp member]
      trivial
    rw [if_pos full, if_pos full]
    exact chunkAndRest_inside flushed _
  · have nothing : forall op, op ∈ ([] : List CacheOp) -> op.Inside := by
      intro op member
      cases member
    rw [if_neg full, if_neg full]
    exact chunkAndRest_inside nothing _

/-- A payload of one chunk is inside where its header leaves room for it. -/
theorem cacheSafe_single (whole : payload.length ≤ outChunkSize.toNat)
    (short : 12 + fieldLength header.timestamp + payload.length ≤ rtmpDefaultCacheBufferSize) :
    CacheSafe outChunkSize header payload := by
  by_cases nonempty : 0 < payload.length
  · rcases Nat.exists_eq_succ_of_ne_zero (Nat.ne_of_gt nonempty) with ⟨fuel, length⟩
    have first : LoopInside outChunkSize header payload (fuel + 1) { start := 0, index := 0 } := by
      rw [loopInside_next nonempty]
      refine ⟨?_, loopInside_last fuel whole⟩
      rw [chunkEnd, chunkHeaderBytes_length, if_pos rfl, Nat.sub_zero, Nat.min_eq_right whole, Nat.zero_add]
      exact short
    rw [← Nat.succ_eq_add_one, ← length] at first
    exact first
  · exact loopInside_done payload.length nonempty

end Loop

/-! ## Filling the cache -/

/-- The length of the header of chunk number `count`. -/
def headerLength (header : RtmpHeader) (count : Nat) : Nat :=
  (if count = 0 then 12 else 1) + fieldLength header.timestamp

theorem headerLength_le (header : RtmpHeader) (count : Nat) : headerLength header count ≤ 16 := by
  have first : (if count = 0 then 12 else 1) ≤ 12 := by
    split
    · exact Nat.le_refl 12
    · exact Nat.succ_le_succ (Nat.zero_le 11)
  exact Nat.add_le_add first (fieldLength_le header.timestamp)

/-- How far the cache is filled after `count` whole chunks without a flush. -/
def fill (size : Nat) (header : RtmpHeader) : Nat -> Nat
  | 0 => 0
  | count + 1 => fill size header count + headerLength header count + size

theorem fill_mono {size : Nat} {header : RtmpHeader} {fewer more : Nat} (less : fewer ≤ more) :
    fill size header fewer ≤ fill size header more := by
  induction less with
  | refl => exact Nat.le_refl _
  | step _ inductionHypothesis =>
      rw [fill]
      exact Nat.le_trans inductionHypothesis (by omega)

/-- Behind the first chunk the cache fills evenly. -/
theorem fill_succ (size : Nat) (header : RtmpHeader) (count : Nat) :
    fill size header (count + 1) =
      12 + fieldLength header.timestamp + size + count * (1 + fieldLength header.timestamp + size) := by
  induction count with
  | zero => simp only [fill, headerLength, if_true, Nat.zero_add, Nat.zero_mul, Nat.add_zero]
  | succ count inductionHypothesis =>
      have behind : headerLength header (count + 1) = 1 + fieldLength header.timestamp :=
        congrArg (· + _) (if_neg (Nat.succ_ne_zero count))
      rw [fill, inductionHypothesis, behind, Nat.succ_mul]
      omega

section Fill

variable {outChunkSize : UInt32} {header : RtmpHeader} {payload : List UInt8} {count : Nat}

/-- The cursor after `count` whole chunks without a flush. -/
def filledCursor (outChunkSize : UInt32) (header : RtmpHeader) (count : Nat) : SendCursor where
  start := count * outChunkSize.toNat
  index := fill outChunkSize.toNat header count

/-- Where the next chunk ends then. -/
theorem chunkEnd_filled (positive : 0 < outChunkSize.toNat) (count : Nat) :
    chunkEnd outChunkSize header payload (filledCursor outChunkSize header count) =
      fill outChunkSize.toNat header count + headerLength header count +
        min outChunkSize.toNat (payload.length - count * outChunkSize.toNat) := by
  have first : count * outChunkSize.toNat = 0 ↔ count = 0 := by
    rw [Nat.mul_eq_zero]
    constructor
    · rintro (zero | zero)
      · exact zero
      · exact absurd zero (Nat.ne_of_gt positive)
    · exact Or.inl
  rw [chunkEnd, chunkHeaderBytes_length, headerLength, filledCursor]
  simp only [first]

/-- A whole chunk that leaves more than sixteen bytes. -/
theorem nextCursor_filled (positive : 0 < outChunkSize.toNat)
    (whole : outChunkSize.toNat ≤ payload.length - count * outChunkSize.toNat)
    (room : fill outChunkSize.toNat header (count + 1) + 16 < rtmpDefaultCacheBufferSize) :
    nextCursor outChunkSize header payload (filledCursor outChunkSize header count) =
      filledCursor outChunkSize header (count + 1) := by
  have stop : chunkEnd outChunkSize header payload (filledCursor outChunkSize header count) =
      fill outChunkSize.toNat header (count + 1) := by
    rw [chunkEnd_filled positive, Nat.min_eq_left whole, fill]
  rw [nextCursor, stop, if_neg (Nat.not_le.mpr room), filledCursor, filledCursor, Nat.min_eq_left whole,
    Nat.succ_mul]

/-- Where the payload was sent in whole chunks nothing more is written. -/
theorem loopInside_sent (fuel : Nat) {last : Nat} (sent : ¬ count * outChunkSize.toNat < payload.length)
    (front : count ≤ last) (more : Nat) :
    LoopInside outChunkSize header payload fuel (filledCursor outChunkSize header count) ↔
      payload.length ≤ last * outChunkSize.toNat + more := by
  have chunks := Nat.mul_le_mul_right outChunkSize.toNat front
  apply iff_of_true
  · exact loopInside_done fuel sent
  · omega

/-- When a whole chunk jumps over the last sixteen bytes, the writes are inside
exactly up to the payload that still fits behind the chunks before it. -/
theorem loopInside_filled (positive : 0 < outChunkSize.toNat) {last : Nat}
    (room : fill outChunkSize.toNat header last + 16 < rtmpDefaultCacheBufferSize)
    (bursts : rtmpDefaultCacheBufferSize < fill outChunkSize.toNat header (last + 1)) {left fuel : Nat}
    (position : count + left = last) (reached : count * outChunkSize.toNat ≤ payload.length)
    (enough : payload.length - count * outChunkSize.toNat ≤ fuel) :
    LoopInside outChunkSize header payload fuel (filledCursor outChunkSize header count) ↔
      payload.length ≤ last * outChunkSize.toNat +
        (rtmpDefaultCacheBufferSize - (fill outChunkSize.toNat header last + headerLength header last)) := by
  induction left generalizing count fuel with
  | zero =>
      rw [Nat.add_zero] at position
      subst position
      rw [fill] at bursts
      have field := headerLength_le header count
      by_cases more : count * outChunkSize.toNat < payload.length
      · rcases Nat.exists_eq_succ_of_ne_zero (show fuel ≠ 0 by omega) with ⟨fuel, rfl⟩
        rw [loopInside_next more, chunkEnd_filled positive]
        constructor
        · rintro ⟨inside, _⟩
          omega
        · intro short
          have last : payload.length - count * outChunkSize.toNat ≤ outChunkSize.toNat := by omega
          exact ⟨by omega, loopInside_last fuel last⟩
      · exact loopInside_sent fuel more (Nat.le_refl count) _
  | succ left inductionHypothesis =>
      have before : fill outChunkSize.toNat header (count + 1) ≤ fill outChunkSize.toNat header last :=
        fill_mono (by omega)
      have behind : (count + 1) * outChunkSize.toNat ≤ last * outChunkSize.toNat :=
        Nat.mul_le_mul_right _ (by omega)
      have step : (count + 1) * outChunkSize.toNat = count * outChunkSize.toNat + outChunkSize.toNat :=
        Nat.succ_mul _ _
      by_cases more : count * outChunkSize.toNat < payload.length
      · rcases Nat.exists_eq_succ_of_ne_zero (show fuel ≠ 0 by omega) with ⟨fuel, rfl⟩
        rw [loopInside_next more, chunkEnd_filled positive]
        have inside : fill outChunkSize.toNat header count + headerLength header count +
            min outChunkSize.toNat (payload.length - count * outChunkSize.toNat) ≤
              rtmpDefaultCacheBufferSize := by
          rw [fill] at before
          omega
        by_cases whole : outChunkSize.toNat ≤ payload.length - count * outChunkSize.toNat
        · rw [nextCursor_filled positive whole (by omega),
            inductionHypothesis (by omega) (by omega) (by omega)]
          constructor
          · exact fun bound => bound.2
          · exact fun bound => ⟨inside, bound⟩
        · constructor
          · intro _
            omega
          · intro _
            exact ⟨inside, loopInside_last fuel (Nat.le_of_not_le whole)⟩
      · exact loopInside_sent fuel more (by omega) _

/-- The whole loop, from the empty cache. -/
theorem cacheSafe_iff (header : RtmpHeader) (payload : List UInt8) (positive : 0 < outChunkSize.toNat)
    (last : Nat) (room : fill outChunkSize.toNat header last + 16 < rtmpDefaultCacheBufferSize)
    (bursts : rtmpDefaultCacheBufferSize < fill outChunkSize.toNat header (last + 1)) :
    CacheSafe outChunkSize header payload ↔
      payload.length ≤ last * outChunkSize.toNat +
        (rtmpDefaultCacheBufferSize - (fill outChunkSize.toNat header last + headerLength header last)) := by
  have start : filledCursor outChunkSize header 0 = { start := 0, index := 0 } := by
    rw [filledCursor, Nat.zero_mul, fill]
  rw [← loopInside_filled positive room bursts (Nat.zero_add last)
    (by rw [Nat.zero_mul]; exact Nat.zero_le _) (Nat.sub_le _ _), start]
  exact Iff.rfl

end Fill

/-! ## The two chunk sizes of the client -/

/-- The packet with which `publish` raises the chunk size. -/
def publishSetChunkSize : RtmpSetChunkSizePacket where
  chunkSize := 60000

/-- The chunk size that `on_send_message` takes from it. -/
def rtmpPublishChunksize : UInt32 := publishSetChunkSize.chunkSize.toUInt32

/-- The longest payload whose chunks all stay inside the cache. -/
def cacheLimit (outChunkSize timestamp : UInt32) : Nat :=
  if outChunkSize = rtmpDefaultChunksize then
    if timestamp ≥ rtmpExtendedTimestamp then 31522 else 32503
  else if timestamp ≥ rtmpExtendedTimestamp then 32752 else 32756

/-- At the published chunk size the header and the payload fill the cache. -/
theorem le_cacheLimit_publish {timestamp : UInt32} {length : Nat} :
    length ≤ cacheLimit rtmpPublishChunksize timestamp ↔
      12 + fieldLength timestamp + length ≤ rtmpDefaultCacheBufferSize := by
  rw [cacheLimit, if_neg (show ¬ rtmpPublishChunksize = rtmpDefaultChunksize by decide), rtmpDefaultCacheBufferSize]
  by_cases extended : timestamp ≥ rtmpExtendedTimestamp
  · rw [if_pos extended, show fieldLength timestamp = 4 from if_pos extended]
    omega
  · rw [if_neg extended, show fieldLength timestamp = 0 from if_neg extended]
    omega

/-- At the default chunk size the cache takes 253 whole chunks, or 246 with the
extended timestamp; the next one reaches over its end. -/
theorem cacheSafe_default (header : RtmpHeader) (payload : List UInt8) :
    CacheSafe rtmpDefaultChunksize header payload ↔
      payload.length ≤ cacheLimit rtmpDefaultChunksize header.timestamp := by
  have size : rtmpDefaultChunksize.toNat = 128 := rfl
  rw [cacheLimit, if_pos rfl]
  by_cases extended : header.timestamp ≥ rtmpExtendedTimestamp
  · have field : fieldLength header.timestamp = 4 := if_pos extended
    have filled := fill_succ 128 header 245
    have burst := fill_succ 128 header 246
    have next : headerLength header 246 = 5 := by
      rw [headerLength, field]
      rfl
    rw [field] at filled burst
    rw [if_pos extended, cacheSafe_iff header payload (by decide) 246
      (by rw [size, filled]; decide) (by rw [size, burst]; decide), size, filled, next]
    exact Iff.rfl
  · have field : fieldLength header.timestamp = 0 := if_neg extended
    have filled := fill_succ 128 header 252
    have burst := fill_succ 128 header 253
    have next : headerLength header 253 = 1 := by
      rw [headerLength, field]
      rfl
    rw [field] at filled burst
    rw [if_neg extended, cacheSafe_iff header payload (by decide) 253
      (by rw [size, filled]; decide) (by rw [size, burst]; decide), size, filled, next]
    exact Iff.rfl

/-- At the published chunk size already the first whole chunk does. -/
theorem cacheSafe_publish (header : RtmpHeader) (payload : List UInt8) :
    CacheSafe rtmpPublishChunksize header payload ↔
      payload.length ≤ cacheLimit rtmpPublishChunksize header.timestamp := by
  have size : rtmpPublishChunksize.toNat = 60000 := rfl
  have empty : fill 60000 header 0 = 0 := rfl
  have burst := fill_succ 60000 header 0
  have field := fieldLength_le header.timestamp
  rw [Nat.zero_mul] at burst
  rw [le_cacheLimit_publish, cacheSafe_iff header payload (by decide) 0
    (by rw [size, empty]; decide) (by rw [size, burst, rtmpDefaultCacheBufferSize]; omega), size, empty,
    headerLength, if_pos rfl, rtmpDefaultCacheBufferSize]
  omega

/-- At both chunk sizes that the client sets, every write into the cache is
inside it exactly up to a payload length. -/
theorem sendCache_inside_iff (header : RtmpHeader) (payload : List UInt8) {outChunkSize : UInt32}
    (client : outChunkSize = rtmpDefaultChunksize ∨ outChunkSize = rtmpPublishChunksize) :
    CacheSafe outChunkSize header payload ↔
      payload.length ≤ cacheLimit outChunkSize header.timestamp := by
  rcases client with default | publish
  · rw [default]
    exact cacheSafe_default header payload
  · rw [publish]
    exact cacheSafe_publish header payload

/-- The longest payload at the default chunk size. -/
theorem sendCache_inside_longest :
    CacheSafe rtmpDefaultChunksize RtmpHeader.new (List.replicate 32503 0) := by
  apply (sendCache_inside_iff RtmpHeader.new (List.replicate 32503 0) (Or.inl rfl)).mpr
  rw [List.length_replicate]
  decide

/-- A key frame of 40000 bytes after `publish`. -/
theorem sendCache_overflows :
    ¬ CacheSafe rtmpPublishChunksize RtmpHeader.new (List.replicate 40000 0) := by
  rw [cacheSafe_publish, List.length_replicate]
  decide

end Rtmp
end RtmpClient
