import RtmpClient.Net.WebSocketClient

namespace RtmpClient
namespace Net

open Library

/-!
# When the loop of `WebSocketClient::process` comes to an end

`index` moves by a length that the peer announces.  The loop ends on exactly
the data that can be walked through header by header.
-/

/-- An empty close frame, which ends the loop. -/
def WsHeader.Closes (header : WsHeader) : Prop := header.announced = 0 ∧ header.opcode = .closeFrame

/-- From `index` on, the data can be walked through from header to header: each
is whole, and the length it announces leads forward. -/
inductive Walkable : (index : Nat) -> (rest : List UInt8) -> Prop where
  /-- Nothing behind an empty close frame is looked at. -/
  | close {index : Nat} {rest : List UInt8} {header : WsHeader} {hlen : Nat}
      (found : WsHeader.new.decode rest = .ok (header, hlen)) (closes : header.Closes) : Walkable index rest
  /-- The frame reaches the end of the data. -/
  | last {index : Nat} {rest : List UInt8} {header : WsHeader} {hlen : Nat}
      (found : WsHeader.new.decode rest = .ok (header, hlen)) (stays : ¬ header.Closes)
      (reaches : rest.length ≤ header.announced + hlen) (fits : index + (header.announced + hlen) < 2 ^ 31) :
      Walkable index rest
  /-- A negative length leads forward by less than the header, and what stands
  behind the header is cached. -/
  | back {index : Nat} {rest : List UInt8} {header : WsHeader} {hlen : Nat}
      (found : WsHeader.new.decode rest = .ok (header, hlen)) (negative : header.announced < 0)
      (forward : 1 ≤ header.announced + hlen) (behind : hlen < rest.length) : Walkable index rest
  /-- The next header stands behind the frame. -/
  | next {index step : Nat} {rest : List UInt8} {header : WsHeader} {hlen : Nat}
      (found : WsHeader.new.decode rest = .ok (header, hlen)) (stays : ¬ header.Closes)
      (forward : 1 ≤ step) (frame : header.announced + hlen = step) (inside : step < rest.length)
      (uncached : header.announced < 0 -> hlen = rest.length) (later : Walkable (index + step) (rest.drop step)) :
      Walkable index rest

/-- What the cached message lacks, as the loop computes it. -/
def WebSocketClient.missing (client : WebSocketClient) : Nat :=
  asUint32 (client.msgLen.toNat - asInt client.cacheMsg.length)

/-- What `process` needs of its state and the data: an incomplete message is
not complete already, and behind it, or from the start, the data is walkable. -/
def WebSocketClient.Parses (client : WebSocketClient) (data : List UInt8) : Prop :=
  if client.cacheMsg = [] then Walkable 0 data
  else
    data.length ≤ client.missing ∨
      1 ≤ client.missing ∧ client.cacheMsg.length < client.msgLen.toNat ∧
        Walkable client.missing (data.drop client.missing)

namespace Parse

variable {data : List UInt8} {client : WebSocketClient}

/-- `process` is at the start of a frame. -/
theorem round_fresh (uncached : client.cacheMsg = []) (index : Int) :
    round data { client, index } = freshRound data { client, index } := by
  rw [round, if_neg (by rw [uncached]; decide)]

theorem round_cached (cached : client.cacheMsg ≠ []) (index : Int) :
    round data { client, index } = cachedRound data { client, index } :=
  if_pos (List.length_pos_of_ne_nil cached)

theorem frameAt_length (start : Nat) (header : WsHeader) (hlen : Nat) :
    (frameAt data start header hlen).dest.length = data.length - (start + hlen) :=
  (payload_length header _).trans List.length_drop

theorem round_handle {start hlen : Nat} {header : WsHeader} (uncached : client.cacheMsg = [])
    (inside : start ≤ data.length) (small : data.length ≤ maxDataLen)
    (found : WsHeader.new.decode (data.drop start) = .ok (header, hlen))
    (step : FitsInt (header.announced + hlen)) (place : FitsInt (start + (header.announced + hlen))) :
    round data { client, index := start } =
      handle data client (frameAt data start header hlen) (start + (header.announced + hlen)) := by
  rw [round_fresh uncached, freshRound_handle inside small found step place]

theorem onRecvData_cacheMsg (client : WebSocketClient) (data : List UInt8) :
    (client.onRecvData data).cacheMsg = client.cacheMsg := by
  rw [WebSocketClient.onRecvData]
  split <;> rfl

/-- A frame that does not close leaves the loop to the test at its foot.
Nothing is cached of one that is whole, or has nothing behind its header. -/
theorem handle_stays (start hlen : Nat) {header : WsHeader} (uncached : client.cacheMsg = [])
    (stays : ¬ header.Closes) (index : Int) : Exists fun after =>
      handle data client (frameAt data start header hlen) index = .ok (test data { client := after, index }) ∧
        (0 ≤ header.announced ∧ start + hlen + header.announced ≤ data.length ∨ data.length ≤ start + hlen ->
          after.cacheMsg = []) := by
  have fits : FitsInt header.announced := asInt_fits _
  have length := @frameAt_length data start header hlen
  by_cases empty : (frameAt data start header hlen).ret = 0
  · exact ⟨client, handle_empty empty fun closes => stays ⟨empty, closes⟩, fun _ => uncached⟩
  · by_cases short : (frameAt data start header hlen).dest.length < asSize (frameAt data start header hlen).ret
    · refine ⟨_, handle_cached empty short, ?_⟩
      rintro (⟨nonneg, whole⟩ | nothing)
      · have top := fits.2
        have size : asSize header.announced = header.announced.toNat := asSize_of_nonneg nonneg (by omega)
        replace short : (frameAt data start header hlen).dest.length < asSize header.announced := short
        omega
      · show client.cacheMsg ++ _ = []
        rw [uncached, List.nil_append]
        apply List.eq_nil_of_length_eq_zero
        omega
    · refine ⟨_, handle_delivered empty short, fun _ => ?_⟩
      rw [onRecvData_cacheMsg]
      exact uncached

/-- With a negative length everything behind the header is cached, for a message
longer than any data. -/
theorem handle_back (start hlen : Nat) {header : WsHeader} (uncached : client.cacheMsg = [])
    (small : data.length ≤ maxDataLen) (negative : header.announced < 0) (forward : 1 ≤ header.announced + hlen)
    (short : hlen ≤ 14) (behind : start + hlen < data.length) (index : Int) : Exists fun after =>
      handle data client (frameAt data start header hlen) index = .ok (test data { client := after, index }) ∧
        after.cacheMsg ≠ [] ∧
          data.length ≤ after.missing := by
  have fits : FitsInt header.announced := asInt_fits _
  have bound : data.length ≤ 65535 := small
  have length := @frameAt_length data start header hlen
  have size := asSize_of_neg negative (by omega)
  have beyond : (frameAt data start header hlen).dest.length < asSize (frameAt data start header hlen).ret := by
    show _ < asSize header.announced
    omega
  have carries : (frameAt data start header hlen).ret ≠ 0 := by
    show header.announced ≠ 0
    omega
  refine ⟨_, handle_cached carries beyond, ?_, ?_⟩
  · show client.cacheMsg ++ _ ≠ []
    rw [uncached, List.nil_append]
    apply List.ne_nil_of_length_pos
    omega
  · show data.length ≤ asUint32 ((UInt32.ofNat (asUint32 header.announced)).toNat -
      asInt (client.cacheMsg ++ (frameAt data start header hlen).dest).length)
    have wrapped := asUint32_of_neg negative (by omega)
    have word := asUint32_lt header.announced
    rw [uncached, List.nil_append, asInt_of_fits ⟨by omega, by omega⟩, UInt32.toNat_ofNat', Nat.mod_eq_of_lt word,
      asUint32_of_nonneg (by omega) (by omega)]
    omega

/-- The cached message takes all of the data. -/
theorem cached_leaves {index : Int} (cached : client.cacheMsg ≠ []) (small : data.length ≤ maxDataLen)
    (begun : 0 ≤ index) (fits : index ≤ data.length)
    (longer : data.length ≤ client.missing) :
    Exists fun after => round data { client, index } =
      .ok (.leave { client := after, index := index + data.length }) := by
  have bound : data.length ≤ 65535 := small
  have sum : FitsInt (index + data.length) := ⟨by omega, by omega⟩
  rw [round_cached cached, cachedRound]
  dsimp only
  rw [← WebSocketClient.missing, Nat.min_eq_right longer, checkedInt_of_fits sum]
  exact ⟨_, congrArg Outcome.ok (test_leave (by show (data.length : Int) ≤ index + data.length; omega))⟩

theorem cached_moves {index : Int} (cached : client.cacheMsg ≠ []) (small : data.length ≤ maxDataLen)
    (begun : 0 ≤ index) (fits : index ≤ data.length) (longer : data.length ≤ client.missing) :
    MovesForward (round data) Parse.index { client, index } := by
  rcases cached_leaves cached small begun fits longer with ⟨after, leaves⟩
  exact MovesForward.of_leave begun (show 0 ≤ index + data.length by omega) leaves

/-! ## Both directions -/

theorem walk_moves {start : Nat} {rest : List UInt8} (walkable : Walkable start rest)
    (uncached : client.cacheMsg = []) (small : data.length ≤ maxDataLen) (place : rest = data.drop start)
    (inside : start ≤ data.length) : MovesForward (round data) Parse.index { client, index := start } := by
  have bound : data.length ≤ 65535 := small
  have begun (start : Nat) (client : WebSocketClient) : 0 ≤ Parse.index { client, index := (start : Int) } :=
    Int.natCast_nonneg start
  induction walkable generalizing client with
  | @close start rest header hlen found closes =>
      have empty : header.announced = 0 := closes.1
      have bounds := decode_inside found
      rw [place, List.length_drop] at bounds
      rw [place] at found
      have handled : Exists fun reply => handle data client (frameAt data start header hlen)
          (start + (header.announced + hlen)) =
          .ok (.leave { client := client.sendData reply, index := start + (header.announced + hlen) }) :=
        handle_close empty closes.2
      rcases handled with ⟨reply, handled⟩
      have round := round_handle uncached inside small found ⟨by omega, by omega⟩ ⟨by omega, by omega⟩
      refine MovesForward.of_leave (begun start client) ?_ (round.trans handled)
      show 0 ≤ (start : Int) + (header.announced + hlen)
      omega
  | @last start rest header hlen found stays reaches fits =>
      have bounds := decode_inside found
      rw [place, List.length_drop] at bounds reaches
      rw [place] at found
      have round := round_handle uncached inside small found ⟨by omega, by omega⟩ ⟨by omega, by omega⟩
      rcases handle_stays start hlen uncached stays (start + (header.announced + hlen)) with ⟨after, handled, -⟩
      rw [test_leave (by show (data.length : Int) ≤ start + (header.announced + hlen); omega)] at handled
      refine MovesForward.of_leave (begun start client) ?_ (round.trans handled)
      show 0 ≤ (start : Int) + (header.announced + hlen)
      omega
  | @back start rest header hlen found negative forward behind =>
      have bounds := decode_inside found
      rw [place, List.length_drop] at bounds behind
      rw [place] at found
      have round := round_handle uncached inside small found ⟨by omega, by omega⟩ ⟨by omega, by omega⟩
      rcases handle_back start hlen uncached small negative forward bounds.2.1 (by omega)
          (start + (header.announced + hlen)) with
        ⟨after, handled, cached, longer⟩
      rw [test_again (by show (start : Int) + (header.announced + hlen) < data.length; omega)] at handled
      have later := cached_moves cached small (show 0 ≤ (start : Int) + (header.announced + hlen) by omega) (by omega) longer
      refine MovesForward.of_again (begun start client) ?_ (round.trans handled) later
      show (start : Int) + 1 ≤ start + (header.announced + hlen)
      omega
  | @next start step rest header hlen found stays forward frame inside' uncached' later inductionHypothesis =>
      have bounds := decode_inside found
      rw [place, List.length_drop] at bounds inside' uncached'
      rw [place] at found
      have round := round_handle uncached inside small found ⟨by omega, by omega⟩ ⟨by omega, by omega⟩
      rcases handle_stays start hlen uncached stays (start + (header.announced + hlen)) with
        ⟨after, handled, still⟩
      have target : (start : Int) + (header.announced + hlen) = (start + step : Nat) := by
        rw [frame, Nat.cast_add]
      rw [test_again (by show (start : Int) + (header.announced + hlen) < data.length; omega), target] at handled
      rw [target] at round
      have onward : MovesForward (Parse.round data) Parse.index { client := after, index := (start + step : Nat) } :=
        inductionHypothesis (still (by
          by_cases nonneg : 0 ≤ header.announced
          · left
            omega
          · right
            have := uncached' (by omega)
            omega))
        (by rw [place, List.drop_drop]) (by omega)
      refine MovesForward.of_again (begun start client) ?_ (round.trans handled) onward
      show (start : Int) + 1 ≤ (start + step : Nat)
      omega

/-- A round at the start of a frame that is not a fault has found a header, and
the place behind its frame has a number. -/
theorem round_found {start : Nat} {round' : Round Parse} (uncached : client.cacheMsg = [])
    (inside : start ≤ data.length) (small : data.length ≤ maxDataLen)
    (went : round data { client, index := start } = .ok round') : Exists fun header => Exists fun hlen =>
      WsHeader.new.decode (data.drop start) = .ok (header, hlen) ∧ FitsInt (start + (header.announced + hlen)) ∧
        handle data client (frameAt data start header hlen) (start + (header.announced + hlen)) = .ok round' := by
  have nonneg : ¬ (start : Int) < 0 := by omega
  rw [round_fresh uncached, freshRound, if_neg nonneg] at went
  dsimp only at went
  rw [Int.toNat_natCast] at went
  rcases Outcome.bind_eq_ok went with ⟨decoded, found, went⟩
  rcases Outcome.bind_eq_ok went with ⟨step, stepped, went⟩
  rcases Outcome.bind_eq_ok went with ⟨place, placed, went⟩
  rcases Outcome.bind_eq_ok found with ⟨⟨header, hlen⟩, header', -⟩
  rw [decodeData_at inside small header', Outcome.ok.injEq] at found
  subst found
  rcases fits_of_checkedInt stepped with ⟨-, rfl⟩
  rcases fits_of_checkedInt placed with ⟨fits, rfl⟩
  exact ⟨header, hlen, header', fits, went⟩

theorem walkable_of_moves {left start : Nat} (bound : data.length - start ≤ left)
    (uncached : client.cacheMsg = []) (small : data.length ≤ maxDataLen) (inside : start < data.length)
    (moves : MovesForward (round data) Parse.index { client, index := start }) :
    Walkable start (data.drop start) := by
  induction left generalizing client start with
  | zero => omega
  | succ left inductionHypothesis =>
      rcases moves.first with ⟨round', went, -, onward⟩
      rcases round_found uncached (Nat.le_of_lt inside) small went with ⟨header, hlen, found, fits, handled⟩
      have bounds := decode_inside found
      have length : (data.drop start).length = data.length - start := List.length_drop
      by_cases closes : header.Closes
      · exact .close found closes
      · rcases handle_stays start hlen uncached closes (start + (header.announced + hlen)) with
          ⟨after, tested, still⟩
        rw [tested, Outcome.ok.injEq] at handled
        subst handled
        by_cases reaches : (data.length : Int) ≤ start + (header.announced + hlen)
        · exact .last found closes (by omega) fits.2
        · rw [test_again (by show (start : Int) + (header.announced + hlen) < data.length; omega)] at went onward
          have forward : (start : Int) + 1 ≤ start + (header.announced + hlen) := onward _ rfl
          by_cases behind : header.announced < 0 ∧ hlen < (data.drop start).length
          · exact .back found behind.1 (by omega) behind.2
          · rcases Int.eq_ofNat_of_zero_le (show 0 ≤ header.announced + hlen by omega) with ⟨step, frame⟩
            have target : (start : Int) + (header.announced + hlen) = (start + step : Nat) := by
              rw [frame, Nat.cast_add]
            rw [target] at went
            have later := inductionHypothesis (show data.length - (start + step) ≤ left by omega)
              (still (by
                by_cases nonneg : 0 ≤ header.announced
                · left
                  omega
                · right
                  omega))
              (by omega) (moves.tail went)
            rw [← List.drop_drop] at later
            exact .next found closes (by omega) frame (by omega) (by omega) later

/-- At the start of the data, with nothing cached. -/
theorem moves_iff_walkable (uncached : client.cacheMsg = []) (small : data.length ≤ maxDataLen)
    (nonempty : 0 < data.length) :
    MovesForward (round data) Parse.index { client, index := 0 } ↔ Walkable 0 data := by
  constructor
  · intro moves
    exact walkable_of_moves (Nat.le_refl (data.length - 0)) uncached small nonempty moves
  · intro walkable
    have moves : MovesForward (round data) Parse.index { client, index := ((0 : Nat) : Int) } :=
      walk_moves walkable uncached small rfl (Nat.zero_le _)
    exact moves

/-! ## A message that is incomplete -/

/-- A message that is longer than announced counts as one that lacks the
difference to `2 ^ 32`. -/
theorem missing_bounds (client : WebSocketClient) : client.missing < 2 ^ 32 ∧
    (client.cacheMsg.length ≤ client.msgLen.toNat -> client.cacheMsg.length + client.missing = client.msgLen.toNat) ∧
    (client.cacheMsg.length + client.missing) % 2 ^ 32 = client.msgLen.toNat := by
  have word := client.msgLen.toNat_lt
  rw [WebSocketClient.missing, asUint32_sub_asInt, asUint32]
  refine ⟨by omega, ?_, by omega⟩
  intro short
  omega

/-- The data completes the message. -/
theorem cached_delivers (cached : client.cacheMsg ≠ []) (short : client.cacheMsg.length < client.msgLen.toNat)
    (small : data.length ≤ maxDataLen) (completes : client.missing < data.length) : Exists fun after =>
      round data { client, index := 0 } = .ok (.again { client := after, index := client.missing }) ∧
        after.cacheMsg = [] := by
  have bound : data.length ≤ 65535 := small
  have length : (client.cacheMsg ++ data.take (client.missing)).length = client.msgLen.toNat := by
    rw [List.length_append, List.length_take, Nat.min_eq_left (Nat.le_of_lt completes)]
    exact (missing_bounds client).2.1 (Nat.le_of_lt short)
  rw [round_cached cached, cachedRound]
  dsimp only
  rw [← WebSocketClient.missing, Nat.min_eq_left (Nat.le_of_lt completes), checkedInt_of_fits ⟨by omega, by omega⟩, if_pos length,
    Int.zero_add]
  exact ⟨_, congrArg Outcome.ok (test_again (by show (client.missing : Int) < data.length; omega)), rfl⟩

/-- A message that is longer than announced takes the bytes it seems to lack,
and then none. -/
theorem cached_stuck (cached : client.cacheMsg ≠ []) (long : client.msgLen.toNat ≤ client.cacheMsg.length)
    (small : data.length ≤ maxDataLen) {index : Nat} (fits : index + client.missing < data.length) :
    Exists fun after =>
      round data { client, index := index } = .ok (.again { client := after, index := (index + client.missing : Nat) }) ∧
        (1 ≤ client.missing -> after.cacheMsg ≠ [] ∧ after.msgLen.toNat ≤ after.cacheMsg.length ∧
          after.missing = 0) := by
  have bound : data.length ≤ 65535 := small
  rw [round_cached cached, cachedRound]
  dsimp only
  rw [← WebSocketClient.missing, Nat.min_eq_left (by omega), checkedInt_of_fits ⟨by omega, by omega⟩, ← Nat.cast_add]
  refine ⟨_, congrArg Outcome.ok (test_again (by show ((index + client.missing : Nat) : Int) < data.length; omega)), ?_⟩
  intro some
  have length : (client.cacheMsg ++ data.take (client.missing)).length = client.cacheMsg.length + client.missing := by
    rw [List.length_append, List.length_take, Nat.min_eq_left (by omega)]
  have longer : ¬ (client.cacheMsg ++ data.take (client.missing)).length = client.msgLen.toNat := by omega
  rw [if_neg longer]
  refine ⟨?_, ?_, ?_⟩
  · apply List.append_ne_nil_of_left_ne_nil cached
  · show client.msgLen.toNat ≤ (client.cacheMsg ++ data.take (client.missing)).length
    omega
  · have joined := (missing_bounds client).2.2
    rw [WebSocketClient.missing, asUint32_sub_asInt, asUint32]
    show ((client.msgLen.toNat - (client.cacheMsg ++ data.take (client.missing)).length : Int) % 2 ^ 32).toNat = 0
    omega

/-- A message longer than announced keeps `index` where it is. -/
theorem not_moves_stuck (cached : client.cacheMsg ≠ []) (long : client.msgLen.toNat ≤ client.cacheMsg.length)
    (small : data.length ≤ maxDataLen) (fits : client.missing < data.length) :
    ¬ MovesForward (round data) Parse.index { client, index := ((0 : Nat) : Int) } := by
  intro moves
  rcases cached_stuck cached long small (show 0 + client.missing < data.length by omega) with ⟨after, went, again⟩
  rcases moves.first with ⟨round', went', -, onward⟩
  rw [went, Outcome.ok.injEq] at went'
  subst went'
  have some : ((0 : Nat) : Int) + 1 ≤ ((0 + client.missing : Nat) : Int) := onward _ rfl
  rcases again (by omega) with ⟨cached', long', full⟩
  rcases cached_stuck cached' long' small (show 0 + client.missing + after.missing < data.length by omega) with
    ⟨last, stays, -⟩
  rcases (moves.tail went).first with ⟨round', went', -, onward⟩
  rw [stays, Outcome.ok.injEq] at went'
  subst went'
  have moved : ((0 + client.missing : Nat) : Int) + 1 ≤ ((0 + client.missing + after.missing : Nat) : Int) :=
    onward _ rfl
  omega

/-- A message that lacks all of the data. -/
theorem moves_of_takes (cached : client.cacheMsg ≠ []) (small : data.length ≤ maxDataLen)
    (takes : data.length ≤ client.missing) : MovesForward (round data) Parse.index { client, index := 0 } := by
  rcases cached_leaves cached small (Int.le_refl 0) (Int.natCast_nonneg _) takes with ⟨after, leaves⟩
  refine MovesForward.of_leave (Int.le_refl 0) ?_ leaves
  show 0 ≤ (0 : Int) + data.length
  omega

/-- At the start of the data, with a message that is incomplete. -/
theorem moves_iff_cached (cached : client.cacheMsg ≠ []) (small : data.length ≤ maxDataLen) :
    MovesForward (round data) Parse.index { client, index := 0 } ↔
      (data.length ≤ client.missing ∨
        1 ≤ client.missing ∧ client.cacheMsg.length < client.msgLen.toNat ∧
          Walkable client.missing (data.drop client.missing)) := by
  constructor
  · intro moves
    by_cases takes : data.length ≤ client.missing
    · exact .inl takes
    · have completes := Nat.not_le.mp takes
      have short : client.cacheMsg.length < client.msgLen.toNat := by
        by_contra long
        exact not_moves_stuck cached (Nat.not_lt.mp long) small completes moves
      rcases cached_delivers cached short small completes with ⟨after, went, uncached⟩
      rcases moves.first with ⟨round', went', -, onward⟩
      rw [went, Outcome.ok.injEq] at went'
      subst went'
      have some : (0 : Int) + 1 ≤ client.missing := onward _ rfl
      exact .inr ⟨by omega, short,
        walkable_of_moves (Nat.le_refl _) uncached small completes (moves.tail went)⟩
  · rintro (takes | ⟨some, short, walkable⟩)
    · exact moves_of_takes cached small takes
    · by_cases takes : data.length ≤ client.missing
      · exact moves_of_takes cached small takes
      · have completes := Nat.not_le.mp takes
        rcases cached_delivers cached short small completes with ⟨after, went, uncached⟩
        refine MovesForward.of_again (Int.le_refl 0) ?_ went
          (walk_moves walkable uncached small rfl (Nat.le_of_lt completes))
        show (0 : Int) + 1 ≤ client.missing
        omega

end Parse

/-- The loop comes to an end, moves forward, and reads nothing behind the data,
on exactly the data that can be walked through. -/
theorem WebSocketClient.movesForward_iff_parses (client : WebSocketClient) (data : Reception) :
    MovesForward (Parse.round data.bytes) Parse.index { client, index := 0 } ↔ client.Parses data.bytes := by
  rw [WebSocketClient.Parses]
  by_cases uncached : client.cacheMsg = []
  · rw [if_pos uncached]
    exact Parse.moves_iff_walkable uncached data.inside (List.length_pos_of_ne_nil data.nonempty)
  · rw [if_neg uncached]
    exact Parse.moves_iff_cached uncached data.inside

/-- A frame that announces 2 ^ 64 - 10 bytes behind its header of ten. -/
def backwards : Reception where
  bytes := [0x81, 0x7f, 0, 0, 0, 0, 0xff, 0xff, 0xff, 0xf6]
  nonempty := by decide
  inside := by decide

def backwardsHeader : WsHeader :=
  { WsHeader.new with eof := true, opcode := .textFrame, len := 18446744073709551606 }

theorem backwards_decode : WsHeader.new.decode (backwards.bytes.drop 0) = .ok (backwardsHeader, 10) := by
  decide +kernel

/-- The loop reads this header for ever. -/
theorem backwards_stuck :
    ¬ MovesForward (Parse.round backwards.bytes) Parse.index { client := .new, index := 0 } := by
  have announced : backwardsHeader.announced = -10 := asInt_eq (by decide) (by decide)
  have stays : ¬ backwardsHeader.Closes := by
    rintro ⟨-, closes⟩
    cases closes
  have uncached : WebSocketClient.new.cacheMsg = [] := rfl
  intro moves
  replace moves : MovesForward (Parse.round backwards.bytes) Parse.index
    { client := .new, index := ((0 : Nat) : Int) } := moves
  rcases moves.first with ⟨round', went, -, onward⟩
  rcases Parse.round_found uncached (Nat.zero_le _) backwards.inside went with ⟨header, hlen, found, -, handled⟩
  rw [backwards_decode, Outcome.ok.injEq, Prod.mk.injEq] at found
  rcases found with ⟨rfl, rfl⟩
  rw [announced] at handled
  rcases @Parse.handle_stays backwards.bytes _ 0 10 _ uncached stays
      (((0 : Nat) : Int) + (-10 + ((10 : Nat) : Int))) with ⟨after, tested, -⟩
  have inside : ((0 : Nat) : Int) + (-10 + ((10 : Nat) : Int)) < backwards.bytes.length := by decide
  rw [tested, Parse.test_again inside, Outcome.ok.injEq] at handled
  have forward : ((0 : Nat) : Int) + 1 ≤ ((0 : Nat) : Int) + (-10 + ((10 : Nat) : Int)) :=
    onward { client := after, index := ((0 : Nat) : Int) + (-10 + ((10 : Nat) : Int)) } handled.symm
  exact absurd forward (by decide)

end Net
end RtmpClient
