import Mathlib.Tactic.Common

namespace RtmpClient
namespace Library

universe u

/-!
# A record that arrives in pieces

The length of a record is announced first and its cells arrive from the front,
at most `window` of them at a time.  `Assembly` is the record so far.
-/

/-- A record of `total` cells of which `received` have arrived. -/
structure Assembly (α : Type u) where
  total : Nat
  received : List α
  fits : received.length ≤ total

namespace Assembly

variable {α : Type u}

/-- A record of which nothing has arrived. -/
def start (total : Nat) : Assembly α where
  total := total
  received := []
  fits := Nat.zero_le total

/-- The cells still to come. -/
def missing (assembly : Assembly α) : Nat := assembly.total - assembly.received.length

/-- The cells the next piece must bring. -/
def pieceLength (assembly : Assembly α) (window : Nat) : Nat := min assembly.missing window

/-- A new announcement replaces the record unless a part of it has arrived. -/
def announce (assembly : Assembly α) (total : Nat) : Assembly α :=
  if assembly.received.length = 0 then start total else assembly

/-- Take the next piece off the front of `data`. -/
def feed (assembly : Assembly α) (window : Nat) (data : List α) : Assembly α where
  total := assembly.total
  received := assembly.received ++ data.take (assembly.pieceLength window)
  fits := by
    have bound := assembly.fits
    have piece : (data.take (assembly.pieceLength window)).length ≤ assembly.total - assembly.received.length :=
      Nat.le_trans (List.length_take_le _ _) (Nat.min_le_left _ _)
    rw [List.length_append]
    omega

/-- Every cell has arrived. -/
def Full (assembly : Assembly α) : Prop := assembly.received.length = assembly.total

instance (assembly : Assembly α) : Decidable assembly.Full :=
  inferInstanceAs (Decidable (_ = _))

@[simp] theorem start_total (total : Nat) : (start total : Assembly α).total = total := rfl

@[simp] theorem feed_total (assembly : Assembly α) (window : Nat) (data : List α) :
    (assembly.feed window data).total = assembly.total := rfl

theorem feed_received (assembly : Assembly α) (window : Nat) (data : List α) :
    (assembly.feed window data).received = assembly.received ++ data.take (assembly.pieceLength window) := rfl

theorem announce_idle {assembly : Assembly α} (idle : assembly.received.length = 0) (total : Nat) :
    assembly.announce total = start total := if_pos idle

theorem announce_started {assembly : Assembly α} (started : assembly.received.length ≠ 0) (total : Nat) :
    assembly.announce total = assembly := if_neg started

/-- When the data holds the next piece, the record grows by exactly it. -/
theorem feed_length {assembly : Assembly α} {window : Nat} {data : List α}
    (enough : assembly.pieceLength window ≤ data.length) :
    (assembly.feed window data).received.length = assembly.received.length + assembly.pieceLength window := by
  rw [feed_received, List.length_append, List.length_take, Nat.min_eq_left enough]

/-- What is missing after a piece. -/
theorem feed_missing {assembly : Assembly α} {window : Nat} {data : List α}
    (enough : assembly.pieceLength window ≤ data.length) :
    (assembly.feed window data).missing = assembly.missing - assembly.pieceLength window := by
  rw [missing, feed_length enough, feed_total, missing, Nat.sub_sub]

/-- Nothing is missing from a full record. -/
theorem Full.missing_eq {assembly : Assembly α} (full : assembly.Full) : assembly.missing = 0 := by
  rw [missing, full, Nat.sub_self]

end Assembly

/-- How many pieces bring `missing` cells, all but the last as wide as the window. -/
def pieceCount (window missing : Nat) : Nat := (missing + window - 1) / window

/-- Every piece but none of nothing counts for one. -/
theorem pieceCount_step {window missing : Nat} (positive : 0 < window) (more : 0 < missing) :
    pieceCount window missing = pieceCount window (missing - min missing window) + 1 := by
  by_cases last : missing ≤ window
  · have one : missing + window - 1 = missing - 1 + window := by omega
    have none : (window - 1) / window = 0 := Nat.div_eq_of_lt (Nat.sub_lt positive Nat.one_pos)
    rw [Nat.min_eq_left last, Nat.sub_self, pieceCount, pieceCount, Nat.zero_add, none, one,
      Nat.add_div_right _ positive, Nat.div_eq_of_lt (by omega)]
  · have whole : window ≤ missing := Nat.le_of_not_le last
    have rest : missing + window - 1 = missing - window + window - 1 + window := by omega
    rw [Nat.min_eq_right whole, pieceCount, pieceCount, rest, Nat.add_div_right _ positive]

theorem pieceCount_zero (window : Nat) : pieceCount window 0 = 0 := by
  unfold pieceCount
  cases window with
  | zero => rfl
  | succ window => exact Nat.div_eq_of_lt (by omega)

theorem pieceCount_mono (window : Nat) {fewer more : Nat} (less : fewer ≤ more) :
    pieceCount window fewer ≤ pieceCount window more :=
  Nat.div_le_div_right (Nat.sub_le_sub_right (Nat.add_le_add_right less window) 1)

end Library
end RtmpClient
