import RtmpClient.Library.CppString

namespace RtmpClient
namespace Library

/-!
# Lines and words of a text

What `getline` and `>>` find in a text that was put together of lines and of
words.
-/

/-- The lines, each with its end. -/
def unlines (lines : List (List UInt8)) : List UInt8 := lines.flatMap (· ++ [10])

theorem linesFrom_line (line : List UInt8) {text : List UInt8} (whole : 10 ∉ text) (rest : List UInt8) :
    linesFrom line (text ++ 10 :: rest) = (line ++ text) :: linesFrom [] rest := by
  induction text generalizing line with
  | nil => rw [List.nil_append, linesFrom, if_pos rfl, List.append_nil]
  | cons letter text inductionHypothesis =>
      rw [List.mem_cons, not_or] at whole
      rw [List.cons_append, linesFrom, if_neg (Ne.symm whole.1), inductionHypothesis _ whole.2, List.append_assoc,
        List.singleton_append]

/-- Lines come back from their text. -/
theorem linesFrom_unlines {lines : List (List UInt8)} (whole : forall line, line ∈ lines -> 10 ∉ line) :
    linesFrom [] (unlines lines) = lines := by
  induction lines with
  | nil => rfl
  | cons line lines inductionHypothesis =>
      rw [List.forall_mem_cons] at whole
      have split : unlines (line :: lines) = line ++ 10 :: unlines lines := by
        rw [unlines, List.flatMap_cons, List.append_assoc, List.singleton_append]
        rfl
      rw [split, linesFrom_line [] whole.1, List.nil_append, inductionHypothesis whole.2]

/-- A piece is found where it stands somewhere. -/
theorem findPiece_isSome {piece : List UInt8} (before behind : List UInt8) :
    (findPiece piece (before ++ (piece ++ behind))).isSome := by
  induction before with
  | nil =>
      rw [List.nil_append, findPiece_prefix]
      rfl
  | cons letter before inductionHypothesis =>
      rw [List.cons_append, findPiece]
      by_cases here : piece.isPrefixOf (letter :: (before ++ (piece ++ behind))) = true
      · rw [if_pos here]
        rfl
      · rw [if_neg here, Option.isSome_map]
        exact inductionHypothesis

/-! ## Words -/

/-- A word: something without a space. -/
structure IsWord (text : List UInt8) : Prop where
  nonempty : text ≠ []
  unspaced : forall letter, letter ∈ text -> isSpace letter = false

instance (text : List UInt8) : Decidable (IsWord text) :=
  have := List.decidableBAll (fun letter => isSpace letter = false) text
  decidable_of_iff (text ≠ [] ∧ forall letter, letter ∈ text -> isSpace letter = false)
    ⟨fun parts => ⟨parts.1, parts.2⟩, fun parts => ⟨parts.nonempty, parts.unspaced⟩⟩

/-- Words before a space and words behind it. -/
theorem wordsFrom_space (word first : List UInt8) {space : UInt8} (spaced : isSpace space = true)
    (second : List UInt8) : wordsFrom word (first ++ space :: second) = wordsFrom word first ++ wordsFrom [] second := by
  induction first generalizing word with
  | nil =>
      rw [List.nil_append, wordsFrom, wordsFrom, if_pos spaced]
      by_cases none : word = []
      · rw [if_pos none, if_pos none, List.nil_append]
      · rw [if_neg none, if_neg none, List.singleton_append]
  | cons letter first inductionHypothesis =>
      rw [List.cons_append, wordsFrom, wordsFrom]
      by_cases separates : isSpace letter = true
      · rw [if_pos separates, if_pos separates]
        by_cases none : word = []
        · rw [if_pos none, if_pos none, inductionHypothesis]
        · rw [if_neg none, if_neg none, inductionHypothesis, List.cons_append]
      · rw [if_neg separates, if_neg separates, inductionHypothesis]

theorem wordsFrom_unspaced (word : List UInt8) {text : List UInt8}
    (unspaced : forall letter, letter ∈ text -> isSpace letter = false) (some : word ++ text ≠ []) :
    wordsFrom word text = [word ++ text] := by
  induction text generalizing word with
  | nil =>
      rw [List.append_nil] at some ⊢
      rw [wordsFrom, if_neg some]
  | cons letter text inductionHypothesis =>
      rw [List.forall_mem_cons] at unspaced
      have longer : word ++ [letter] ++ text = word ++ letter :: text := by
        rw [List.append_assoc, List.singleton_append]
      rw [wordsFrom, if_neg (by rw [unspaced.1]; exact Bool.false_ne_true),
        inductionHypothesis _ unspaced.2 (by rw [longer]; exact some), longer]

/-- A word is its own only word. -/
theorem wordsFrom_word {text : List UInt8} (word : IsWord text) : wordsFrom [] text = [text] :=
  wordsFrom_unspaced [] word.unspaced word.nonempty

/-- What is found are words, made of letters of the text. -/
theorem wordsFrom_words (word text : List UInt8) (unspaced : forall letter, letter ∈ word -> isSpace letter = false)
    {found : List UInt8} (member : found ∈ wordsFrom word text) :
    IsWord found ∧ forall letter, letter ∈ found -> letter ∈ word ++ text := by
  induction text generalizing word with
  | nil =>
      rw [wordsFrom] at member
      by_cases none : word = []
      · rw [if_pos none] at member
        cases member
      · rw [if_neg none] at member
        rw [List.mem_singleton.mp member, List.append_nil]
        exact ⟨⟨none, unspaced⟩, fun _ inside => inside⟩
  | cons letter text inductionHypothesis =>
      rw [wordsFrom] at member
      by_cases separates : isSpace letter = true
      · have later (found' : found ∈ wordsFrom [] text) :
            IsWord found ∧ forall letter', letter' ∈ found -> letter' ∈ word ++ letter :: text := by
          rcases inductionHypothesis [] nofun found' with ⟨isWord, inside⟩
          refine ⟨isWord, fun letter' within => ?_⟩
          exact List.mem_append_right word (List.mem_cons_of_mem letter (inside letter' within))
        rw [if_pos separates] at member
        by_cases none : word = []
        · rw [if_pos none] at member
          exact later member
        · rw [if_neg none] at member
          rcases List.mem_cons.mp member with same | found'
          · rw [same]
            exact ⟨⟨none, unspaced⟩, fun _ inside => List.mem_append_left _ inside⟩
          · exact later found'
      · rw [if_neg separates] at member
        have longer : forall letter', letter' ∈ word ++ [letter] -> isSpace letter' = false := by
          intro letter' inside
          rcases List.mem_append.mp inside with before | last
          · exact unspaced letter' before
          · rw [List.mem_singleton.mp last]
            exact Bool.eq_false_iff.mpr separates
        rcases inductionHypothesis _ longer member with ⟨isWord, inside⟩
        refine ⟨isWord, fun letter' within => ?_⟩
        have there := inside letter' within
        rwa [List.append_assoc, List.singleton_append] at there

end Library
end RtmpClient
