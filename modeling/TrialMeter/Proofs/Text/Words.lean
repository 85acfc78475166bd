import Mathlib.Data.List.Basic
import TrialMeter.Text.Words

/-!
# Words, joined and split again

A word has characters, and none of them is a blank. The words of a text are words, so they can be
joined by single spaces and are found again in what this gives: a text and the tidy form of it have
the same words, and the tidy form of a tidy text is the text itself. For lists of texts that are no
words this fails, as an empty one is lost and one with a blank falls apart.

## Main definitions

* `Text.IsWord`: what a text can have for a word.
* `Text.tidy`: the words of a text, joined by single spaces.

## Main results

* `Text.isWord_of_mem_words`: the words of a text are words.
* `Text.words_intercalate`: words that are joined by spaces are found again.
* `Text.words_tidy`, `Text.tidy_tidy`: tidy texts.
-/

namespace TrialMeter.Text

/-- A text with characters, none of which is a blank. -/
structure IsWord (w : String) : Prop where
  toList_ne_nil : w.toList ≠ []
  isBlank_eq_false : ∀ c ∈ w.toList, isBlank c = false

/-- The words of a text, joined by single spaces. -/
def tidy (s : String) : String := " ".intercalate (words s)

/-! ### Splitting -/

section

variable {isSeparator : Char → Bool}

theorem split_eq_splitOnP (l : List Char) : split isSeparator l = l.splitOnP isSeparator := by
  induction l with
  | nil => exact List.splitOnP_nil.symm
  | cons c l ih =>
    rw [List.splitOnP_cons_eq_if_modifyHead, split, ih]
    cases hsplit : l.splitOnP isSeparator with
    | nil => exact absurd hsplit (List.splitOnP_ne_nil isSeparator l)
    | cons piece more => rfl

/-- No separator is left in the pieces. -/
theorem eq_false_of_mem_split {l piece : List Char} (h : piece ∈ split isSeparator l) :
    ∀ c ∈ piece, isSeparator c = false := by
  induction l generalizing piece with
  | nil =>
    rw [List.mem_singleton.mp h]
    exact List.forall_mem_nil _
  | cons c l ih =>
    rw [split] at h
    cases hc : isSeparator c with
    | true =>
      rw [hc, if_pos rfl] at h
      rcases List.mem_cons.mp h with rfl | h
      · exact List.forall_mem_nil _
      · exact ih h
    | false =>
      rw [hc, if_neg Bool.false_ne_true] at h
      cases hsplit : split isSeparator l with
      | nil =>
        rw [hsplit] at h
        rw [List.mem_singleton.mp h]
        exact List.forall_mem_singleton.mpr hc
      | cons first more =>
        rw [hsplit] at h ih
        rcases List.mem_cons.mp h with rfl | h
        · exact List.forall_mem_cons.mpr ⟨hc, ih List.mem_cons_self⟩
        · exact ih (List.mem_cons_of_mem _ h)

end

/-! ### Words -/

/-- The words of a text are words. -/
theorem isWord_of_mem_words {s w : String} (h : w ∈ words s) : IsWord w := by
  obtain ⟨piece, hpiece, rfl⟩ := List.mem_map.mp h
  obtain ⟨hmem, hne⟩ := List.mem_filter.mp hpiece
  rw [Bool.not_eq_true', List.isEmpty_eq_false_iff] at hne
  refine ⟨?_, ?_⟩
  · rwa [String.toList_ofList]
  · rw [String.toList_ofList]
    exact eq_false_of_mem_split hmem

variable {w : String}

/-- A word is not left out of the pieces of a text. -/
theorem IsWord.filter_cons (h : IsWord w) (pieces : List (List Char)) :
    ((w.toList :: pieces).filter fun piece => !piece.isEmpty) =
      w.toList :: pieces.filter fun piece => !piece.isEmpty := by
  refine List.filter_cons_of_pos ?_
  rw [Bool.not_eq_true', List.isEmpty_eq_false_iff]
  exact h.toList_ne_nil

/-- A word is all the words that it has. -/
theorem IsWord.words_eq (h : IsWord w) : words w = [w] := by
  rw [words, split_eq_splitOnP, List.splitOnP_eq_singleton h.isBlank_eq_false,
    h.filter_cons, List.filter_nil, List.map_singleton, String.ofList_toList]

/-- A word before a space is the first word of a text. -/
theorem IsWord.words_append (h : IsWord w) (s : String) :
    words (w ++ " " ++ s) = w :: words s := by
  have htext : (w ++ " " ++ s).toList = w.toList ++ ' ' :: s.toList := by
    rw [String.toList_append, String.toList_append, List.append_assoc]
    rfl
  rw [words, htext, split_eq_splitOnP,
    List.splitOnP_append_cons_of_forall_mem h.isBlank_eq_false ' ' rfl,
    h.filter_cons, List.map_cons, String.ofList_toList, ← split_eq_splitOnP, words]

/-- Words that are joined by spaces are found again. -/
theorem words_intercalate {ws : List String} (h : ∀ w ∈ ws, IsWord w) :
    words (" ".intercalate ws) = ws := by
  induction ws with
  | nil => rfl
  | cons w ws ih =>
    obtain ⟨hw, hws⟩ := List.forall_mem_cons.mp h
    cases ws with
    | nil => rw [String.intercalate_singleton, hw.words_eq]
    | cons next ws => rw [String.intercalate_cons_cons, hw.words_append, ih hws]

-- Texts that are no words are not found again.
example : words (" ".intercalate ["a b", ""]) = ["a", "b"] := by decide +kernel

/-- A text and its tidy form have the same words. -/
theorem words_tidy (s : String) : words (tidy s) = words s :=
  words_intercalate fun _ => isWord_of_mem_words

/-- A tidy text stays as it is. -/
theorem tidy_tidy (s : String) : tidy (tidy s) = tidy s := by
  rw [tidy, words_tidy, tidy]

end TrialMeter.Text
