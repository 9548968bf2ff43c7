import Mathlib.Tactic

/-! A text cut at its blanks into words, and at its line ends into lines. -/

namespace Gritty

universe u

variable {α : Type u} {blank : α → Bool}

/-- The longest pieces of a text that hold no blank. -/
def words (blank : α → Bool) (text : List α) : List (List α) :=
  (text.splitOnP blank).filter fun piece => !piece.isEmpty

/-- A text that is one word. -/
structure IsWord (blank : α → Bool) (text : List α) : Prop where
  nonempty : text ≠ []
  solid : ∀ element ∈ text, blank element = false

/-- Two texts with a blank between them have the words of both. -/
theorem words_append_cons (text rest : List α) {gap : α} (isBlank : blank gap = true) :
    words blank (text ++ gap :: rest) = words blank text ++ words blank rest := by
  unfold words
  rw [List.splitOnP_append_cons text rest isBlank, List.filter_append]

@[simp] theorem words_nil : words blank [] = [] := rfl

/-- A word is its own only word. -/
theorem IsWord.words {text : List α} (isWord : IsWord blank text) : words blank text = [text] := by
  unfold Gritty.words
  rw [List.splitOnP_eq_singleton isWord.solid]
  simp [isWord.nonempty]

/-- Blanks in front of a text are no part of its words. -/
theorem words_replicate_append (count : Nat) {gap : α} (isBlank : blank gap = true)
    (text : List α) : words blank (List.replicate count gap ++ text) = words blank text := by
  induction count with
  | zero => rfl
  | succ count ih =>
    rw [List.replicate_succ, List.cons_append]
    have cut := words_append_cons [] (List.replicate count gap ++ text) isBlank
    rw [List.nil_append, words_nil, List.nil_append] at cut
    rw [cut, ih]

/-- Words that each have a blank behind them are the first words of the text they begin. -/
theorem words_flatMap_append {gap : α} (isBlank : blank gap = true) {front : List (List α)}
    (areWords : ∀ word ∈ front, IsWord blank word) (text : List α) :
    words blank (front.flatMap (· ++ [gap]) ++ text) = front ++ words blank text := by
  induction front with
  | nil => rfl
  | cons word others ih =>
    rw [List.flatMap_cons, List.append_assoc, List.append_assoc, List.singleton_append,
      words_append_cons _ _ isBlank, (areWords word List.mem_cons_self).words,
      ih fun later among => areWords later (List.mem_cons_of_mem word among)]
    rfl

end Gritty
