import Gritty.Lib.Erasure

/-! What the sequences of a text stand for, and which of them words taken out of it bring about. -/

namespace Gritty

universe u v w

/-- A function that collects from the sequences of a text and passes over every other symbol. -/
structure Collects {α : Type u} {β : Type v} (Sequence : List α → Prop)
    (collect : List α → List β) : Prop where
  nil : collect [] = []
  sequence : ∀ {sequence later}, Sequence sequence →
    collect (sequence ++ later) = collect sequence ++ collect later
  symbol : ∀ {symbol later}, (∀ sequence, Sequence sequence → ¬ sequence <+: symbol :: later) →
    collect (symbol :: later) = collect later

/-- What the last output with an effect leaves behind. -/
def latest {β : Type v} {γ : Type w} (effect : β → Option γ) (outputs : List β) : Option γ :=
  (outputs.filterMap effect).getLast?

section

variable {α : Type u} (Word : List α → Prop)

/-- A sequence stands in a text, maybe with words put into it, and this is what follows. -/
def StandsIn (sequence text after : List α) : Prop :=
  ∃ before stuffed, text = before ++ (stuffed ++ after) ∧ Stuffed Word sequence stuffed

variable {β : Type v} {γ : Type w} (Sequence : List α → Prop) (collect : List α → List β)

/-- The last sequence in a text that has an effect leaves this state behind. -/
def LastEffect (effect : β → Option γ) (text : List α) (state : γ) : Prop :=
  ∃ sequence after, Sequence sequence ∧ StandsIn Word sequence text after ∧
    latest effect (collect sequence) = some state ∧
      ∀ other later, Sequence other → StandsIn Word other after later →
        latest effect (collect other) = none

end

section

variable {β : Type v} {γ : Type w} (effect : β → Option γ)

theorem latest_append (first second : List β) :
    latest effect (first ++ second) = (latest effect second).or (latest effect first) := by
  unfold latest
  rw [List.filterMap_append, List.getLast?_append]

/-- The latest effect of outputs is the first one's only where the later ones have none. -/
theorem latest_cons (first : β) (later : List β) :
    latest effect (first :: later) = (latest effect later).or (effect first) := by
  have single : latest effect [first] = effect first := by
    unfold latest
    cases found : effect first with
    | none => rw [List.filterMap_cons_none found, List.filterMap_nil, List.getLast?_nil]
    | some state => rw [List.filterMap_cons_some found, List.filterMap_nil, List.getLast?_singleton]
  rw [← List.singleton_append, latest_append, single]

variable {effect}

theorem latest_none {outputs : List β} (untouched : ∀ output ∈ outputs, effect output = none) :
    latest effect outputs = none := by
  unfold latest
  rw [List.filterMap_eq_nil_iff.mpr untouched, List.getLast?_nil]

end

section

variable {α : Type u} {β : Type v} {γ : Type w} {Word Sequence : List α → Prop}
  {erase : List α → List α} {collect : List α → List β} {effect : β → Option γ}

/-- A sequence is collected from, whatever stands before it. -/
theorem Collects.around (collects : Collects Sequence collect) (apart : Apart Sequence)
    {before sequence after : List α} (isSequence : Sequence sequence) :
    collect (before ++ (sequence ++ after)) =
      collect before ++ (collect sequence ++ collect after) := by
  -- The induction follows the text before, where no sequence can reach into the one that follows.
  induction before using wordInduction apart.nonempty with
  | nil => rw [collects.nil, List.nil_append, List.nil_append, collects.sequence isSequence]
  | word word later isWord ih =>
    rw [List.append_assoc, collects.sequence isWord, collects.sequence isWord, ih,
      List.append_assoc]
  | symbol symbol later noWord ih =>
    have stillNone : ∀ other, Sequence other →
        ¬ other <+: symbol :: (later ++ (sequence ++ after)) := by
      intro other isOther starts
      rcases prefix_append_cases (symbol :: later) (sequence ++ after) starts with
        inside | ⟨tail, tail_ne, rfl, across⟩
      · exact noWord other isOther inside
      · exact apart.end_not_start isOther (List.cons_ne_nil _ _) tail_ne isSequence across
    rw [List.cons_append, collects.symbol stillNone, collects.symbol noWord, ih]

/-- Either no sequence of a text has an effect, or one of them is the last to have it. -/
theorem Collects.last_cases (collects : Collects Sequence collect) (nonempty : ¬ Sequence [])
    (effect : β → Option γ) (text : List α) :
    latest effect (collect text) = none ∨
      ∃ before sequence after, text = before ++ (sequence ++ after) ∧ Sequence sequence ∧
        latest effect (collect sequence) ≠ none ∧ latest effect (collect after) = none := by
  induction text using wordInduction nonempty with
  | nil =>
    left
    rw [collects.nil]
    rfl
  | word word later isWord ih =>
    rcases ih with untouched | ⟨before, sequence, after, rfl, last⟩
    · by_cases silent : latest effect (collect word) = none
      · left
        rw [collects.sequence isWord, latest_append, untouched, silent]
        rfl
      · exact Or.inr ⟨[], word, later, rfl, isWord, silent, untouched⟩
    · exact Or.inr ⟨word ++ before, sequence, after, by rw [List.append_assoc], last⟩
  | symbol symbol later noWord ih =>
    rcases ih with untouched | ⟨before, sequence, after, rfl, last⟩
    · left
      rw [collects.symbol noWord, untouched]
    · exact Or.inr ⟨symbol :: before, sequence, after, rfl, last⟩

/-- A sequence that is left in a text after the words are erased stood in it before. -/
theorem Erases.standsIn (erases : Erases Word erase) (nonempty : ¬ Word [])
    {text before sequence rest : List α} (result : erase text = before ++ (sequence ++ rest)) :
    ∃ after, StandsIn Word sequence text after ∧ erase after = rest := by
  obtain ⟨front, left, rfl, -, tail⟩ := erases.stuffed nonempty result
  obtain ⟨stuffed, after, rfl, filled, last⟩ := erases.stuffed nonempty tail
  exact ⟨after, ⟨front, stuffed, rfl, filled⟩, last⟩

/-- A sequence that stands in a text is collected from once the words are erased. -/
theorem Collects.standsIn (collects : Collects Sequence collect) (erases : Erases Word erase)
    (apart : Apart fun text => Word text ∨ Sequence text)
    (distinct : ∀ {text}, Sequence text → ¬ Word text) {sequence text after : List α}
    (isSequence : Sequence sequence) (stands : StandsIn Word sequence text after) :
    ∃ earlier, collect (erase text) = earlier ++ (collect sequence ++ collect (erase after)) := by
  obtain ⟨before, stuffed, rfl, filled⟩ := stands
  have apartSequence : Apart Sequence :=
    { nonempty := fun empty => apart.nonempty (Or.inr empty)
      prefixFree := fun isWord isOther => apart.prefixFree (Or.inr isWord) (Or.inr isOther)
      endApart := fun split front_ne back_ne isOther =>
        apart.endApart (Or.inr split) front_ne back_ne (Or.inr isOther) }
  have kept : erase (before ++ (stuffed ++ after)) =
      erase before ++ (sequence ++ erase after) :=
    erases.around apart Or.inl filled (Or.inr isSequence) (distinct isSequence)
  exact ⟨collect (erase before), by rw [kept, collects.around apartSequence isSequence]⟩

/-- The effect left once the words are erased is that of the last sequence standing in the text. -/
theorem latest_erased_iff (collects : Collects Sequence collect) (erases : Erases Word erase)
    (apart : Apart fun text => Word text ∨ Sequence text)
    (distinct : ∀ {text}, Sequence text → ¬ Word text) (text : List α) (state : γ) :
    latest effect (collect (erase text)) = some state ↔
      LastEffect Word Sequence collect effect text state := by
  have noWord : ¬ Word [] := fun empty => apart.nonempty (Or.inl empty)
  have noSequence : ¬ Sequence [] := fun empty => apart.nonempty (Or.inr empty)
  constructor
  · intro final
    rcases collects.last_cases noSequence effect (erase text) with
      untouched | ⟨before, sequence, rest, split, isSequence, touches, untouched⟩
    · rw [untouched] at final
      simp at final
    · obtain ⟨after, stands, rfl⟩ := erases.standsIn noWord split
      refine ⟨sequence, after, isSequence, stands, ?_, ?_⟩
      · -- Nothing after the sequence has an effect, so the state is the one it leaves behind.
        obtain ⟨earlier, collected⟩ := collects.standsIn erases apart distinct isSequence stands
        rw [collected, latest_append, latest_append, untouched, Option.none_or] at final
        obtain ⟨other, same⟩ := Option.ne_none_iff_exists'.mp touches
        rw [same, Option.some_or] at final
        rw [same, final]
      · intro other later isOther standsAfter
        obtain ⟨earlier, collected⟩ :=
          collects.standsIn erases apart distinct isOther standsAfter
        rw [collected, latest_append, latest_append, Option.or_eq_none_iff,
          Option.or_eq_none_iff] at untouched
        exact untouched.1.2
  · rintro ⟨sequence, after, isSequence, stands, leaves, last⟩
    have untouched : latest effect (collect (erase after)) = none := by
      rcases collects.last_cases noSequence effect (erase after) with
        untouched | ⟨before, other, rest, split, isOther, touches, -⟩
      · exact untouched
      · -- A later sequence with an effect would have stood in the text.
        obtain ⟨later, standsAfter, -⟩ := erases.standsIn noWord split
        exact absurd (last other later isOther standsAfter) touches
    obtain ⟨earlier, collected⟩ := collects.standsIn erases apart distinct isSequence stands
    rw [collected, latest_append, latest_append, untouched, Option.none_or, leaves, Option.some_or]

end

end Gritty
