import Mathlib.Data.List.Basic

/-! Erasing every word of a set from a text, and when that leaves new words behind. -/

namespace Gritty

universe u

variable {α : Type u} {Word : List α → Prop}

/-- No word is empty, contains another one, or starts inside another one. -/
structure Apart (Word : List α → Prop) : Prop where
  nonempty : ¬ Word []
  prefixFree : ∀ {word other}, Word word → Word other → word <+: other → word = other
  endApart : ∀ {front back other}, Word (front ++ back) → front ≠ [] → back ≠ [] → Word other →
    ¬ back <+: other ∧ ¬ other <+: back

/-- A function that takes a word away wherever one starts, and keeps every other symbol. -/
structure Erases (Word : List α → Prop) (erase : List α → List α) : Prop where
  nil : erase [] = []
  word : ∀ {word later}, Word word → erase (word ++ later) = erase later
  symbol : ∀ {symbol later}, (∀ word, Word word → ¬ word <+: symbol :: later) →
    erase (symbol :: later) = symbol :: erase later

/-- A text with whole words put into it. -/
inductive Stuffed (Word : List α → Prop) : List α → List α → Prop where
  | nil : Stuffed Word [] []
  | symbol {kept text : List α} (symbol : α) (rest : Stuffed Word kept text) :
      Stuffed Word (symbol :: kept) (symbol :: text)
  | word {word kept text : List α} (isWord : Word word) (rest : Stuffed Word kept text) :
      Stuffed Word kept (word ++ text)

/-- Somewhere in the text stands a word with whole words put into its middle. -/
def HidesWord (Word : List α → Prop) (text : List α) : Prop :=
  ∃ before front word stuffed after back, text = before ++ (front ++ (word ++ (stuffed ++ after))) ∧
    front ≠ [] ∧ back ≠ [] ∧ Word (front ++ back) ∧ Word word ∧ Stuffed Word back stuffed

/-- A beginning of two joined lists ends in the first one or reaches into the second one. -/
theorem prefix_append_cases (first second : List α) {part : List α}
    (starts : part <+: first ++ second) :
    part <+: first ∨ ∃ tail, tail ≠ [] ∧ part = first ++ tail ∧ tail <+: second := by
  rcases List.prefix_or_prefix_of_prefix starts (List.prefix_append first second) with
    inside | ⟨tail, rfl⟩
  · exact Or.inl inside
  · -- Nothing beyond the first list is the first list itself.
    rcases List.eq_nil_or_concat tail with rfl | ⟨_, _, rfl⟩
    · exact Or.inl (by simp)
    · exact Or.inr ⟨_, by simp, rfl, (List.prefix_append_right_inj first).mp starts⟩

section

variable {erase : List α → List α} {Sequence : List α → Prop}

/-- A text is read word by word and symbol by symbol. -/
@[elab_as_elim]
theorem wordInduction (nonempty : ¬ Word []) {motive : List α → Prop} (nil : motive [])
    (word : ∀ word later, Word word → motive later → motive (word ++ later))
    (symbol : ∀ symbol later, (∀ word, Word word → ¬ word <+: symbol :: later) →
      motive later → motive (symbol :: later))
    (text : List α) : motive text := by
  -- The induction is on the length, because a word takes several symbols at once.
  induction size : text.length using Nat.strongRecOn generalizing text with
  | ind size ih =>
    subst size
    by_cases starts : ∃ head, Word head ∧ head <+: text
    · obtain ⟨head, isWord, later, rfl⟩ := starts
      have positive : head ≠ [] := fun empty => nonempty (empty ▸ isWord)
      have shorter : later.length < (head ++ later).length := by
        have := List.length_pos_of_ne_nil positive
        simp only [List.length_append]
        omega
      exact word head later isWord (ih _ shorter later rfl)
    · cases text with
      | nil => exact nil
      | cons first later =>
        apply symbol first later fun head isWord isPrefix => starts ⟨head, isWord, isPrefix⟩
        exact ih later.length (Nat.lt_succ_self _) later rfl

/-- A text is what is kept of it, with whole words put into it. -/
theorem Erases.stuffed_self (erases : Erases Word erase) (nonempty : ¬ Word []) (text : List α) :
    Stuffed Word (erase text) text := by
  induction text using wordInduction nonempty with
  | nil =>
    rw [erases.nil]
    exact Stuffed.nil
  | word word later isWord ih =>
    rw [erases.word isWord]
    exact Stuffed.word isWord ih
  | symbol symbol later noWord ih =>
    rw [erases.symbol noWord]
    exact Stuffed.symbol symbol ih

/-- Erasing never makes a text longer. -/
theorem Erases.length_le (erases : Erases Word erase) (nonempty : ¬ Word []) (text : List α) :
    (erase text).length ≤ text.length := by
  induction text using wordInduction nonempty with
  | nil => exact Nat.le_of_eq (congrArg List.length erases.nil)
  | word word later isWord ih =>
    rw [erases.word isWord, List.length_append]
    omega
  | symbol symbol later noWord ih =>
    rw [erases.symbol noWord, List.length_cons, List.length_cons]
    omega

/-- Erasing makes a text with a word in it shorter. -/
theorem Erases.length_lt (erases : Erases Word erase) (nonempty : ¬ Word []) {text word : List α}
    (isWord : Word word) (inside : word <:+: text) : (erase text).length < text.length := by
  induction text using wordInduction nonempty with
  | nil =>
    have empty : word = [] := List.infix_nil.mp inside
    exact absurd (empty ▸ isWord) nonempty
  | word first later isFirst ih =>
    have positive : first ≠ [] := fun empty => nonempty (empty ▸ isFirst)
    have := List.length_pos_of_ne_nil positive
    have shorter := erases.length_le nonempty later
    rw [erases.word isFirst, List.length_append]
    omega
  | symbol first later noWord ih =>
    -- No word starts here, so the one inside starts later.
    rcases List.infix_cons_iff.mp inside with starts | further
    · exact absurd starts (noWord word isWord)
    · rw [erases.symbol noWord, List.length_cons, List.length_cons]
      exact Nat.succ_lt_succ (ih further)

/-- A text stays as it is exactly when there is no word in it. -/
theorem Erases.eq_self_iff (erases : Erases Word erase) (nonempty : ¬ Word []) (text : List α) :
    erase text = text ↔ ∀ word, Word word → ¬ word <:+: text := by
  constructor
  · intro same word isWord inside
    have shorter := erases.length_lt nonempty isWord inside
    rw [same] at shorter
    exact Nat.lt_irrefl _ shorter
  · intro none
    induction text using wordInduction nonempty with
    | nil => exact erases.nil
    | word word later isWord ih =>
      exact absurd (List.infix_append [] word later) (none word isWord)
    | symbol symbol later noWord ih =>
      have rest : erase later = later :=
        ih fun word isWord inside => none word isWord (List.infix_cons_iff.mpr (Or.inr inside))
      rw [erases.symbol noWord, rest]

/-- What is kept of a text came from a beginning of it with words put in. -/
theorem Erases.stuffed (erases : Erases Word erase) (nonempty : ¬ Word []) {text kept rest : List α}
    (result : erase text = kept ++ rest) :
    ∃ used left, text = used ++ left ∧ Stuffed Word kept used ∧ erase left = rest := by
  induction text using wordInduction nonempty generalizing kept with
  | nil =>
    obtain ⟨rfl, rfl⟩ := List.append_eq_nil_iff.mp (result.symm.trans erases.nil)
    exact ⟨[], [], rfl, Stuffed.nil, erases.nil⟩
  | word word later isWord ih =>
    obtain ⟨used, left, rfl, stuffed, last⟩ := ih ((erases.word isWord).symm.trans result)
    exact ⟨word ++ used, left, by rw [List.append_assoc], Stuffed.word isWord stuffed, last⟩
  | symbol symbol later noWord ih =>
    cases kept with
    | nil => exact ⟨[], symbol :: later, rfl, Stuffed.nil, result⟩
    | cons first kept =>
      rw [erases.symbol noWord, List.cons_append] at result
      obtain ⟨rfl, tailResult⟩ := List.cons.inj result
      obtain ⟨used, left, rfl, stuffed, last⟩ := ih tailResult
      exact ⟨symbol :: used, left, rfl, Stuffed.symbol symbol stuffed, last⟩

/-- A kept part stands in the text as it is, or the text has a word in the middle of it. -/
theorem Erases.kept_cases (erases : Erases Word erase) (nonempty : ¬ Word [])
    {text kept rest : List α} (result : erase text = kept ++ rest) :
    kept <+: text ∨ ∃ front back word stuffed after, kept = front ++ back ∧ back ≠ [] ∧
      text = front ++ (word ++ (stuffed ++ after)) ∧ Word word ∧ Stuffed Word back stuffed := by
  induction text using wordInduction nonempty generalizing kept with
  | nil =>
    obtain ⟨rfl, -⟩ := List.append_eq_nil_iff.mp (result.symm.trans erases.nil)
    exact Or.inl List.prefix_rfl
  | word word later isWord ih =>
    by_cases empty : kept = []
    · exact Or.inl (empty ▸ List.nil_prefix)
    · -- A word was taken away before anything of the part was read.
      obtain ⟨used, left, rfl, stuffed, -⟩ :=
        erases.stuffed nonempty ((erases.word isWord).symm.trans result)
      exact Or.inr ⟨[], kept, word, used, left, rfl, empty, rfl, isWord, stuffed⟩
  | symbol symbol later noWord ih =>
    cases kept with
    | nil => exact Or.inl List.nil_prefix
    | cons first kept =>
      rw [erases.symbol noWord, List.cons_append] at result
      obtain ⟨rfl, tailResult⟩ := List.cons.inj result
      rcases ih tailResult with starts | ⟨front, back, word, stuffed, after, rfl, more, rfl, found⟩
      · exact Or.inl ((List.prefix_cons_inj symbol).mpr starts)
      · exact Or.inr ⟨symbol :: front, back, word, stuffed, after, rfl, more, rfl, found⟩

/-- A word left behind was hidden in the text. -/
theorem Erases.hidesWord (erases : Erases Word erase) (nonempty : ¬ Word []) {text word : List α}
    (isWord : Word word) (inside : word <:+: erase text) : HidesWord Word text := by
  -- The induction follows the text up to the first symbol of the word that is left behind.
  induction text using wordInduction nonempty with
  | nil =>
    rw [erases.nil] at inside
    exact absurd (List.infix_nil.mp inside ▸ isWord) nonempty
  | word first later isFirst ih =>
    rw [erases.word isFirst] at inside
    obtain ⟨before, front, middle, stuffed, after, back, rfl, hidden⟩ := ih inside
    exact ⟨first ++ before, front, middle, stuffed, after, back, by rw [List.append_assoc], hidden⟩
  | symbol symbol later noWord ih =>
    have written := erases.symbol noWord
    rw [written] at inside
    rcases List.infix_cons_iff.mp inside with ⟨rest, starts⟩ | further
    · -- The word starts here. It is not in the text as it is, so words were taken out of it.
      rcases erases.kept_cases nonempty (written.trans starts.symm) with
        starts | ⟨front, back, middle, stuffed, after, rfl, more, same, isMiddle, filled⟩
      · exact absurd starts (noWord word isWord)
      · have some : front ≠ [] := by
          rintro rfl
          exact noWord middle isMiddle (same ▸ List.prefix_append _ _)
        exact ⟨[], front, middle, stuffed, after, back, same, some, more, isWord, isMiddle, filled⟩
    · obtain ⟨before, front, middle, stuffed, after, back, rfl, hidden⟩ := ih further
      exact ⟨symbol :: before, front, middle, stuffed, after, back, rfl, hidden⟩

/-- The end of a word is not the start of a text that starts with a word. -/
theorem Apart.end_not_start (apart : Apart Word) {front back word later : List α}
    (joined : Word (front ++ back)) (front_ne : front ≠ []) (back_ne : back ≠ [])
    (isWord : Word word) : ¬ back <+: word ++ later := by
  intro starts
  obtain ⟨notInside, notAround⟩ := apart.endApart joined front_ne back_ne isWord
  rcases List.prefix_or_prefix_of_prefix starts (List.prefix_append word later) with
    inside | around
  · exact notInside inside
  · exact notAround around

/-- Reading a text up to a place that no word runs across is reading its two parts. -/
theorem Erases.append (erases : Erases Word erase) (nonempty : ¬ Word []) {first second : List α}
    (clean : ∀ front back, Word (front ++ back) → front ≠ [] → back ≠ [] → ¬ back <+: second) :
    erase (first ++ second) = erase first ++ erase second := by
  induction first using wordInduction nonempty with
  | nil => rw [erases.nil, List.nil_append, List.nil_append]
  | word word later isWord ih =>
    rw [List.append_assoc, erases.word isWord, erases.word isWord, ih]
  | symbol symbol later noWord ih =>
    have stillNone : ∀ word, Word word → ¬ word <+: symbol :: (later ++ second) := by
      intro word isWord starts
      rcases prefix_append_cases (symbol :: later) second starts with
        inside | ⟨tail, tail_ne, rfl, across⟩
      · exact noWord word isWord inside
      · exact clean (symbol :: later) tail isWord (List.cons_ne_nil _ _) tail_ne across
    rw [List.cons_append, erases.symbol stillNone, erases.symbol noWord, ih, List.cons_append]

/-- A part of a sequence that is not its end is kept when a word follows. -/
theorem Erases.front (erases : Erases Word erase) (apart : Apart Sequence)
    (sequence : ∀ {word}, Word word → Sequence word) {before front back word later : List α}
    (joined : Sequence (before ++ (front ++ back))) (back_ne : back ≠ []) (isWord : Word word) :
    erase (front ++ (word ++ later)) = front ++ erase later := by
  induction front generalizing before with
  | nil => exact erases.word isWord
  | cons symbol front ih =>
    have noWord : ∀ other, Word other → ¬ other <+: symbol :: (front ++ (word ++ later)) := by
      intro other isOther starts
      rcases prefix_append_cases (symbol :: front) (word ++ later) starts with
        inside | ⟨tail, tail_ne, rfl, across⟩
      · have within : other <+: symbol :: front ++ back :=
          inside.trans (List.prefix_append _ _)
        by_cases start : before = []
        · -- The part starts its sequence, so a word there would be that sequence.
          subst start
          have same := apart.prefixFree (sequence isOther) joined within
          have shorter := inside.length_le
          have := List.length_pos_of_ne_nil back_ne
          rw [same, List.nil_append, List.length_append] at shorter
          omega
        · have tail_ne : symbol :: front ++ back ≠ [] := List.cons_ne_nil _ _
          exact (apart.endApart joined start tail_ne (sequence isOther)).2 within
      · exact apart.end_not_start (sequence isOther) (List.cons_ne_nil _ _) tail_ne
          (sequence isWord) across
    rw [List.cons_append, erases.symbol noWord, List.cons_append]
    have joined' : Sequence (before ++ [symbol] ++ (front ++ back)) := by
      rw [List.append_assoc]
      exact joined
    rw [ih joined']

/-- A beginning of a text with words put in runs along what is kept or reaches a word. -/
theorem Stuffed.prefix_cases {kept text after part : List α} (stuffed : Stuffed Word kept text)
    (starts : part <+: text ++ after) :
    part <+: kept ∨ kept <+: part ∨ ∃ head tail word later, part = head ++ tail ∧ tail ≠ [] ∧
      Word word ∧ tail <+: word ++ later := by
  induction stuffed generalizing part with
  | nil => exact Or.inr (Or.inl List.nil_prefix)
  | @symbol kept text symbol rest ih =>
    cases part with
    | nil => exact Or.inl List.nil_prefix
    | cons first part =>
      obtain ⟨rfl, tailStarts⟩ := List.cons_prefix_cons.mp starts
      rcases ih tailStarts with inside | around | ⟨head, tail, word, later, rfl, reached⟩
      · exact Or.inl ((List.prefix_cons_inj first).mpr inside)
      · exact Or.inr (Or.inl ((List.prefix_cons_inj first).mpr around))
      · exact Or.inr (Or.inr ⟨first :: head, tail, word, later, rfl, reached⟩)
  | @word word kept text isWord rest ih =>
    by_cases empty : part = []
    · exact Or.inl (empty ▸ List.nil_prefix)
    · rw [List.append_assoc] at starts
      exact Or.inr (Or.inr ⟨[], part, word, text ++ after, rfl, empty, isWord, starts⟩)

/-- Of the end of a sequence with words put in, exactly the end is kept, and likewise of a whole one. -/
theorem Erases.back (erases : Erases Word erase) (apart : Apart Sequence)
    (sequence : ∀ {word}, Word word → Sequence word) {front back stuffed after : List α}
    (filled : Stuffed Word back stuffed) (joined : Sequence (front ++ back))
    (part : front ≠ [] ∨ ¬ Word back) : erase (stuffed ++ after) = back ++ erase after := by
  induction filled generalizing front with
  | nil => rfl
  | @symbol kept text symbol rest ih =>
    -- A word starting here would be, contain or overlap the sequence.
    have notAlong : ∀ other, Word other → ¬ other <+: symbol :: kept ∧ ¬ symbol :: kept <+: other := by
      intro other isOther
      by_cases start : front = []
      · subst start
        have notSame : other ≠ symbol :: kept := by
          rintro rfl
          exact part.resolve_left (fun ne => ne rfl) isOther
        constructor
        · exact fun inside => notSame (apart.prefixFree (sequence isOther) joined inside)
        · exact fun around => notSame (apart.prefixFree joined (sequence isOther) around).symm
      · exact (apart.endApart joined start (List.cons_ne_nil _ _) (sequence isOther)).symm
    have noWord : ∀ other, Word other → ¬ other <+: symbol :: (text ++ after) := by
      intro other isOther starts
      obtain ⟨notInside, notAround⟩ := notAlong other isOther
      cases other with
      | nil => exact apart.nonempty (sequence isOther)
      | cons first other =>
        obtain ⟨rfl, tailStarts⟩ := List.cons_prefix_cons.mp starts
        rcases rest.prefix_cases tailStarts with
          inside | around | ⟨head, tail, word, later, rfl, tail_ne, isWord, reached⟩
        · exact notInside ((List.prefix_cons_inj first).mpr inside)
        · exact notAround ((List.prefix_cons_inj first).mpr around)
        · rw [← List.cons_append] at isOther
          exact apart.end_not_start (sequence isOther) (List.cons_ne_nil _ _) tail_ne
            (sequence isWord) reached
    have joined' : Sequence (front ++ [symbol] ++ kept) := by
      rw [List.append_assoc]
      exact joined
    rw [List.cons_append, erases.symbol noWord, List.cons_append, ih joined' (Or.inl (by simp))]
  | @word word kept text isWord rest ih =>
    rw [List.append_assoc, erases.word isWord, ih joined part]

/-- A sequence that is no word is kept, whatever words stand in it or around it. -/
theorem Erases.around (erases : Erases Word erase) (apart : Apart Sequence)
    (sequence : ∀ {word}, Word word → Sequence word) {before kept stuffed after : List α}
    (filled : Stuffed Word kept stuffed) (isSequence : Sequence kept) (notWord : ¬ Word kept) :
    erase (before ++ (stuffed ++ after)) = erase before ++ (kept ++ erase after) := by
  have nonempty : ¬ Word [] := fun empty => apart.nonempty (sequence empty)
  have clean : ∀ front back, Word (front ++ back) → front ≠ [] → back ≠ [] →
      ¬ back <+: stuffed ++ after := by
    intro front back split front_ne back_ne starts
    obtain ⟨notInside, notAround⟩ :=
      apart.endApart (sequence split) front_ne back_ne isSequence
    rcases filled.prefix_cases starts with
      inside | around | ⟨head, tail, word, later, rfl, tail_ne, isWord, reached⟩
    · exact notInside inside
    · exact notAround around
    · rw [← List.append_assoc] at split
      exact apart.end_not_start (sequence split) (by simp [front_ne]) tail_ne (sequence isWord)
        reached
  have whole : Sequence ([] ++ kept) := isSequence
  rw [erases.append nonempty clean, erases.back apart sequence filled whole (Or.inr notWord)]

/-- A hidden word is left behind. -/
theorem Erases.infix_of_hidesWord (erases : Erases Word erase) (apart : Apart Word) {text : List α}
    (hides : HidesWord Word text) : ∃ word, Word word ∧ word <:+: erase text := by
  obtain ⟨before, front, word, stuffed, after, back, rfl, front_ne, back_ne, joined, isWord,
    filled⟩ := hides
  -- No word runs into the hidden one from the text before it.
  have clean : ∀ head tail, Word (head ++ tail) → head ≠ [] → tail ≠ [] →
      ¬ tail <+: front ++ (word ++ (stuffed ++ after)) := by
    intro head tail split head_ne tail_ne starts
    rcases prefix_append_cases front _ starts with inside | ⟨rest, rest_ne, rfl, across⟩
    · apply (apart.endApart split head_ne tail_ne joined).1
      exact inside.trans (List.prefix_append _ _)
    · rw [← List.append_assoc] at split
      exact apart.end_not_start split (by simp [head_ne]) rest_ne isWord across
  have kept : erase (front ++ (word ++ (stuffed ++ after))) = front ++ (back ++ erase after) := by
    have whole : Word ([] ++ (front ++ back)) := joined
    rw [erases.front apart id whole back_ne isWord,
      erases.back apart id filled joined (Or.inl front_ne)]
  refine ⟨front ++ back, joined, ?_⟩
  rw [erases.append apart.nonempty clean, kept, ← List.append_assoc front, ← List.append_assoc]
  exact List.infix_append _ _ _

/-- No word is left behind exactly when none was hidden. -/
theorem Erases.noWord_iff (erases : Erases Word erase) (apart : Apart Word) (text : List α) :
    (∀ word, Word word → ¬ word <:+: erase text) ↔ ¬ HidesWord Word text := by
  constructor
  · intro none hides
    obtain ⟨word, isWord, inside⟩ := erases.infix_of_hidesWord apart hides
    exact none word isWord inside
  · intro noHidden word isWord inside
    exact noHidden (erases.hidesWord apart.nonempty isWord inside)

/-- Erasing again changes nothing exactly when no word was hidden. -/
theorem Erases.idempotent_iff (erases : Erases Word erase) (apart : Apart Word) (text : List α) :
    erase (erase text) = erase text ↔ ¬ HidesWord Word text := by
  rw [erases.eq_self_iff apart.nonempty, erases.noWord_iff apart]

end

end Gritty
