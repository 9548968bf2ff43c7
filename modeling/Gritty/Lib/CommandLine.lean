import Mathlib.Tactic

/-! How a program reads its arguments: options with and without values, and fields of an argument. -/

namespace Gritty

/-- An argument, or another text. -/
abbrev Text := List Char

/-- An option as the program sees it. -/
structure GivenOption where
  letter : Char
  value : Option Text
  deriving DecidableEq

/-- The option written in arguments of its own. -/
def GivenOption.args (option : GivenOption) : List Text :=
  ['-', option.letter] :: option.value.toList

section

variable (takesValue : Char → Bool)

/-- The letters behind one dash. One that takes a value takes what follows, or else the next argument. -/
def readLetters : Text → List GivenOption × Option Char
  | [] => ([], none)
  | letter :: more =>
    if takesValue letter then
      -- What is left of the argument is the value, as in -p22.
      if more = [] then ([], some letter) else ([{ letter, value := some more }], none)
    else
      let (given, owed) := readLetters more
      ({ letter, value := none } :: given, owed)

/-- The options at the front of the arguments, and what follows them, unless a value is missing. -/
def readOptions : List Text → Option (List GivenOption × List Text)
  | [] => some ([], [])
  | arg :: later =>
    if arg = ['-', '-'] then some ([], later)
    -- A dash alone is an operand, and so is whatever starts with none.
    else if arg.head? ≠ some '-' ∨ arg = ['-'] then some ([], arg :: later)
    else
      match (readLetters takesValue arg.tail).2 with
      | none =>
        (readOptions later).map fun (others, rest) =>
          ((readLetters takesValue arg.tail).1 ++ others, rest)
      | some letter =>
        match later with
        | [] => none
        | value :: later =>
          (readOptions later).map fun (others, rest) =>
            ((readLetters takesValue arg.tail).1 ++ { letter, value := some value } :: others, rest)

/-- The arguments of a program that runs a command somewhere else. -/
structure RemoteCommand where
  options : List GivenOption
  destination : Text
  command : List Text
  deriving DecidableEq

/-- The first argument that is no option is the destination. Options may follow it as well. -/
def readRemoteCommand (args : List Text) : Option RemoteCommand :=
  match readOptions takesValue args with
  | some (first, destination :: later) =>
    (readOptions takesValue later).map fun (second, command) =>
      { options := first ++ second, destination, command }
  | _ => none

/-- The values that a letter was given, in order. -/
def RemoteCommand.values (remote : RemoteCommand) (letter : Char) : List Text :=
  remote.options.filterMap fun option => if option.letter = letter then option.value else none

variable {takesValue}

/-- The option has a value exactly if its letter takes one. -/
structure GivenOption.Fits (takesValue : Char → Bool) (option : GivenOption) : Prop where
  value : option.value.isSome = takesValue option.letter
  letter : option.letter ≠ '-'

/-- An argument that is not taken for an option. -/
def Operand (arg : Text) : Prop := arg.head? ≠ some '-'

/-- An operand ends the options. -/
theorem readOptions_operand {arg : Text} (operand : Operand arg) (later : List Text) :
    readOptions takesValue (arg :: later) = some ([], arg :: later) := by
  have notEnd : arg ≠ ['-', '-'] := by
    rintro rfl
    exact operand rfl
  unfold readOptions
  rw [if_neg notEnd, if_pos (show arg.head? ≠ some '-' ∨ arg = ['-'] from Or.inl operand)]

/-- An option that is written out is read. -/
theorem readOptions_args {option : GivenOption} (fits : option.Fits takesValue)
    (later : List Text) : readOptions takesValue (option.args ++ later) =
      -- An option in arguments of its own is one letter behind a dash, and its value by itself.
      (readOptions takesValue later).map fun (others, rest) => (option :: others, rest) := by
  obtain ⟨letter, value⟩ := option
  obtain ⟨valued, notDash⟩ := fits
  dsimp only at valued notDash
  -- It is not the end of the options, as its letter is no dash.
  have notEnd : (['-', letter] : Text) ≠ ['-', '-'] := by
    intro same
    rw [List.cons.injEq, List.cons.injEq] at same
    exact notDash same.2.1
  have dashed : ¬ ((['-', letter] : Text).head? ≠ some '-' ∨ ['-', letter] = ['-']) := by
    rintro (other | alone)
    · exact other rfl
    · cases alone
  cases value with
  | none =>
    -- The letter takes no value, so the argument ends with it.
    have letters : readLetters takesValue [letter] = ([⟨letter, none⟩], none) := by
      rw [readLetters, if_neg (by rw [← valued]; decide), readLetters]
    show readOptions takesValue (['-', letter] :: later) = _
    rw [readOptions.eq_def]
    dsimp only
    rw [if_neg notEnd, if_neg dashed, List.tail_cons, letters]
    rfl
  | some value =>
    -- The letter takes a value, and its argument has none left for it.
    have letters : readLetters takesValue [letter] = ([], some letter) := by
      rw [readLetters, if_pos (by rw [← valued]; rfl), if_pos rfl]
    show readOptions takesValue (['-', letter] :: value :: later) = _
    rw [readOptions.eq_def]
    dsimp only
    rw [if_neg notEnd, if_neg dashed, List.tail_cons, letters]
    rfl

/-- Options that are written out one by one are read back, up to an operand. -/
theorem readOptions_flatMap {options : List GivenOption}
    (fit : ∀ option ∈ options, option.Fits takesValue) {rest : List Text}
    (operand : ∀ arg ∈ rest.head?, Operand arg) :
    readOptions takesValue (options.flatMap GivenOption.args ++ rest) = some (options, rest) := by
  -- The induction is on the options, each of which is read in front of the others.
  induction options with
  | nil =>
    cases rest with
    | nil => rfl
    | cons arg later => exact readOptions_operand (operand arg rfl) later
  | cons option options ih =>
    rw [List.flatMap_cons, List.append_assoc, readOptions_args (fit option List.mem_cons_self),
      ih fun other among => fit other (List.mem_cons_of_mem option among)]
    rfl

/-- A command line that is written out is read back. -/
theorem readRemoteCommand_flatMap {options : List GivenOption}
    (fit : ∀ option ∈ options, option.Fits takesValue) {destination : Text} {command : List Text}
    (operand : Operand destination) (plain : ∀ arg ∈ command.head?, Operand arg) :
    readRemoteCommand takesValue (options.flatMap GivenOption.args ++ destination :: command) =
      some { options, destination, command } := by
  -- The destination is the operand at which the options in front of it end.
  have there : ∀ arg ∈ (destination :: command).head?, Operand arg := by
    intro arg among
    rw [← Option.some.inj among]
    exact operand
  -- Behind the destination come no options, as the command starts with none.
  have second : readOptions takesValue command = some ([], command) :=
    readOptions_flatMap (fun _ none_ => absurd none_ List.not_mem_nil) plain
  rw [readRemoteCommand, readOptions_flatMap fit there]
  dsimp only
  rw [second, Option.map_some, List.append_nil]

end

/-! ### Fields of an argument -/

/-- Put a character in front of the first field. -/
def pushField (char : Char) : List Text → List Text
  | [] => [[char]]
  | field :: fields => (char :: field) :: fields

/-- The fields between colons. A backslash goes away and keeps the next character as it is. -/
def escapedFields : Text → Option (List Text)
  | [] => some [[]]
  | ['\\'] => none
  | '\\' :: char :: later => (escapedFields later).map (pushField char)
  | ':' :: later => (escapedFields later).map ([] :: ·)
  | char :: later => (escapedFields later).map (pushField char)

theorem escapedFields_cons {char : Char} (notEscape : char ≠ '\\') (notColon : char ≠ ':')
    (later : Text) : escapedFields (char :: later) = (escapedFields later).map (pushField char) := by
  rw [escapedFields]
  · exact fun same _ => notEscape same
  · exact fun _ _ same _ => notEscape same
  · exact notColon

/-- A text without colons and backslashes is one field. -/
theorem escapedFields_plain {field : Text} (plain : ':' ∉ field ∧ '\\' ∉ field) :
    escapedFields field = some [field] := by
  -- No character of the text is special, so each is pushed onto the field of the others.
  induction field with
  | nil => rfl
  | cons char field ih =>
    rw [List.mem_cons, List.mem_cons, not_or, not_or] at plain
    obtain ⟨⟨notColon, colons⟩, notEscape, escapes⟩ := plain
    rw [escapedFields_cons (Ne.symm notEscape) (Ne.symm notColon), ih ⟨colons, escapes⟩]
    rfl

/-- Such a text is a field of its own in front of a colon. -/
theorem escapedFields_append {field : Text} (plain : ':' ∉ field ∧ '\\' ∉ field) (later : Text) :
    escapedFields (field ++ ':' :: later) = (escapedFields later).map (field :: ·) := by
  -- As above, but the fields of what is behind the colon are already there.
  induction field with
  | nil => rw [List.nil_append, escapedFields]
  | cons char field ih =>
    rw [List.mem_cons, List.mem_cons, not_or, not_or] at plain
    obtain ⟨⟨notColon, colons⟩, notEscape, escapes⟩ := plain
    rw [List.cons_append, escapedFields_cons (Ne.symm notEscape) (Ne.symm notColon),
      ih ⟨colons, escapes⟩, Option.map_map]
    rfl

/-- How much text the fields take, with the colons between them. -/
def fieldsSize (fields : List Text) : Nat := (fields.map List.length).sum + fields.length

theorem pushField_length {fields : List Text} (some_ : fields ≠ []) (char : Char) :
    (pushField char fields).length = fields.length := by
  cases fields with
  | nil => exact absurd rfl some_
  | cons field fields => rfl

theorem pushField_size {fields : List Text} (some_ : fields ≠ []) (char : Char) :
    fieldsSize (pushField char fields) = fieldsSize fields + 1 := by
  cases fields with
  | nil => exact absurd rfl some_
  | cons field fields =>
    simp only [pushField, fieldsSize, List.map_cons, List.sum_cons, List.length_cons]
    omega

theorem pushField_ne_nil (fields : List Text) (char : Char) : pushField char fields ≠ [] := by
  cases fields <;> exact List.cons_ne_nil _ _

/-- Nothing of a text is lost to its fields but the backslashes. -/
theorem escapedFields_size {text : Text} {fields : List Text}
    (read : escapedFields text = some fields) :
    fields ≠ [] ∧ fieldsSize fields ≤ text.length + 1 ∧
      ('\\' ∈ text → fieldsSize fields < text.length + 1) ∧
        ('\\' ∉ text → fields.length = text.count ':' + 1) := by
  -- The induction is on the way in which the text is read; a backslash costs the room of one character.
  induction text using escapedFields.induct generalizing fields with
  | case1 =>
    cases read
    refine ⟨List.cons_ne_nil _ _, Nat.le_refl _, fun among => ?_, fun _ => rfl⟩
    exact absurd among List.not_mem_nil
  | case2 => cases read
  -- A backslash at the very end is an error.
  | case3 char later ih =>
    rw [escapedFields] at read
    obtain ⟨others, before, rfl⟩ := Option.map_eq_some_iff.mp read
    obtain ⟨some_, size, -, -⟩ := ih before
    rw [pushField_size some_, List.length_cons, List.length_cons]
    refine ⟨pushField_ne_nil _ _, by omega, fun _ => by omega, fun none_ => ?_⟩
    exact absurd List.mem_cons_self none_
  | case4 later ih =>
    rw [escapedFields] at read
    obtain ⟨others, before, rfl⟩ := Option.map_eq_some_iff.mp read
    -- A colon stands for the place between two fields, which the size counts as well.
    obtain ⟨some_, size, escaped, counted⟩ := ih before
    have grown : fieldsSize ([] :: others) = fieldsSize others + 1 := by
      simp only [fieldsSize, List.map_cons, List.sum_cons, List.length_cons, List.length_nil]
      omega
    rw [grown, List.length_cons]
    refine ⟨List.cons_ne_nil _ _, by omega, fun among => ?_, fun none_ => ?_⟩
    · have inside := escaped ((List.mem_cons.mp among).resolve_left (by decide))
      omega
    · rw [List.length_cons, counted fun inside => none_ (List.mem_cons_of_mem _ inside),
        List.count_cons_self]
  | case5 char later notEnd notEscape notColon ih =>
    -- Neither of the cases for a backslash applied, so this is none.
    have plain : char ≠ '\\' := by
      rintro rfl
      cases later with
      | nil => exact notEnd rfl rfl
      | cons next later => exact notEscape next later rfl rfl
    rw [escapedFields_cons plain notColon] at read
    obtain ⟨others, before, rfl⟩ := Option.map_eq_some_iff.mp read
    obtain ⟨some_, size, escaped, counted⟩ := ih before
    rw [pushField_size some_, pushField_length some_, List.length_cons]
    refine ⟨pushField_ne_nil _ _, by omega, fun among => ?_, fun none_ => ?_⟩
    · have inside := escaped ((List.mem_cons.mp among).resolve_left (Ne.symm plain))
      omega
    · rw [counted fun inside => none_ (List.mem_cons_of_mem _ inside),
        List.count_cons_of_ne (fun same => notColon same)]

/-- Two texts around a colon are the two fields exactly if neither has a colon or a backslash. -/
theorem escapedFields_pair {first second : Text} :
    escapedFields (first ++ ':' :: second) = some [first, second] ↔
      (':' ∉ first ∧ '\\' ∉ first) ∧ ':' ∉ second ∧ '\\' ∉ second := by
  constructor
  · intro read
    obtain ⟨-, -, escaped, counted⟩ := escapedFields_size read
    -- The two fields and the colon take up all of the text, so no backslash went away.
    have size : fieldsSize [first, second] = (first ++ ':' :: second).length + 1 := by
      simp only [fieldsSize, List.map_cons, List.map_nil, List.sum_cons, List.sum_nil,
        List.length_cons, List.length_nil, List.length_append]
      omega
    have plain : '\\' ∉ first ++ ':' :: second := fun among => by
      have less := escaped among
      omega
    -- There is one colon for two fields, and it is the one between them.
    have colons := counted plain
    rw [List.count_append, List.count_cons_self, List.length_cons, List.length_cons,
      List.length_nil] at colons
    rw [List.mem_append, not_or, List.mem_cons, not_or] at plain
    exact ⟨⟨List.count_eq_zero.mp (by omega), plain.1⟩, List.count_eq_zero.mp (by omega),
      plain.2.2⟩
  · rintro ⟨one, other⟩
    rw [escapedFields_append one, escapedFields_plain other]
    rfl

/-! ### A text cut in two -/

section

variable {α : Type} [DecidableEq α]

/-- The two sides of the first separator. -/
def splitAtFirst (separator : α) : List α → Option (List α × List α)
  | [] => none
  | symbol :: later =>
    if symbol = separator then some ([], later)
    else (splitAtFirst separator later).map fun (front, back) => (symbol :: front, back)

/-- The two sides of the last separator. -/
def splitAtLast (separator : α) (text : List α) : Option (List α × List α) :=
  (splitAtFirst separator text.reverse).map fun (back, front) => (front.reverse, back.reverse)

/-- A text is split at its first separator. -/
theorem splitAtFirst_eq_some {separator : α} {text front back : List α} :
    splitAtFirst separator text = some (front, back) ↔
      text = front ++ separator :: back ∧ separator ∉ front := by
  -- The separator that is found is the first, so what is in front has none.
  induction text generalizing front with
  | nil =>
    rw [splitAtFirst]
    refine ⟨fun none_ => absurd none_.symm (Option.some_ne_none _), fun ⟨shape, _⟩ => ?_⟩
    exact absurd shape.symm (List.append_ne_nil_of_right_ne_nil _ (List.cons_ne_nil _ _))
  | cons symbol later ih =>
    rw [splitAtFirst]
    split_ifs with same
    · rw [Option.some.injEq, Prod.mk.injEq]
      constructor
      · rintro ⟨rfl, rfl⟩
        exact ⟨by rw [same, List.nil_append], List.not_mem_nil⟩
      · rintro ⟨shape, first⟩
        cases front with
        | nil =>
          rw [List.nil_append, List.cons.injEq] at shape
          exact ⟨rfl, shape.2⟩
        | cons other front =>
          rw [List.cons_append, List.cons.injEq] at shape
          exact absurd List.mem_cons_self (shape.1 ▸ same ▸ first)
    · rw [Option.map_eq_some_iff]
      constructor
      · rintro ⟨⟨before, after⟩, split, shape⟩
        rw [Prod.mk.injEq] at shape
        obtain ⟨rfl, rfl⟩ := shape
        obtain ⟨rfl, first⟩ := ih.mp split
        exact ⟨rfl, fun among => (List.mem_cons.mp among).elim (Ne.symm same) first⟩
      · rintro ⟨shape, first⟩
        cases front with
        | nil =>
          rw [List.nil_append, List.cons.injEq] at shape
          exact absurd shape.1 same
        | cons other front =>
          rw [List.cons_append, List.cons.injEq] at shape
          obtain ⟨rfl, rest⟩ := shape
          exact ⟨(front, back), ih.mpr ⟨rest, fun among => first (List.mem_cons_of_mem _ among)⟩, rfl⟩

/-- A text is not split exactly if it has no separator. -/
theorem splitAtFirst_eq_none {separator : α} {text : List α} :
    splitAtFirst separator text = none ↔ separator ∉ text := by
  induction text with
  | nil => exact ⟨fun _ => List.not_mem_nil, fun _ => rfl⟩
  | cons symbol later ih =>
    rw [splitAtFirst]
    by_cases same : symbol = separator
    · rw [if_pos same, same]
      constructor
      · intro none_
        cases none_
      · exact fun none_ => absurd List.mem_cons_self none_
    · rw [if_neg same]
      rw [Option.map_eq_none_iff, ih, List.mem_cons, not_or]
      exact ⟨fun later => ⟨Ne.symm same, later⟩, fun both => both.2⟩

/-- A text is split at its last separator. -/
theorem splitAtLast_eq_some {separator : α} {text front back : List α} :
    splitAtLast separator text = some (front, back) ↔
      text = front ++ separator :: back ∧ separator ∉ back := by
  rw [splitAtLast, Option.map_eq_some_iff]
  constructor
  · rintro ⟨⟨after, before⟩, split, shape⟩
    rw [Prod.mk.injEq] at shape
    obtain ⟨rfl, rfl⟩ := shape
    obtain ⟨reversed, last⟩ := splitAtFirst_eq_some.mp split
    refine ⟨?_, fun among => last (List.mem_reverse.mp among)⟩
    rw [← List.reverse_reverse text, reversed, List.reverse_append, List.reverse_cons,
      List.append_assoc, List.singleton_append]
  · rintro ⟨rfl, last⟩
    refine ⟨(back.reverse, front.reverse), splitAtFirst_eq_some.mpr ⟨?_, ?_⟩, ?_⟩
    · rw [List.reverse_append, List.reverse_cons, List.append_assoc, List.singleton_append]
    · rwa [List.mem_reverse]
    · exact Prod.ext (List.reverse_reverse front) (List.reverse_reverse back)

theorem splitAtLast_eq_none {separator : α} {text : List α} :
    splitAtLast separator text = none ↔ separator ∉ text := by
  rw [splitAtLast, Option.map_eq_none_iff, splitAtFirst_eq_none, List.mem_reverse]

end

end Gritty
