import Gritty.Terminal.ShadowBounds

/-! The attribute segments of a shadow: each of them, in a sequence of its own, adds itself again. -/

namespace Gritty

/-! ### Fields -/

/-- The fields of a text are the parts between its separators. -/
theorem splitFields_eq_splitOn (separator : UInt8) (text : Bytes) :
    splitFields separator text = text.splitOn separator := by
  induction text with
  | nil => rfl
  | cons byte later ih =>
    rw [splitFields, List.splitOn_cons_eq_if_modifyHead, ih]
    by_cases here : byte = separator
    · rw [if_pos here, if_pos (beq_iff_eq.mpr here)]
    · rw [if_neg here, if_neg (fun same => here (beq_iff_eq.mp same))]
      cases fields : later.splitOn separator with
      | nil => exact absurd fields (List.splitOn_ne_nil separator later)
      | cons first others => rfl

/-- Fields without a separator in them are read back from their join. -/
theorem splitFields_joinFields {fields : List Bytes} (some_ : fields ≠ [])
    (clean : ∀ field ∈ fields, (0x3b : UInt8) ∉ field) :
    splitFields 0x3b (joinFields fields) = fields := by
  rw [splitFields_eq_splitOn]
  exact List.splitOn_intercalate 0x3b clean some_

theorem joinFields_splitFields (text : Bytes) : joinFields (splitFields 0x3b text) = text := by
  rw [splitFields_eq_splitOn]
  exact List.intercalate_splitOn 0x3b

theorem splitFields_single {separator : UInt8} {text : Bytes} (clean : separator ∉ text) :
    splitFields separator text = [text] := by
  rw [splitFields_eq_splitOn]
  exact List.splitOn_eq_singleton clean

/-- No field has a separator in it. -/
theorem not_mem_of_mem_splitFields {separator : UInt8} {text field : Bytes}
    (among : field ∈ splitFields separator text) : separator ∉ field := by
  induction text generalizing field with
  | nil =>
    rw [List.mem_singleton.mp among]
    exact List.not_mem_nil
  | cons byte later ih =>
    rw [splitFields] at among
    split at among
    · rcases List.mem_cons.mp among with rfl | rest
      · exact List.not_mem_nil
      · exact ih rest
    · next other =>
      split at among
      · next first others fields =>
        rcases List.mem_cons.mp among with rfl | rest
        · have clean := ih (fields ▸ List.mem_cons_self)
          exact fun there => (List.mem_cons.mp there).elim (fun same => other same.symm) clean
        · exact ih (fields ▸ List.mem_cons_of_mem first rest)
      · rw [List.mem_singleton.mp among]
        exact fun there => other (List.mem_singleton.mp there).symm

/-- The bytes of the fields are bytes of the text. -/
theorem mem_of_mem_splitFields {separator : UInt8} {text field : Bytes} {byte : UInt8}
    (among : field ∈ splitFields separator text) (inside : byte ∈ field) : byte ∈ text := by
  -- The induction follows the text, and the byte is in the first field or in a later one.
  induction text generalizing field with
  | nil =>
    rw [List.mem_singleton.mp among] at inside
    exact inside
  | cons first later ih =>
    rw [splitFields] at among
    split at among
    · rcases List.mem_cons.mp among with rfl | rest
      · exact absurd inside List.not_mem_nil
      · exact List.mem_cons_of_mem first (ih rest inside)
    · split at among
      · next head others fields =>
        rcases List.mem_cons.mp among with rfl | rest
        · rcases List.mem_cons.mp inside with rfl | after
          · exact List.mem_cons_self
          · exact List.mem_cons_of_mem first (ih (fields ▸ List.mem_cons_self) after)
        · exact List.mem_cons_of_mem first (ih (fields ▸ List.mem_cons_of_mem head rest) inside)
      · rw [List.mem_singleton.mp among] at inside
        rw [List.mem_singleton.mp inside]
        exact List.mem_cons_self

theorem joinFields_cons_cons (first second : Bytes) (others : List Bytes) :
    joinFields (first :: second :: others) = first ++ 0x3b :: joinFields (second :: others) := by
  unfold joinFields
  rw [List.intercalate_cons_cons, List.append_assoc, List.singleton_append]

/-- The first of some fields are joined to a beginning. -/
theorem joinFields_take (fields : List Bytes) (count : Nat) :
    joinFields (fields.take count) <+: joinFields fields := by
  -- The induction follows the fields; only from the second one on is there a separator.
  induction fields generalizing count with
  | nil =>
    rw [List.take_nil]
  | cons first others ih =>
    cases count with
    | zero => exact List.nil_prefix
    | succ count =>
      cases others with
      | nil =>
        rw [List.take_succ_cons, List.take_nil]
      | cons second others =>
        cases count with
        | zero =>
          have single : joinFields ((first :: second :: others).take (0 + 1)) = first := by
            simp [joinFields]
          rw [single, joinFields_cons_cons]
          exact List.prefix_append _ _
        | succ count =>
          rw [List.take_succ_cons, List.take_succ_cons, joinFields_cons_cons, joinFields_cons_cons]
          have rest := ih (count + 1)
          rw [List.take_succ_cons] at rest
          exact (List.prefix_append_right_inj first).mpr ((List.prefix_cons_inj 0x3b).mpr rest)

/-- The last of some fields are joined to no more bytes. -/
theorem joinFields_drop_length (fields : List Bytes) (count : Nat) :
    (joinFields (fields.drop count)).length ≤ (joinFields fields).length := by
  -- What is dropped takes its separator with it.
  induction fields generalizing count with
  | nil =>
    rw [List.drop_nil]
  | cons first others ih =>
    cases count with
    | zero => exact Nat.le_refl _
    | succ count =>
      rw [List.drop_succ_cons]
      cases others with
      | nil =>
        rw [List.drop_nil]
        exact Nat.zero_le _
      | cons second others =>
        have rest := ih count
        rw [joinFields_cons_cons, List.length_append, List.length_cons]
        omega

/-- The bytes of joined fields are those of the fields, and separators. -/
theorem mem_joinFields {fields : List Bytes} {byte : UInt8} (inside : byte ∈ joinFields fields) :
    byte = 0x3b ∨ ∃ field ∈ fields, byte ∈ field := by
  -- A separator stands between the first field and the others.
  induction fields with
  | nil => exact absurd inside List.not_mem_nil
  | cons first others ih =>
    cases others with
    | nil => exact Or.inr ⟨first, List.mem_cons_self, by simpa [joinFields] using inside⟩
    | cons second others =>
      rw [joinFields_cons_cons] at inside
      rcases List.mem_append.mp inside with here | later
      · exact Or.inr ⟨first, List.mem_cons_self, here⟩
      · rcases List.mem_cons.mp later with separator | rest
        · exact Or.inl separator
        · rcases ih rest with separator | ⟨field, among, there⟩
          · exact Or.inl separator
          · exact Or.inr ⟨field, List.mem_cons_of_mem first among, there⟩

/-! ### Segments -/

/-- A byte of an attribute: a digit, a separator or a private marker. -/
def IsAttributeByte (byte : UInt8) : Prop := 0x30 ≤ byte ∧ byte ≤ 0x3f

/-- A text that a sequence of its own adds to the attributes as one segment. -/
structure IsSegment (segment : Bytes) : Prop where
  short : segment.length ≤ maxCsiBytes
  plain : ∀ byte ∈ segment, IsAttributeByte byte
  /-- The sequence is not taken for a private one. -/
  unmarked : ∀ byte, segment.head? = some byte → byte < 0x3c
  adds : ∀ sgr, applySgr sgr segment = pushSgr sgr segment

/-- The tokens of an attribute sequence. -/
structure AttributeTokens (tokens : List Bytes) : Prop where
  short : (joinFields tokens).length ≤ maxCsiBytes
  plain : ∀ token ∈ tokens, ∀ byte ∈ token, IsAttributeByte byte
  clean : ∀ token ∈ tokens, (0x3b : UInt8) ∉ token

/-- Fewer tokens from the front are still fine. -/
theorem AttributeTokens.drop {tokens : List Bytes} (fine : AttributeTokens tokens) (count : Nat) :
    AttributeTokens (tokens.drop count) where
  short := Nat.le_trans (joinFields_drop_length tokens count) fine.short
  plain token among := fine.plain token (List.mem_of_mem_drop among)
  clean token among := fine.clean token (List.mem_of_mem_drop among)

/-- Fewer tokens at the end are still fine. -/
theorem AttributeTokens.take {tokens : List Bytes} (fine : AttributeTokens tokens) (count : Nat) :
    AttributeTokens (tokens.take count) where
  short := Nat.le_trans (joinFields_take tokens count).length_le fine.short
  plain token among := fine.plain token (List.mem_of_mem_take among)
  clean token among := fine.clean token (List.mem_of_mem_take among)

/-- The parameters of an attribute sequence are tokens. -/
theorem attributeTokens_splitFields {params : Bytes} (short : params.length ≤ maxCsiBytes)
    (plain : ∀ byte ∈ params, IsAttributeByte byte) : AttributeTokens (splitFields 0x3b params) where
  short := by rwa [joinFields_splitFields]
  plain token among byte inside := plain byte (mem_of_mem_splitFields among inside)
  clean token among := not_mem_of_mem_splitFields among

/-- What a number is read from starts with a digit or a plus sign. -/
theorem head_of_parseNumber {limit number : Nat} {text : Bytes}
    (parsed : parseNumber limit text = some number) :
    ∃ first rest, text = first :: rest ∧
      (Char.ofNat first.toNat = '+' ∨ (Char.ofNat first.toNat).isDigit = true) := by
  cases text with
  | nil => cases parsed
  | cons first rest =>
    refine ⟨first, rest, rfl, ?_⟩
    by_contra neither
    obtain ⟨notPlus, notDigit⟩ := not_or.mp neither
    -- Without a sign the first character is the first digit.
    have unsigned_ : unsigned ((first :: rest).map fun byte => Char.ofNat byte.toNat) =
        Char.ofNat first.toNat :: rest.map fun byte => Char.ofNat byte.toNat := by
      rw [List.map_cons, unsigned]
      exact fun digits same => notPlus (List.cons.inj same).1
    rw [parseNumber, parseBelow, unsigned_, if_neg (List.cons_ne_nil _ _), List.foldlM_cons,
      pushDigitBelow, if_neg (fun digit => notDigit digit.1)] at parsed
    cases parsed

/-- An attribute with a number is not marked as private. -/
theorem unmarked_of_attributeNumber {token : Bytes} {number : Nat}
    (plain : ∀ byte ∈ token, IsAttributeByte byte) (found : attributeNumber token = some number)
    (nonzero : number ≠ 0) : ∃ first rest, token = first :: rest ∧ first < 0x3c := by
  cases token with
  | nil =>
    cases found
    exact absurd rfl nonzero
  | cons first rest =>
    -- Were it marked, its first byte would be one of four that no number starts with.
    refine ⟨first, rest, rfl, ?_⟩
    have low := (plain first List.mem_cons_self).1
    by_contra marked
    rw [UInt8.not_lt] at marked
    have parsed : parseNumber (2 ^ 32) ((splitFields 0x3a (first :: rest)).headD []) = some number :=
      found
    have notColon : first ≠ 0x3a := by
      rintro rfl
      exact absurd marked (by decide)
    -- The leading number starts with the first byte of the token.
    have head : ∃ others, (splitFields 0x3a (first :: rest)).headD [] = first :: others := by
      rw [splitFields, if_neg notColon]
      split
      · exact ⟨_, rfl⟩
      · exact ⟨[], rfl⟩
    obtain ⟨others, starts⟩ := head
    rw [starts] at parsed
    obtain ⟨first', rest', same, digit⟩ := head_of_parseNumber parsed
    obtain ⟨rfl, rfl⟩ := List.cons.inj same
    have high := (plain first List.mem_cons_self).2
    have value : 0x3c ≤ first.toNat ∧ first.toNat ≤ 0x3f := ⟨marked, high⟩
    have bytes : first.toNat = 0x3c ∨ first.toNat = 0x3d ∨ first.toNat = 0x3e ∨
        first.toNat = 0x3f := by omega
    -- None of the four is a digit or a plus sign.
    rcases bytes with same | same | same | same <;> rw [same] at digit <;> revert digit <;> decide

/-- One attribute is added as it is. -/
theorem applyTokens_single {token : Bytes} {number : Nat} (found : attributeNumber token = some number)
    (nonzero : number ≠ 0) (sgr : List Bytes)
    (single : ¬ (isColour number && !token.contains 0x3a) = true) :
    applyTokens sgr [token] = pushSgr sgr token := by
  rw [applyTokens, found]
  simp only [if_neg nonzero, if_neg single]
  rw [applyTokens]

/-- As many tokens belong to a colour when only those are left. -/
theorem colourTokens_take (later : List Bytes) :
    colourTokens (later.take (colourTokens later - 1)) = colourTokens later := by
  unfold colourTokens
  -- The mode is among the tokens that are kept.
  cases later with
  | nil => rfl
  | cons mode others =>
    by_cases indexed : mode = [0x35]
    · subst indexed
      rfl
    · by_cases direct : mode = [0x32]
      · subst direct
        rfl
      · simp [indexed, direct]

/-- A colour is added as it is. -/
theorem applyTokens_colour {token : Bytes} {number : Nat} (found : attributeNumber token = some number)
    (nonzero : number ≠ 0) (colour : (isColour number && !token.contains 0x3a) = true)
    (later : List Bytes) (sgr : List Bytes) :
    applyTokens sgr (token :: later.take (colourTokens later - 1)) =
      pushSgr sgr (joinFields (token :: later.take (colourTokens later - 1))) := by
  rw [applyTokens, found]
  -- All the tokens of the colour are there, and none after them.
  simp only [if_neg nonzero, if_pos colour, colourTokens_take, List.take_take, Nat.min_self]
  rw [List.drop_eq_nil_of_le (List.length_take_le _ _), applyTokens]

/-- Tokens that are joined to a sequence of their own are applied as they are. -/
theorem applySgr_joinFields {tokens : List Bytes} (some_ : tokens ≠ [])
    (clean : ∀ token ∈ tokens, (0x3b : UInt8) ∉ token) (nonempty : joinFields tokens ≠ [])
    (sgr : List Bytes) : applySgr sgr (joinFields tokens) = applyTokens sgr tokens := by
  rw [applySgr, if_neg (by simpa using nonempty), splitFields_joinFields some_ clean]

/-- Tokens that add themselves as one segment make one. -/
theorem isSegment_joinFields {token : Bytes} {later : List Bytes} {number : Nat}
    (fine : AttributeTokens (token :: later)) (found : attributeNumber token = some number)
    (nonzero : number ≠ 0) (adds : ∀ sgr, applyTokens sgr (token :: later) =
      pushSgr sgr (joinFields (token :: later))) : IsSegment (joinFields (token :: later)) := by
  obtain ⟨first, rest, rfl, unmarked⟩ :=
    unmarked_of_attributeNumber (fine.plain token List.mem_cons_self) found nonzero
  -- The segment starts with the byte the first token starts with.
  have starts : (joinFields ((first :: rest) :: later)).head? = some first := by
    cases later with
    | nil => simp [joinFields]
    | cons second others =>
      rw [joinFields_cons_cons]
      rfl
  have nonempty : joinFields ((first :: rest) :: later) ≠ [] := by
    intro none_
    rw [none_] at starts
    cases starts
  refine ⟨fine.short, ?_, ?_, ?_⟩
  -- Its bytes are those of the tokens, and separators.
  · intro byte inside
    rcases mem_joinFields inside with rfl | ⟨field, among, there⟩
    · exact ⟨by decide, by decide⟩
    · exact fine.plain field among byte there
  -- The first byte is no private marker.
  · intro byte head
    rw [starts] at head
    exact Option.some.inj head ▸ unmarked
  -- By itself it is split into the same tokens again.
  · intro sgr
    rw [applySgr_joinFields (List.cons_ne_nil _ _) fine.clean nonempty, adds]

/-- Among the segments after a push is only the new one, and old ones. -/
theorem mem_pushSgr {sgr : List Bytes} {segment other : Bytes}
    (among : other ∈ pushSgr sgr segment) : other ∈ sgr ∨ other = segment := by
  unfold pushSgr at among
  split at among
  · exact Or.inr (List.mem_singleton.mp among)
  · rcases List.mem_append.mp among with old | new
    · exact Or.inl old
    · exact Or.inr (List.mem_singleton.mp new)

/-- Whatever a sequence of attributes is like, it leaves segments. -/
theorem applyTokens_segments {sgr tokens : List Bytes} (segments : ∀ segment ∈ sgr, IsSegment segment)
    (fine : AttributeTokens tokens) : ∀ segment ∈ applyTokens sgr tokens, IsSegment segment := by
  -- The cases are those of the sequence: nothing left, no number, a reset, a colour, another attribute.
  induction sgr, tokens using applyTokens.induct with
  | case1 sgr => rwa [applyTokens]
  | case2 sgr token later none_ ih =>
    rw [applyTokens, none_]
    exact ih segments (fine.drop 1)
  -- A reset leaves no segment.
  | case3 sgr token later zero ih =>
    rw [applyTokens, zero]
    exact ih (fun _ none_ => absurd none_ List.not_mem_nil) (fine.drop 1)
  | case4 sgr token later number found nonzero colour others ih =>
    rw [applyTokens, found]
    simp only [if_neg nonzero, if_pos colour]
    -- The colour is one segment with the tokens that belong to it.
    have own : AttributeTokens (token :: later.take (colourTokens later - 1)) :=
      fine.take (colourTokens later - 1 + 1)
    refine ih (fun segment among => ?_) ((fine.drop 1).drop others)
    rcases mem_pushSgr among with old | rfl
    · exact segments segment old
    · exact isSegment_joinFields own found nonzero fun sgr =>
        applyTokens_colour found nonzero colour later sgr
  | case5 sgr token later number found nonzero colour ih =>
    rw [applyTokens, found]
    simp only [if_neg nonzero, if_neg colour]
    -- Any other attribute is a segment by itself.
    have own : AttributeTokens [token] := fine.take 1
    have itself : joinFields [token] = token := by simp [joinFields]
    refine ih (fun segment among => ?_) (fine.drop 1)
    rcases mem_pushSgr among with old | same
    · exact segments segment old
    · rw [same, ← itself]
      apply isSegment_joinFields own found nonzero
      intro sgr
      rw [itself]
      exact applyTokens_single found nonzero sgr colour

/-- Attributes that are applied leave segments that can be sent as they are. -/
theorem applySgr_segments {sgr : List Bytes} (segments : ∀ segment ∈ sgr, IsSegment segment)
    {params : Bytes} (short : params.length ≤ maxCsiBytes)
    (plain : ∀ byte ∈ params, IsAttributeByte byte) :
    ∀ segment ∈ applySgr sgr params, IsSegment segment := by
  unfold applySgr
  -- A sequence without parameters is a reset.
  split
  · exact fun _ none_ => absurd none_ List.not_mem_nil
  · exact applyTokens_segments segments (attributeTokens_splitFields short plain)

/-! ### Over every output -/

/-- A control sequence is read from parameter bytes. -/
def OutputParser.Parameters (parser : OutputParser) : Prop :=
  ∀ byte ∈ parser.csi, 0x20 ≤ byte ∧ byte ≤ 0x3f

namespace OutputParser

variable {width : Char → Option (Fin 3)} {parser : OutputParser}

theorem freshGlyph_csi (byte : UInt8) : (parser.freshGlyph byte).1.csi = parser.csi := by
  unfold freshGlyph
  split_ifs <;> rfl

theorem printable_csi (byte : UInt8) : (parser.printable width byte).1.csi = parser.csi := by
  unfold printable
  split_ifs
  · rfl
  · rfl
  · exact freshGlyph_csi byte
  · exact freshGlyph_csi byte

theorem ground_csi (byte : UInt8) : (parser.ground width byte).1.csi = parser.csi := by
  unfold ground
  dsimp only
  split_ifs
  all_goals first
    | rfl
    | exact printable_csi byte

/-- Every byte keeps the parameters ones that can be sent. -/
theorem Parameters.step (parameters : parser.Parameters) (byte : UInt8) :
    (parser.step width byte).1.Parameters := by
  have cleared : ∀ byte ∈ ([] : Bytes), 0x20 ≤ byte ∧ byte ≤ 0x3f :=
    fun _ none_ => absurd none_ List.not_mem_nil
  unfold OutputParser.step
  split
  -- Text leaves the parameters alone.
  · unfold Parameters
    rwa [ground_csi]
  · unfold OutputParser.esc
    dsimp only
    split_ifs
    all_goals first
      | exact parameters
      | exact cleared
  · exact parameters
  -- A parameter byte is added, and any other byte ends the sequence or drops it.
  · unfold OutputParser.csiByte
    split_ifs with parameter
    · intro other inside
      rcases List.mem_append.mp inside with old | new
      · exact parameters other old
      · exact List.mem_singleton.mp new ▸ parameter
    all_goals first
      | exact parameters
      | exact cleared
  · split_ifs <;> exact parameters
  · exact parameters

/-- Attributes come of a control sequence without private markers and intermediate bytes. -/
theorem step_attributes (bounded : parser.Bounded) (parameters : parser.Parameters) {byte : UInt8}
    {params : Bytes} (move : (parser.step width byte).2 = .attributes params) :
    params.length ≤ maxCsiBytes ∧ ∀ byte ∈ params, IsAttributeByte byte := by
  -- Only a control sequence can have this move.
  have control : controlMove parser.csi byte = .attributes params := by
    rcases step_move_cases parser byte with plain | control
    · rw [move] at plain
      exact False.elim plain
    · exact control.symm.trans move
  unfold controlMove at control
  split_ifs at control with intermediate marked wrap attributes
  · -- Neither an intermediate byte nor a byte outside of the parameters is left.
    obtain rfl := CursorMove.attributes.inj control
    refine ⟨bounded.csi, fun byte inside => ?_⟩
    obtain ⟨low, high⟩ := parameters byte inside
    refine ⟨?_, high⟩
    by_contra below
    rw [UInt8.not_le] at below
    refine intermediate (List.any_eq_true.mpr ⟨byte, inside, ?_⟩)
    have value : byte.toNat < 0x30 := below
    have upper : byte ≤ 0x2f := show byte.toNat ≤ 0x2f by omega
    simp [isIntermediate, low, upper]

end OutputParser

namespace LineShadow

/-- Everything in the attributes, saved or not, is a segment. -/
structure Segmented (shadow : LineShadow) : Prop where
  parameters : shadow.parser.Parameters
  sgr : ∀ segment ∈ shadow.sgr, IsSegment segment
  saved : ∀ col sgr, shadow.saved = some (col, sgr) → ∀ segment ∈ sgr, IsSegment segment

variable {width : Char → Option (Fin 3)} {shadow : LineShadow}

theorem segmented_new (cols : UInt16) : (new cols).Segmented where
  parameters _ none_ := absurd none_ List.not_mem_nil
  sgr _ none_ := absurd none_ List.not_mem_nil
  saved _ _ none_ := by cases none_

/-- Every byte of output leaves segments. -/
theorem Segmented.step (segmented : shadow.Segmented) (bounded : shadow.Bounded) {byte : UInt8}
    {next : LineShadow} (stepped : shadow.step width byte = some next) : next.Segmented := by
  rw [step_eq bounded.parser.utf8] at stepped
  have parameters : (shadow.parser.step width byte).1.Parameters := segmented.parameters.step byte
  have attributes : ∀ params, (shadow.parser.step width byte).2 = .attributes params →
      params.length ≤ maxCsiBytes ∧ ∀ byte ∈ params, IsAttributeByte byte :=
    fun params move => OutputParser.step_attributes bounded.parser segmented.parameters move
  -- The move does not touch what was read.
  obtain ⟨-, read⟩ := move_keeps stepped
  generalize (shadow.parser.step width byte).1 = parser at stepped parameters read
  generalize (shadow.parser.step width byte).2 = move at stepped attributes
  have parameters : next.parser.Parameters := by
    rw [read]
    exact parameters
  cases move with
  | print count =>
    obtain ⟨col, rfl⟩ := advance_withCol stepped
    exact ⟨parameters, segmented.sgr, segmented.saved⟩
  | tab =>
    obtain ⟨stop, -, rfl⟩ := Option.map_eq_some_iff.mp stepped
    exact ⟨parameters, segmented.sgr, segmented.saved⟩
  -- What is saved is what was there.
  | save =>
    cases stepped
    refine ⟨parameters, segmented.sgr, ?_⟩
    rintro col sgr ⟨⟩
    exact segmented.sgr
  -- What is restored was saved.
  | restore =>
    rcases saved : shadow.saved with _ | ⟨col, sgr⟩
    · have kept : (shadow.withParser parser).saved = none := saved
      simp only [LineShadow.move, kept, Option.some.injEq] at stepped
      obtain rfl := stepped
      exact ⟨parameters, segmented.sgr, segmented.saved⟩
    · have kept : (shadow.withParser parser).saved = some (col, sgr) := saved
      simp only [LineShadow.move, kept, Option.some.injEq] at stepped
      obtain rfl := stepped
      exact ⟨parameters, segmented.saved col sgr saved,
        fun _ _ same => segmented.saved _ _ (saved.trans same)⟩
  | reset =>
    cases stepped
    refine ⟨parameters, fun _ none_ => absurd none_ List.not_mem_nil, ?_⟩
    rintro col sgr ⟨⟩
  | attributes params =>
    cases stepped
    obtain ⟨short, plain⟩ := attributes params rfl
    exact ⟨parameters, applySgr_segments segmented.sgr short plain, segmented.saved⟩
  -- Every other move leaves the attributes alone.
  | _ =>
    cases stepped
    exact ⟨parameters, segmented.sgr, segmented.saved⟩

/-- Whatever is scanned, the segments can be sent as they are. -/
theorem Segmented.scan (segmented : shadow.Segmented) (bounded : shadow.Bounded)
    (known : shadow.cols ≠ 0) {output : Bytes} {last : LineShadow}
    (scanned : shadow.scan width output = some last) : last.Segmented := by
  unfold LineShadow.scan at scanned
  induction output generalizing shadow with
  | nil => exact Option.some.inj scanned ▸ segmented
  | cons byte output ih =>
    obtain ⟨next, stepped, kept, cols⟩ := bounded.step_known known byte
    rw [List.foldlM_cons, stepped] at scanned
    exact ih (segmented.step bounded stepped) kept (cols ▸ known) scanned

end LineShadow

end Gritty
