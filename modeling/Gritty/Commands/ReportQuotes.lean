import Gritty.Commands.Report

/-! A report quotes what it was given: nothing breaks out of a quotation, and nothing is left out of a
log without a word. -/

namespace Gritty

/-- The lines that pieces of an excerpt leave, taken off those they are pieces of. -/
def Piece.after : List Text → List Piece → Option (List Text)
  | lines, [] => some lines
  | lines, .earlier count :: more | lines, .skipped count :: more =>
    if count ≤ lines.length then after (lines.drop count) more else none
  | [], .line _ :: _ => none
  | first :: rest, .line text :: more => if text = first then after rest more else none

/-- What an excerpt has of the lines it was made from. -/
structure Excerpted (lines : List Text) (tail extraCap : Nat) (keep : Text → Bool) : Prop where
  /-- Each line is shown as it is, or counted, as long as any of the end is asked for. -/
  counted : ∃ rest, Piece.after lines (excerptPieces lines tail extraCap keep) = some rest ∧
    (0 < tail → rest = [])
  /-- The end is shown. -/
  ending : ∀ number, lines.length - tail ≤ number → number < lines.length →
    number ∈ selectedLines lines tail extraCap keep
  /-- A line that counts gives way only to later ones that do. -/
  givesWay : ∀ number line, lines[number]? = some line → keep line = true →
    number ∉ selectedLines lines tail extraCap keep →
      ∃ later : List Nat, later.length = extraCap ∧ later.Nodup ∧ ∀ other ∈ later,
        number < other ∧ other ∈ selectedLines lines tail extraCap keep ∧
          ∃ shown, lines[other]? = some shown ∧ keep shown = true

/-- What stays of a text when it is quoted. -/
structure Quoted (text : Text) : Prop where
  /-- No control character is left but line ends and tabs. -/
  plain : ∀ char ∈ sanitize text, char = '\n' ∨ char = '\t' ∨ isControl char = false
  /-- All that is left was there, in this order. -/
  genuine : (sanitize text).Sublist text
  /-- A text that has none of what is taken out stays as it is. -/
  untouched : (∀ char ∈ text, char = '\n' ∨ char = '\t' ∨ isControl char = false) →
    sanitize text = text
  /-- A reader of the report finds the text and what follows it, unless the text has a line that is
  indented by up to three blanks and has nothing but enough tildes. -/
  enclosed : ∀ after : Text,
    readBlock ((fence (sanitize text) ++ after).splitOn '\n') =
        some ((fenceBody (sanitize text)).splitOn '\n', [] :: after.splitOn '\n') ↔
      ∀ line ∈ (fenceBody (sanitize text)).splitOn '\n', leads ' ' line ≠ 0 →
        closesBlock (fenceLength (sanitize text)) line = false

/-- The lines of a log that a report reads. -/
structure LogRead (contents : Bytes) : Prop where
  /-- They are the last lines of the log, whole, if any line ends in what is read. -/
  whole : contents.length ≤ readWindowBytes ∨
      (10 : UInt8) ∈ contents.drop (contents.length - readWindowBytes) →
    textLines (readTail contents readWindowBytes).1 <:+ textLines (lossyChars contents)
  /-- The report says when there is more of the log. -/
  admits : (readTail contents readWindowBytes).2 = true ↔ readWindowBytes < contents.length

/-! ### Control characters -/

section

variable {text : Text} {skipping : Skipping}

/-- What is left of a text is plain, wherever the reading began. -/
theorem sanitizeFrom_plain {char : Char} (left : char ∈ sanitizeFrom skipping text) :
    char = '\n' ∨ char = '\t' ∨ isControl char = false := by
  induction text generalizing skipping with
  | nil =>
    rw [sanitizeFrom] at left
    exact absurd left List.not_mem_nil
  | cons first rest ih =>
    cases skipping with
    | nothing =>
      simp only [sanitizeFrom] at left
      split at left
      · exact ih left
      · split at left
        · next stays =>
          rcases List.mem_cons.mp left with here | later
          · exact stays.imp here.trans fun tab => .inl (here.trans tab)
          · exact ih later
        · split at left
          · exact ih left
          · next plain =>
            rcases List.mem_cons.mp left with here | later
            · exact .inr (.inr (here ▸ Bool.eq_false_iff.mpr plain))
            · exact ih later
    | escape =>
      simp only [sanitizeFrom] at left
      split at left
      · exact ih left
      · split at left <;> exact ih left
    | csi => exact ih left
    | osc afterEscape =>
      simp only [sanitizeFrom] at left
      split at left <;> exact ih left

/-- What is left of a text was in it, in the same order. -/
theorem sanitizeFrom_sublist (skipping : Skipping) (text : Text) :
    (sanitizeFrom skipping text).Sublist text := by
  induction text generalizing skipping with
  | nil =>
    rw [sanitizeFrom]
  | cons first rest ih =>
    cases skipping with
    | nothing =>
      simp only [sanitizeFrom]
      split
      · exact (ih _).cons first
      · split
        · exact (ih _).cons_cons first
        · split
          · exact (ih _).cons first
          · exact (ih _).cons_cons first
    | escape =>
      simp only [sanitizeFrom]
      split
      · exact (ih _).cons first
      · split <;> exact (ih _).cons first
    | csi => exact (ih _).cons first
    | osc afterEscape =>
      simp only [sanitizeFrom]
      split <;> exact (ih _).cons first

/-- A plain text is left as it is. -/
theorem sanitize_untouched (plain : ∀ char ∈ text, char = '\n' ∨ char = '\t' ∨ isControl char = false) :
    sanitize text = text := by
  induction text with
  | nil => rfl
  | cons first rest ih =>
    have later := ih fun char among => plain char (List.mem_cons_of_mem first among)
    unfold sanitize at later ⊢
    have here := plain first List.mem_cons_self
    have noEscape : first ≠ '\x1b' := by
      rintro rfl
      exact absurd here (by decide)
    rw [sanitizeFrom, if_neg noEscape, later]
    split
    · rfl
    · next other =>
      -- It is no line end and no tab, so it is no control character either.
      have visible := here.resolve_left (not_or.mp other).1 |>.resolve_left (not_or.mp other).2
      rw [if_neg (by rw [visible]; exact Bool.false_ne_true)]

/-! ### Fences -/

/-- A line that leads with tildes does so without its carriage return. -/
theorem leads_withoutReturn (line : Text) : leads '~' (withoutReturn line) = leads '~' line := by
  unfold withoutReturn
  split
  · next ends =>
    -- The carriage return is no tilde, so the tildes end before it.
    obtain ⟨front, rfl⟩ := List.getLast?_eq_some_iff.mp ends
    rw [List.dropLast_concat]
    unfold leads
    rw [List.takeWhile_append]
    split
    · next whole =>
      rw [List.takeWhile_cons_of_neg (by decide), List.append_nil, ← whole]
    · rfl
  · rfl

theorem three_le_fenceLength (text : Text) : 3 ≤ fenceLength text := Nat.le_max_right _ 3

/-- Each line of a text has its tildes counted for the fence. -/
theorem leads_lt_fenceLength {line : Text} (among : line ∈ textLines text) :
    leads '~' line < fenceLength text := by
  have most : leads '~' line ≤ ((textLines text).map (leads '~')).max?.getD 0 :=
    List.le_max?_getD_of_mem (List.mem_map_of_mem among)
  unfold fenceLength
  omega

/-- So has each line of what is put between the fences. -/
theorem leads_fenceBody {line : Text} (among : line ∈ (fenceBody text).splitOn '\n') :
    leads '~' line < fenceLength text := by
  unfold fenceBody at among
  split at among
  · next ends =>
    obtain ⟨front, rfl⟩ := List.getLast?_eq_some_iff.mp ends
    rw [List.dropLast_concat] at among
    -- All of its lines are closed.
    rw [← leads_withoutReturn]
    apply leads_lt_fenceLength
    rw [textLines_append_cons]
    exact List.mem_append_left _ (List.mem_map_of_mem among)
  · have pieces : text.splitOn '\n' ≠ [] := List.splitOn_ne_nil '\n' text
    rw [← List.dropLast_append_getLast pieces] at among
    rcases List.mem_append.mp among with closed | last
    · rw [← leads_withoutReturn]
      apply leads_lt_fenceLength
      exact List.mem_append_left _ (List.mem_map_of_mem closed)
    · have open_ := List.mem_singleton.mp last
      by_cases empty : line = []
      · rw [empty]
        exact Nat.lt_of_lt_of_le (by decide) (three_le_fenceLength text)
      · apply leads_lt_fenceLength
        apply List.mem_append_right
        rw [List.getLast?_eq_some_getLast pieces, Option.getD_some, ← open_, openLine, if_neg empty]
        exact List.mem_singleton_self line

/-- A quotation and what follows it, line by line. -/
theorem splitOn_fence (text after : Text) :
    (fence text ++ after).splitOn '\n' =
      writeBlock (fenceLength text) ((fenceBody text).splitOn '\n') ++ [] :: after.splitOn '\n' := by
  have marks : '\n' ∉ List.replicate (fenceLength text) '~' := fun among =>
    absurd (List.eq_of_mem_replicate among) (by decide)
  have written : fence text ++ after =
      List.replicate (fenceLength text) '~' ++ '\n' :: (fenceBody text ++ '\n' ::
        (List.replicate (fenceLength text) '~' ++ '\n' :: ([] ++ '\n' :: after))) := by
    simp only [fence, List.append_assoc, List.cons_append, List.nil_append]
  rw [written, List.splitOn_append_cons_self, List.splitOn_append_cons_self,
    List.splitOn_append_cons_self, List.splitOn_append_cons_self, List.splitOn_eq_singleton marks,
    List.splitOn_nil]
  simp only [writeBlock, List.cons_append, List.append_assoc, List.nil_append]

/-- A quotation is read back exactly when no indented line of it ends it. -/
theorem readBlock_fence (text after : Text) :
    readBlock ((fence text ++ after).splitOn '\n') =
        some ((fenceBody text).splitOn '\n', [] :: after.splitOn '\n') ↔
      ∀ line ∈ (fenceBody text).splitOn '\n', leads ' ' line ≠ 0 →
        closesBlock (fenceLength text) line = false := by
  rw [splitOn_fence, readBlock_write (three_le_fenceLength text)]
  constructor
  · intro open_ line among _
    exact open_ line among
  · intro indented line among
    by_cases margin : leads ' ' line = 0
    -- At the margin, the fence is longer than any tildes of the text.
    · exact closesBlock_margin margin (leads_fenceBody among)
    · exact indented line among margin

theorem quoted (text : Text) : Quoted text where
  plain _ left := sanitizeFrom_plain left
  genuine := sanitizeFrom_sublist .nothing text
  untouched plain := sanitize_untouched plain
  enclosed after := readBlock_fence (sanitize text) after

end

/-! ### Excerpts -/

section

variable {lines : List Text} {tail extraCap : Nat} {keep : Text → Bool}

/-- The older lines that count, latest first. -/
def countingLines (lines : List Text) (tail : Nat) (keep : Text → Bool) : List (Text × Nat) :=
  (lines.take (lines.length - tail)).zipIdx.reverse.filter fun line => keep line.1

/-- The lines that are shown are in order, each once. -/
theorem selectedLines_sublist :
    (selectedLines lines tail extraCap keep).Sublist (List.range lines.length) := by
  have older : (extraLines lines tail extraCap keep).Sublist (List.range (lines.length - tail)) := by
    have among : ((countingLines lines tail keep).take extraCap).reverse.Sublist
        (lines.take (lines.length - tail)).zipIdx := by
      rw [← List.reverse_reverse (lines.take (lines.length - tail)).zipIdx]
      exact ((List.take_sublist _ _).trans List.filter_sublist).reverse
    have numbers := among.map Prod.snd
    rwa [List.zipIdx_map_snd, List.length_take, Nat.min_eq_left (Nat.sub_le _ _),
      ← List.range_eq_range'] at numbers
  have parts : List.range lines.length = List.range (lines.length - tail) ++
      List.range' (lines.length - tail) (lines.length - (lines.length - tail)) := by
    rw [List.range_eq_range', List.range_eq_range']
    have cut : List.range' 0 (lines.length - tail) ++
        List.range' (0 + (lines.length - tail)) (lines.length - (lines.length - tail)) =
          List.range' 0 (lines.length - tail + (lines.length - (lines.length - tail))) :=
      List.range'_append_1
    rw [Nat.zero_add, Nat.add_sub_cancel' (Nat.sub_le _ _)] at cut
    exact cut.symm
  rw [parts]
  exact older.append (List.Sublist.refl _)

/-- Where an excerpt stands in its lines. -/
def standsAt : Option Nat → Nat
  | none => 0
  | some previous => previous + 1

/-- What is said to be left out is what lies between. -/
theorem after_gap {previous : Option Nat} {number : Nat} (forward : standsAt previous ≤ number)
    (inside : number < lines.length) (more : List Piece) :
    Piece.after (lines.drop (standsAt previous)) (gapBefore previous number ++ more) =
      Piece.after (lines.drop number) more := by
  cases previous with
  | none =>
    simp only [gapBefore, standsAt]
    split
    · rw [List.drop_zero, List.singleton_append, Piece.after, if_pos inside.le]
    · next first =>
      rw [Nat.eq_zero_of_not_pos first]
      rfl
  | some previous =>
    simp only [standsAt] at forward
    simp only [gapBefore, standsAt]
    split
    · next gap =>
      have room : number - previous - 1 ≤ (lines.drop (previous + 1)).length := by
        rw [List.length_drop]
        omega
      rw [List.singleton_append, Piece.after, if_pos room, List.drop_drop,
        show previous + 1 + (number - previous - 1) = number by omega]
    · next next_ =>
      rw [show previous + 1 = number by omega]
      rfl

/-- An excerpt shows its lines as they are, and counts the others. -/
theorem after_pieces {numbers : List Nat} (previous : Option Nat)
    (inside : ∀ number ∈ numbers, standsAt previous ≤ number ∧ number < lines.length)
    (ordered : numbers.Pairwise (· < ·)) :
    Piece.after (lines.drop (standsAt previous)) (piecesOf lines previous numbers) =
      some (lines.drop (standsAt (numbers.getLast?.or previous))) := by
  induction numbers generalizing previous with
  | nil =>
    rw [piecesOf, Piece.after]
    rfl
  | cons number later ih =>
    obtain ⟨forward, within⟩ := inside number List.mem_cons_self
    obtain ⟨first, rest⟩ := List.pairwise_cons.mp ordered
    have shown : lines.drop number = lines.getD number [] :: lines.drop (number + 1) := by
      rw [List.drop_eq_getElem_cons within, List.getD_eq_getElem?_getD,
        List.getElem?_eq_getElem within, Option.getD_some]
    rw [piecesOf, after_gap forward within, shown, Piece.after, if_pos rfl]
    have rest_ := ih (some number)
      (fun other among => ⟨first other among, (inside other (List.mem_cons_of_mem _ among)).2⟩) rest
    rw [standsAt] at rest_
    rw [rest_]
    cases later with
    | nil => rfl
    | cons second others => rw [List.getLast?_cons_cons, List.getLast?_cons, Option.some_or, Option.some_or]

/-- A line that counts and is not shown is older than all that were taken for counting. -/
theorem givesWay {number : Nat} {line : Text} (there : lines[number]? = some line)
    (counts : keep line = true) (hidden : number ∉ selectedLines lines tail extraCap keep) :
    ∃ later : List Nat, later.length = extraCap ∧ later.Nodup ∧ ∀ other ∈ later,
      number < other ∧ other ∈ selectedLines lines tail extraCap keep ∧
        ∃ shown, lines[other]? = some shown ∧ keep shown = true := by
  have notExtra : number ∉ extraLines lines tail extraCap keep := fun among =>
    hidden (List.mem_append_left _ among)
  have older : number < lines.length - tail := by
    by_contra late
    have within := (List.getElem?_eq_some_iff.mp there).1
    exact hidden (List.mem_append_right _ (List.mem_range'_1.mpr ⟨by omega, by omega⟩))
  have counting : ∀ {other : Nat} {shown : Text}, (shown, other) ∈ countingLines lines tail keep ↔
      other < lines.length - tail ∧ lines[other]? = some shown ∧ keep shown = true := by
    intro other shown
    rw [countingLines, List.mem_filter, List.mem_reverse, List.mem_zipIdx_iff_getElem?,
      List.getElem?_take]
    split
    · next early => exact ⟨fun both => ⟨early, both⟩, fun all => all.2⟩
    · next late => exact ⟨fun both => absurd both.1 (by simp), fun all => absurd all.1 late⟩
  have ordered : (countingLines lines tail keep).Pairwise fun first second => second.2 < first.2 := by
    have numbered : (lines.take (lines.length - tail)).zipIdx.Pairwise
        fun first second => first.2 < second.2 := by
      rw [← List.pairwise_map (f := Prod.snd) (R := fun first second => first < second),
        List.zipIdx_map_snd]
      exact List.pairwise_lt_range'
    exact (List.pairwise_reverse.mpr numbered).filter _
  have among := counting.mpr ⟨older, there, counts⟩
  rw [← List.take_append_drop extraCap (countingLines lines tail keep)] at among ordered
  obtain ⟨taken, -, newer⟩ := List.pairwise_append.mp ordered
  -- It was not taken, so the limit was reached before it.
  rcases List.mem_append.mp among with front | back
  · exact absurd (List.mem_map.mpr ⟨_, List.mem_reverse.mpr front, rfl⟩) notExtra
  · refine ⟨((countingLines lines tail keep).take extraCap).map Prod.snd, ?_, ?_, ?_⟩
    · have past := List.length_pos_of_mem back
      rw [List.length_drop] at past
      rw [List.length_map, List.length_take, Nat.min_eq_left (by omega)]
    · exact List.Pairwise.map Prod.snd (fun _ _ less => less.ne') taken
    · intro other shown
      obtain ⟨⟨text, _⟩, isTaken, rfl⟩ := List.mem_map.mp shown
      obtain ⟨-, read, keeps⟩ := counting.mp (List.mem_of_mem_take isTaken)
      refine ⟨newer _ isTaken _ back, List.mem_append_left _ ?_, text, read, keeps⟩
      exact List.mem_map.mpr ⟨_, List.mem_reverse.mpr isTaken, rfl⟩

/-- An excerpt shows lines in their order, and counts what it leaves out between them. -/
theorem excerpted (lines : List Text) (tail extraCap : Nat) (keep : Text → Bool) :
    Excerpted lines tail extraCap keep where
  counted := by
    have ordered : (selectedLines lines tail extraCap keep).Sublist (List.range lines.length) :=
      selectedLines_sublist
    refine ⟨_, after_pieces none
      (fun number among => ⟨Nat.zero_le _, List.mem_range.mp (ordered.subset among)⟩)
      (List.Pairwise.sublist ordered List.pairwise_lt_range), fun some_ => ?_⟩
    rw [List.drop_eq_nil_iff, selectedLines]
    by_cases empty : lines.length = 0
    · omega
    · -- The last line is the last one shown.
      have count : lines.length - (lines.length - tail) ≠ 0 := by omega
      rw [List.getLast?_append, List.getLast?_range', if_neg count, Option.some_or, Option.some_or,
        standsAt]
      omega
  ending number late within :=
    List.mem_append_right _ (List.mem_range'_1.mpr ⟨late, by omega⟩)
  givesWay number line there counts hidden := givesWay there counts hidden

end

/-! ### The end of a log -/

section

variable {contents : Bytes} {maxBytes : Nat}

theorem notMem_lossyChars {bytes : Bytes} (unbroken : (10 : UInt8) ∉ bytes) : '\n' ∉ lossyChars bytes := by
  intro among
  obtain ⟨byte, there, same⟩ := lossyChars_ascii_of_mem among (by decide)
  have ten : byte = 10 := UInt8.toNat_inj.mp same
  exact unbroken (ten ▸ there)

/-- What is read of a log begins behind the first line end that is in sight. -/
theorem readTail_whole (long : maxBytes < contents.length)
    (ends : (10 : UInt8) ∈ contents.drop (contents.length - maxBytes)) :
    ∃ before after, contents = before ++ 10 :: after ∧
      (readTail contents maxBytes).1 = lossyChars after := by
  obtain ⟨partial_, after, cut, unbroken⟩ := List.eq_append_cons_of_mem ends
  refine ⟨contents.take (contents.length - maxBytes) ++ partial_, after, ?_, ?_⟩
  · rw [List.append_assoc, ← cut, List.take_append_drop]
  · have read : lossyChars (contents.drop (contents.length - maxBytes)) =
        lossyChars partial_ ++ '\n' :: lossyChars after := by
      rw [cut]
      exact lossyChars_append_ascii partial_ after (by decide)
    have inside := notMem_lossyChars unbroken
    have broken : '\n' ∈ lossyChars partial_ ++ '\n' :: lossyChars after :=
      List.mem_append_right _ List.mem_cons_self
    have dropped : (lossyChars partial_ ++ '\n' :: lossyChars after).dropWhile (· ≠ '\n') =
        '\n' :: lossyChars after := by
      have all : ∀ char ∈ lossyChars partial_, decide (char ≠ '\n') = true := by
        intro char among
        exact decide_eq_true (ne_of_mem_of_not_mem among inside)
      rw [List.dropWhile_append_of_pos all, List.dropWhile_cons_of_neg (by decide)]
    simp only [readTail, read, long, broken, decide_true, and_self, if_true, dropped,
      List.drop_succ_cons, List.drop_zero]

/-- Of a log its end is read, from a whole line on where there is one. -/
theorem logRead (contents : Bytes) : LogRead contents where
  whole seen := by
    by_cases long : readWindowBytes < contents.length
    · obtain ⟨before, after, split_, read⟩ :=
        readTail_whole long (seen.resolve_left (Nat.not_le.mpr long))
      have whole : lossyChars contents = lossyChars before ++ '\n' :: lossyChars after := by
        rw [split_]
        exact lossyChars_append_ascii before after (by decide)
      rw [read, whole, textLines_append_cons]
      exact List.suffix_append _ _
    · -- The whole log is in sight.
      have all : (readTail contents readWindowBytes).1 = lossyChars contents := by
        simp only [readTail, long, decide_false, false_and, if_false,
          Nat.sub_eq_zero_of_le (Nat.not_lt.mp long), List.drop_zero]
      rw [all]
  admits := decide_eq_true_iff

end

/-- A report quotes any words and any log as far as it says, and no further. -/
structure ReportQuotes : Prop where
  words : ∀ text, Quoted text
  logs : ∀ contents, LogRead contents
  excerpts : ∀ lines tailLines, Excerpted lines tailLines extraWarnLines isWarnOrError
  /-- Of a log that is read there is nothing but such a quotation. -/
  quotes : ∀ contents tailLines,
    quotedLog (some contents) tailLines = "(empty)\n".toList ∧
        textLines (readTail contents readWindowBytes).1 = [] ∨
      quotedLog (some contents) tailLines = fence (sanitize (
        (if readWindowBytes < contents.length then olderContent else []) ++
          (excerptPieces (textLines (readTail contents readWindowBytes).1) tailLines extraWarnLines
            isWarnOrError).flatMap Piece.written))

end Gritty
