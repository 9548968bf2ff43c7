import Gritty.Commands.PickerRows
import Gritty.Commands.PruneRaces

/-! Durations as the listings show them, and as options take them. -/

namespace Gritty

/-- A text that is no duration. It is answered with: invalid duration, the text, and use e.g. 90s, 30m, 12h, 7d. -/
structure InvalidDuration where
  text : String
  deriving DecidableEq

/-- The seconds of a number of units, if 64 bits hold them. -/
def checkedSeconds (text : String) (number : List Char) (multiplier : Nat) :
    Except InvalidDuration Nat :=
  match parseBelow (2 ^ 64) number with
  | some count =>
    if count * multiplier < 2 ^ 64 then .ok (count * multiplier) else .error { text }
  | none => .error { text }

/-- The seconds that a duration stands for: a number with a unit, or of seconds without one. -/
def parseDuration (text : String) : Except InvalidDuration Nat :=
  match text.toList.getLast? with
  | some 's' => checkedSeconds text text.toList.dropLast 1
  | some 'm' => checkedSeconds text text.toList.dropLast 60
  | some 'h' => checkedSeconds text text.toList.dropLast 3600
  | some 'd' => checkedSeconds text text.toList.dropLast 86400
  | some last => if last.isDigit then checkedSeconds text text.toList 1 else .error { text }
  | none => .error { text }

/-- The largest unit that a duration has one of, in seconds. -/
def durationUnit (secs : Nat) : Nat :=
  if secs < 60 then 1 else if secs < 3600 then 60 else if secs < 86400 then 3600 else 86400

/-- The whole units of a duration, in seconds. -/
def wholeUnits (secs : Nat) : Nat := secs / durationUnit secs * durationUnit secs

theorem wholeUnits_le (secs : Nat) : wholeUnits secs ≤ secs := Nat.div_mul_le_self ..

/-- The shown duration is short of the real one by less than its unit. -/
theorem lt_wholeUnits_add (secs : Nat) : secs < wholeUnits secs + durationUnit secs := by
  have some_ : 0 < durationUnit secs := by
    unfold durationUnit
    split_ifs <;> decide
  have split := Nat.div_add_mod secs (durationUnit secs)
  have rest := Nat.mod_lt secs some_
  rw [Nat.mul_comm] at split
  unfold wholeUnits
  omega

/-- Whole units are compared like the durations they are of. -/
theorem wholeUnits_le_iff (first second : Nat) :
    wholeUnits first ≤ wholeUnits second ↔ wholeUnits first ≤ second := by
  -- A larger unit begins at a multiple of every smaller one.
  unfold wholeUnits durationUnit
  constructor
  · intro below
    split_ifs at below ⊢ <;> omega
  · intro below
    split_ifs at below ⊢ <;> omega

/-- A number with a unit is read to that many units. -/
theorem checkedSeconds_toDigits {text : String} {count multiplier : Nat}
    (small : count * multiplier < 2 ^ 64) (some_ : 0 < multiplier) :
    checkedSeconds text (Nat.toDigits 10 count) multiplier = .ok (count * multiplier) := by
  have fits : count < 2 ^ 64 := Nat.lt_of_le_of_lt (Nat.le_mul_of_pos_right count some_) small
  rw [checkedSeconds, parseBelow_toDigits fits]
  exact if_pos small

/-- The units that a duration can be written in, with their seconds. -/
def durationUnits : List (Char × Nat) := [('s', 1), ('m', 60), ('h', 3600), ('d', 86400)]

/-- A number of units is read to its seconds, if 64 bits hold them. -/
theorem parseDuration_unit {text : String} {count multiplier : Nat} {unit : Char}
    (written : text.toList = Nat.toDigits 10 count ++ [unit])
    (known : (unit, multiplier) ∈ durationUnits) (small : count * multiplier < 2 ^ 64) :
    parseDuration text = .ok (count * multiplier) := by
  have last : text.toList.getLast? = some unit := by rw [written, List.getLast?_concat]
  have number : text.toList.dropLast = Nat.toDigits 10 count := by
    rw [written, List.dropLast_concat]
  simp only [durationUnits, List.mem_cons, Prod.mk.injEq, List.not_mem_nil, or_false] at known
  rcases known with ⟨rfl, rfl⟩ | ⟨rfl, rfl⟩ | ⟨rfl, rfl⟩ | ⟨rfl, rfl⟩ <;>
  · simp only [parseDuration, last, number]
    exact checkedSeconds_toDigits small (by decide)

/-- What is shown for a duration is read back to its whole units. -/
theorem parse_formatDuration {secs : Nat} (small : secs < 2 ^ 64) :
    parseDuration (formatDuration secs) = .ok (wholeUnits secs) := by
  have fits : secs / durationUnit secs * durationUnit secs < 2 ^ 64 :=
    Nat.lt_of_le_of_lt (wholeUnits_le secs) small
  have shown (count : Nat) (unit : String) :
      (s!"{count}{unit}" : String).toList = Nat.toDigits 10 count ++ unit.toList := by
    simp [toString, Nat.toList_repr]
  unfold wholeUnits durationUnit formatDuration at *
  split_ifs at fits ⊢
  · rw [Nat.div_one] at fits ⊢
    exact parseDuration_unit (shown secs "s") (by decide) fits
  · exact parseDuration_unit (shown (secs / 60) "m") (by decide) fits
  · exact parseDuration_unit (shown (secs / 3600) "h") (by decide) fits
  · exact parseDuration_unit (shown (secs / 86400) "d") (by decide) fits

theorem idle_lt (now lastActivity : UInt64) : now.toNat - lastActivity.toNat < 2 ^ 64 :=
  Nat.lt_of_le_of_lt (Nat.sub_le ..) now.toNat_lt

/-- The idle time that an entry shows, as an option would take it. -/
def SessionEntry.shownIdle (entry : SessionEntry) (now : UInt64) : Except InvalidDuration Nat :=
  parseDuration (formatIdle now entry.lastActivity)

/-- Where no activity is known, no duration is shown. -/
theorem shownIdle_unknown {entry : SessionEntry} {now : UInt64} (unknown : entry.lastActivity = 0) :
    entry.shownIdle now = .error { text := "-" } := by
  unfold SessionEntry.shownIdle formatIdle
  rw [if_pos unknown]
  rfl

theorem shownIdle_known {entry : SessionEntry} {now : UInt64} (known : entry.lastActivity ≠ 0) :
    entry.shownIdle now = .ok (wholeUnits (now.toNat - entry.lastActivity.toNat)) := by
  unfold SessionEntry.shownIdle formatIdle
  rw [if_neg known, parse_formatDuration (idle_lt now entry.lastActivity)]

/-- Without other filters, what is selected was listed with nobody attached, and was idle for that long. -/
theorem mem_pruneSelection_idle {sessions : List SessionEntry} {now min : UInt64}
    {entry : SessionEntry} :
    entry ∈ pruneSelection sessions now [] (some min) false ↔
      entry ∈ sessions ∧ entry.attached = false ∧ entry.lastActivity ≠ 0 ∧
        min.toNat ≤ now.toNat - entry.lastActivity.toNat := by
  simp only [pruneSelection, List.mem_filter, Bool.not_eq_true', Bool.false_eq_true, if_false,
    ne_eq, not_true_eq_false, decide_false, Bool.false_and, Bool.or_eq_false_iff,
    decide_eq_false_iff_not, Nat.not_lt, and_assoc]

/--
The idle time that a listing shows can be typed back to prune.

Whatever a session with a known activity shows as idle, prune takes it, and selects that session if nobody is attached, together with exactly the other such sessions that show as much or more.
A session that shows none is never selected.
-/
theorem prune_by_shown_idle {sessions : List SessionEntry} {now : UInt64} {shown : SessionEntry}
    (known : shown.lastActivity ≠ 0) :
    ∃ min, shown.shownIdle now = .ok min ∧ min < 2 ^ 64 ∧
      (shown ∈ sessions → shown.attached = false →
        shown ∈ pruneSelection sessions now [] (some (UInt64.ofNat min)) false) ∧
      ∀ entry, entry ∈ pruneSelection sessions now [] (some (UInt64.ofNat min)) false ↔
        entry ∈ sessions ∧ entry.attached = false ∧
          ∃ other, entry.shownIdle now = .ok other ∧ min ≤ other := by
  have whole := wholeUnits_le (now.toNat - shown.lastActivity.toNat)
  have small : wholeUnits (now.toNat - shown.lastActivity.toNat) < 2 ^ 64 :=
    Nat.lt_of_le_of_lt whole (idle_lt now shown.lastActivity)
  have exact_ := UInt64.toNat_ofNat_of_lt' small
  refine ⟨_, shownIdle_known known, small, fun listed detached => ?_, fun entry => ?_⟩
  · exact mem_pruneSelection_idle.mpr ⟨listed, detached, known, by rwa [exact_]⟩
  · rw [mem_pruneSelection_idle, exact_]
    refine and_congr_right fun _ => and_congr_right fun _ => ?_
    by_cases unknown : entry.lastActivity = 0
    · simp [unknown, shownIdle_unknown]
    · -- Both are compared by the whole units that are shown.
      rw [shownIdle_known unknown, ← wholeUnits_le_iff]
      simp [unknown]

/-- A session that nobody is attached to, and that was last active a while ago. -/
def idleEntry (id : UInt32) (lastActivity : UInt64) : SessionEntry where
  id
  name                  := "laptop/work"
  ptyPath               := "/dev/pts/1"
  shellPid              := 0
  createdAt             := 1
  attached              := false
  lastHeartbeat         := 0
  foregroundCmd         := "-"
  cwd                   := ""
  clientName            := ""
  agentForwardingActive := false
  isLastAttached        := false
  lastActivity
  lingerSecs            := 0

/-- A session that is shown as idle for an hour is pruned by what is shown. -/
theorem prune_by_shown_idle_hour :
    ∃ min, (idleEntry 0 1000).shownIdle 5000 = .ok min ∧ min < 2 ^ 64 ∧
      (idleEntry 0 1000 ∈ [idleEntry 0 1000, idleEntry 1 4000] →
        (idleEntry 0 1000).attached = false →
          idleEntry 0 1000 ∈ pruneSelection [idleEntry 0 1000, idleEntry 1 4000] 5000 []
            (some (UInt64.ofNat min)) false) ∧
      ∀ entry, entry ∈ pruneSelection [idleEntry 0 1000, idleEntry 1 4000] 5000 []
          (some (UInt64.ofNat min)) false ↔
        entry ∈ [idleEntry 0 1000, idleEntry 1 4000] ∧ entry.attached = false ∧
          ∃ other, entry.shownIdle 5000 = .ok other ∧ min ≤ other := by
  have known : (idleEntry 0 1000).lastActivity ≠ 0 := by decide
  exact prune_by_shown_idle known

-- An hour and some minutes are shown as an hour; a quarter of an hour is not as long.
example : formatIdle 5000 1000 = "1h" ∧ formatIdle 5000 4000 = "16m" := by decide

end Gritty
