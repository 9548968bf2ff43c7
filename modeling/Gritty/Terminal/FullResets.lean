import Gritty.Terminal.ModeSync

/-! The alternate screen over full resets of the terminal, which the tracker does not follow. -/

namespace Gritty

/-- The modes that switch the alternate screen. -/
def IsScreenMode (mode : UInt16) : Prop := mode = 1049 ∨ mode = 1047 ∨ mode = 47

/-- What a change does to the screen of a terminal. A full reset goes back to the main one. -/
def screenEffect : ModeEvent → Option Bool
  | .changed mode entering => if mode = 1049 ∨ mode = 1047 ∨ mode = 47 then some entering else none
  | .fullReset => some false

/-- A terminal shows its alternate screen if the last change of its screen entered it. -/
def showsAlternate (events : List ModeEvent) : Bool := (latest screenEffect events).getD false

/-- A full reset comes while the alternate screen is shown, and nothing switches the screen after it. -/
def ResetInAlternate (events : List ModeEvent) : Prop :=
  ∃ before mode between after,
    events = before ++ .changed mode true :: (between ++ .fullReset :: after) ∧ IsScreenMode mode ∧
      (∀ event ∈ between, altScreenEffect event = none) ∧
      ∀ event ∈ after, altScreenEffect event = none

/-- The last change of the tracker's screen stands somewhere among the events. -/
theorem latest_eq_some {β γ : Type} {effect : β → Option γ} {outputs : List β} {state : γ}
    (found : latest effect outputs = some state) :
    ∃ before output after, outputs = before ++ output :: after ∧ effect output = some state ∧
      ∀ other ∈ after, effect other = none := by
  induction outputs with
  | nil => cases found
  | cons first later ih =>
    rw [latest_cons] at found
    cases rest : latest effect later with
    | some other =>
      rw [rest, Option.some_or] at found
      obtain ⟨before, output, after, rfl, has, none_⟩ := ih (rest.trans found)
      exact ⟨first :: before, output, after, rfl, has, none_⟩
    | none =>
      rw [rest, Option.none_or] at found
      refine ⟨[], first, later, rfl, found, fun other among => ?_⟩
      -- Otherwise there would be a later change.
      have blank := List.getLast?_eq_none_iff.mp rest
      exact List.filterMap_eq_nil_iff.mp blank other among

/-- After the last change of the tracker's screen, only full resets change the screen. -/
theorem latest_screenEffect {events : List ModeEvent}
    (none_ : ∀ event ∈ events, altScreenEffect event = none) :
    latest screenEffect events = if .fullReset ∈ events then some false else none := by
  induction events with
  | nil => rfl
  | cons event events ih =>
    -- Neither the first event nor any of the rest changes the tracker's screen.
    obtain ⟨first, rest⟩ := List.forall_mem_cons.mp none_
    rw [latest_cons, ih rest]
    cases event with
    | fullReset =>
      rw [if_pos List.mem_cons_self]
      by_cases again : ModeEvent.fullReset ∈ events
      · rw [if_pos again]
        rfl
      · rw [if_neg again]
        rfl
    -- No change of a mode, or the tracker would have seen it.
    | changed mode entering =>
      have same : screenEffect (.changed mode entering) = none := first
      have among : ModeEvent.fullReset ∈ ModeEvent.changed mode entering :: events ↔
          ModeEvent.fullReset ∈ events := by simp
      rw [same, Option.or_none]
      simp only [among]

/-- The last change of the tracker's screen, and the terminal's screen by what comes after it. -/
theorem latest_screen_cases (events : List ModeEvent) :
    (latest altScreenEffect events = none ∧
        (latest screenEffect events = none ∨ latest screenEffect events = some false)) ∨
      ∃ before mode state after, events = before ++ .changed mode state :: after ∧
        IsScreenMode mode ∧ (∀ event ∈ after, altScreenEffect event = none) ∧
        latest altScreenEffect events = some state ∧
        latest screenEffect events = if .fullReset ∈ after then some false else some state := by
  -- The tracker has seen no change, or there is a last one.
  cases last : latest altScreenEffect events with
  | none =>
    have blank := List.filterMap_eq_nil_iff.mp (List.getLast?_eq_none_iff.mp last)
    rw [latest_screenEffect blank]
    left
    split_ifs
    · exact ⟨rfl, Or.inr rfl⟩
    · exact ⟨rfl, Or.inl rfl⟩
  | some state =>
    obtain ⟨before, event, after, rfl, effect, rest⟩ := latest_eq_some last
    cases event with
    | fullReset => cases effect
    | changed mode entering =>
      by_cases screen : mode = 1049 ∨ mode = 1047 ∨ mode = 47
      · have entered : entering = state := by
          rw [altScreenEffect, if_pos screen] at effect
          exact Option.some.inj effect
        have shown : screenEffect (.changed mode entering) = some state := effect
        refine Or.inr ⟨before, mode, state, after, by rw [entered], screen, rest, rfl, ?_⟩
        rw [latest_append, latest_cons, latest_screenEffect rest, shown]
        split_ifs <;> rfl
      · rw [altScreenEffect, if_neg screen] at effect
        cases effect

/-- A reset in the alternate screen leaves tracker and terminal with different screens. -/
theorem resetInAlternate_iff (events : List ModeEvent) :
    ResetInAlternate events ↔
      latest altScreenEffect events = some true ∧ latest screenEffect events = some false := by
  constructor
  · rintro ⟨before, mode, between, after, rfl, screen, noneBetween, noneAfter⟩
    have entered : altScreenEffect (.changed mode true) = some true := if_pos screen
    have rest : ∀ event ∈ between ++ .fullReset :: after, altScreenEffect event = none := by
      intro event among
      rcases List.mem_append.mp among with one | later
      · exact noneBetween event one
      · rcases List.mem_cons.mp later with rfl | other
        · rfl
        · exact noneAfter event other
    -- The reset is the last thing that changes the terminal's screen.
    have reset : ModeEvent.fullReset ∈ between ++ .fullReset :: after := by simp
    constructor
    · rw [latest_append, latest_cons, latest_none rest, entered]
      rfl
    · rw [latest_append, latest_cons, latest_screenEffect rest, if_pos reset]
      rfl
  · rintro ⟨entered, left⟩
    rcases latest_screen_cases events with ⟨none_, -⟩ |
      ⟨before, mode, state, after, rfl, screen, rest, last, shown⟩
    · rw [entered] at none_
      cases none_
    · obtain rfl : true = state := Option.some.inj (entered.symm.trans last)
      rw [left] at shown
      -- Only a reset among the later events can have left the alternate screen.
      by_cases reset : ModeEvent.fullReset ∈ after
      · obtain ⟨between, later, rfl⟩ := List.append_of_mem reset
        exact ⟨before, mode, between, later, rfl, screen,
          fun event among => rest event (List.mem_append_left _ among),
          fun event among => rest event (List.mem_append_right _ (List.mem_cons_of_mem _ among))⟩
      · rw [if_neg reset] at shown
        cases shown

/-- The tracker's screen is the terminal's exactly if no full reset was overlooked last. -/
theorem tracked_eq_shown (events : List ModeEvent) :
    (latest altScreenEffect events).getD false = showsAlternate events ↔
      ¬ ResetInAlternate events := by
  rw [resetInAlternate_iff, showsAlternate]
  rcases latest_screen_cases events with ⟨none_, blank | left⟩ | ⟨_, _, state, after, -, -, -, last, shown⟩
  · simp [none_, blank]
  · simp [none_, left]
  -- A reset after the last change is wrong exactly if that change entered the alternate screen.
  · rw [last, shown]
    by_cases reset : ModeEvent.fullReset ∈ after
    · cases state <;> simp [reset]
    · cases state <;> simp [reset]

/-- In any chunking, the tracker follows the terminal exactly if no full reset in the alternate screen was last. -/
theorem inAlternateScreen_iff (chunks : List Bytes) :
    (chunks.foldl AltScreenTracker.scan .new).inAlternateScreen =
        showsAlternate (changesOf chunks.flatten) ↔
      ¬ ResetInAlternate (changesOf chunks.flatten) := by
  -- The chunks are scanned like one piece of output.
  have whole : ∀ tracker : AltScreenTracker,
      chunks.foldl AltScreenTracker.scan tracker = tracker.scan chunks.flatten := by
    induction chunks with
    | nil => exact fun tracker => tracker.scan_nil.symm
    | cons chunk chunks ih =>
      intro tracker
      rw [List.foldl_cons, ih, List.flatten_cons, AltScreenTracker.scan_append]
  have tracked : (chunks.foldl AltScreenTracker.scan .new).inAlternateScreen =
      (latest altScreenEffect (changesOf chunks.flatten)).getD false := by
    rw [whole]
    exact foldl_applyAltScreen (changesOf chunks.flatten) false
  rw [tracked]
  exact tracked_eq_shown _

/-- A full reset that leaves the alternate screen, of which the tracker knows nothing. -/
theorem reset_overlooked :
    (AltScreenTracker.new.scan (escByte :: ascii "[?1049h" ++ escByte :: ascii "c")).inAlternateScreen
      ≠ showsAlternate (changesOf (escByte :: ascii "[?1049h" ++ escByte :: ascii "c")) := by
  decide +kernel

end Gritty
