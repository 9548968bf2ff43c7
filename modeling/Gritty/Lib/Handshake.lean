import Mathlib.Tactic
import Mathlib.Data.List.Basic

/-! One channel between the end that opens it and the end that answers, over two links that keep their order. -/

namespace Gritty

/-- What an end tells the other about a channel. -/
inductive Notice where
  | opens
  | closes
  deriving DecidableEq

/-- A channel, seen from outside both ends. -/
structure Handshake where
  /-- How many accepted connections wait to be announced. -/
  waiting : Nat
  /-- The end that opens has the channel in its table. -/
  opener : Bool
  /-- The end that answers has the channel in its table. -/
  answerer : Bool
  /-- The end that answers turns every opening down. -/
  refusing : Bool
  /-- The notices on the way to the end that answers, oldest first. -/
  toAnswerer : List Notice
  /-- How many closing notices are on the way back. -/
  toOpener : Nat
  deriving DecidableEq

namespace Handshake

/-- What one of the ends does to a channel, or a notice that is taken off a link. -/
inductive Moves : Handshake → Handshake → Prop where
  | stays (channel : Handshake) : Moves channel channel
  | announced (channel : Handshake) (others : Nat) (waits : channel.waiting = others + 1) :
    Moves channel { channel with
      waiting := others, opener := true, toAnswerer := channel.toAnswerer ++ [.opens] }
  | withdrawn (channel : Handshake) (others : Nat) (waits : channel.waiting = others + 1) :
    Moves channel { channel with waiting := others }
  | closedByOpener (channel : Handshake) :
    Moves channel { channel with
      opener := false, toAnswerer := channel.toAnswerer ++ [.closes] }
  | closedByAnswerer (channel : Handshake) (held : channel.answerer = true) :
    Moves channel { channel with answerer := false, toOpener := channel.toOpener + 1 }
  | stopped (channel : Handshake) :
    Moves channel { channel with
      answerer := false, refusing := true, toOpener := channel.toOpener + 1 }
  | registered (channel : Handshake) (later : List Notice)
      (first : channel.toAnswerer = .opens :: later) (willing : channel.refusing = false) :
    Moves channel { channel with answerer := true, toAnswerer := later }
  | refused (channel : Handshake) (later : List Notice)
      (first : channel.toAnswerer = .opens :: later) :
    Moves channel { channel with toAnswerer := later, toOpener := channel.toOpener + 1 }
  | closeTaken (channel : Handshake) (later : List Notice)
      (first : channel.toAnswerer = .closes :: later) :
    Moves channel { channel with answerer := false, toAnswerer := later }
  | closeReturned (channel : Handshake) (others : Nat) (back : channel.toOpener = others + 1) :
    Moves channel { channel with opener := false, toOpener := others }

/-- Whether the end that answers will have the channel once it has taken the notices, if it turns none down. -/
def lands (held : Bool) : List Notice → Bool
  | [] => held
  | .opens :: later => lands true later
  | .closes :: later => lands false later

@[simp] theorem lands_opens (held : Bool) (notices : List Notice) :
    lands held (notices ++ [.opens]) = true := by
  -- The last notice decides, whatever came before it.
  induction notices generalizing held with
  | nil => rfl
  | cons notice later ih => cases notice <;> exact ih _

@[simp] theorem lands_closes (held : Bool) (notices : List Notice) :
    lands held (notices ++ [.closes]) = false := by
  induction notices generalizing held with
  | nil => rfl
  | cons notice later ih => cases notice <;> exact ih _

/-- Without an opening on the way, a channel that is not there stays away. -/
theorem lands_without_opening {notices : List Notice} (none : Notice.opens ∉ notices) :
    lands false notices = false := by
  induction notices with
  | nil => rfl
  | cons notice later ih =>
    cases notice with
    | opens => exact absurd List.mem_cons_self none
    | closes => exact ih fun inside => none (List.mem_cons_of_mem _ inside)

/-- What the tables of the ends and the notices between them have to do with each other. -/
structure Sound (channel : Handshake) : Prop where
  /-- A number is announced once. -/
  once : channel.waiting + channel.toAnswerer.count .opens ≤ 1
  unannounced : 0 < channel.waiting → channel.opener = false ∧ channel.answerer = false
  unopened : .opens ∈ channel.toAnswerer → channel.answerer = false
  /-- With no close on the way back, the tables will agree once the notices are taken. -/
  willing : channel.refusing = false → channel.toOpener = 0 →
    channel.opener = lands channel.answerer channel.toAnswerer
  /-- A close on the way back is about a channel that the end which answers does not have, nor will have. -/
  returning : 0 < channel.toOpener → channel.answerer = false ∧
    (0 < channel.waiting ∨ .opens ∈ channel.toAnswerer → channel.refusing = true)
  refuses : channel.refusing = true → channel.answerer = false
  /-- An end that refuses has told the other so, or will when the opening arrives. -/
  told : channel.refusing = true → channel.toOpener = 0 →
    .opens ∈ channel.toAnswerer ∨ channel.opener = false

/-- Nothing is left of an earlier channel under the number that could be taken for a new one. -/
structure Free (channel : Handshake) : Prop where
  waiting : channel.waiting = 0
  opener : channel.opener = false
  answerer : channel.answerer = false
  toAnswerer : .opens ∉ channel.toAnswerer

/-- A free number without a close on the way back can be given out. -/
def Unused (channel : Handshake) : Prop := channel.Free ∧ channel.toOpener = 0

/-- A channel is free exactly if neither end holds it, and nothing is on the way that opens it. -/
theorem free_iff {channel : Handshake} : channel.Free ↔ channel.waiting = 0 ∧
    channel.opener = false ∧ channel.answerer = false ∧ .opens ∉ channel.toAnswerer :=
  ⟨fun free => ⟨free.waiting, free.opener, free.answerer, free.toAnswerer⟩,
    fun ⟨waiting, opener, answerer, toAnswerer⟩ => ⟨waiting, opener, answerer, toAnswerer⟩⟩

instance (channel : Handshake) : Decidable channel.Unused :=
  decidable_of_iff _ (and_congr_left' free_iff.symm)

variable {channel next : Handshake}

/-- A channel that nothing was heard of is sound. -/
theorem Free.sound (free : channel.Free) (quiet : channel.toOpener = 0 ∨ channel.refusing = true) :
    channel.Sound where
  once := by rw [free.waiting, List.count_eq_zero_of_not_mem free.toAnswerer]; decide
  unannounced _ := ⟨free.opener, free.answerer⟩
  unopened _ := free.answerer
  willing _ _ := by rw [free.opener, free.answerer, lands_without_opening free.toAnswerer]
  returning some := by
    refine ⟨free.answerer, fun _ => ?_⟩
    rcases quiet with none | refusing
    · exact absurd none (Nat.pos_iff_ne_zero.mp some)
    · exact refusing
  refuses _ := free.answerer
  told _ _ := Or.inr free.opener

/-- A connection accepted under a free number is the start of a sound channel. -/
theorem Free.accepted (free : channel.Free)
    (quiet : channel.toOpener = 0 ∨ channel.refusing = true) :
    { channel with waiting := 1 : Handshake }.Sound where
  once := by
    have none := List.count_eq_zero_of_not_mem free.toAnswerer
    simp only [none, Nat.add_zero, Nat.le_refl]
  unannounced _ := ⟨free.opener, free.answerer⟩
  unopened _ := free.answerer
  willing _ _ := (free.sound quiet).willing ‹_› ‹_›
  returning some := by
    refine ⟨free.answerer, fun _ => ?_⟩
    rcases quiet with none | refusing
    · exact absurd none (Nat.pos_iff_ne_zero.mp some)
    · exact refusing
  refuses _ := free.answerer
  told _ _ := Or.inr free.opener

/-- A channel that is announced has nothing else of its number on the way. -/
private theorem Sound.lone (sound : channel.Sound) {others : Nat}
    (waits : channel.waiting = others + 1) :
    others = 0 ∧ Notice.opens ∉ channel.toAnswerer := by
  have once := sound.once
  refine ⟨by omega, fun inside => ?_⟩
  have counted := List.count_pos_iff.mpr inside
  omega

/-- The opening at the head of a link is the only one. -/
private theorem Sound.first (sound : channel.Sound) {later : List Notice}
    (first : channel.toAnswerer = .opens :: later) :
    channel.waiting = 0 ∧ Notice.opens ∉ later := by
  have once := sound.once
  rw [first, List.count_cons_self] at once
  refine ⟨by omega, fun inside => ?_⟩
  have counted := List.count_pos_iff.mpr inside
  omega

/-- Every move keeps a channel sound. -/
theorem Sound.moves (sound : channel.Sound) (moved : Moves channel next) : next.Sound := by
  cases moved with
  | stays => exact sound
  | announced others waits =>
    obtain ⟨rfl, alone⟩ := sound.lone waits
    have early := sound.unannounced (waits ▸ Nat.succ_pos _)
    refine ⟨?_, ?_, fun _ => early.2, fun _ _ => ?_, fun back => ⟨early.2, fun _ => ?_⟩,
      sound.refuses, fun _ _ => Or.inl (by simp)⟩
    · simp [List.count_eq_zero_of_not_mem alone]
    · exact fun none => absurd none (Nat.lt_irrefl 0)
    · exact (lands_opens _ _).symm
    · -- A close that comes back before the opening was seen comes from an end that refuses.
      exact (sound.returning back).2 (Or.inl (waits ▸ Nat.succ_pos _))
  | withdrawn others waits =>
    obtain ⟨rfl, alone⟩ := sound.lone waits
    refine ⟨?_, ?_, sound.unopened, sound.willing, fun back => ⟨(sound.returning back).1, ?_⟩,
      sound.refuses, sound.told⟩
    · simp [List.count_eq_zero_of_not_mem alone]
    · exact fun none => absurd none (Nat.lt_irrefl 0)
    · rintro (none | opens)
      · exact absurd none (Nat.lt_irrefl 0)
      · exact absurd opens alone
  | closedByOpener =>
    refine ⟨?_, fun waits => ⟨rfl, (sound.unannounced waits).2⟩, ?_, ?_, ?_, sound.refuses, ?_⟩
    · simpa using sound.once
    · simpa using sound.unopened
    · exact fun _ _ => (lands_closes _ _).symm
    · simpa using sound.returning
    · exact fun _ _ => Or.inr rfl
  | closedByAnswerer held =>
    -- The end that answers has the channel, so it was announced and is not refused.
    have announced : ¬ 0 < channel.waiting := fun waits => by
      rw [(sound.unannounced waits).2] at held
      exact absurd held (by decide)
    have opened : Notice.opens ∉ channel.toAnswerer := fun inside => by
      rw [sound.unopened inside] at held
      exact absurd held (by decide)
    refine ⟨sound.once, fun waits => absurd waits announced, fun _ => rfl, ?_, ?_, fun _ => rfl, ?_⟩
    · exact fun _ back => absurd back (Nat.succ_ne_zero _)
    · exact fun _ => ⟨rfl, fun some => (some.elim announced opened).elim⟩
    · exact fun _ back => absurd back (Nat.succ_ne_zero _)
  | stopped =>
    refine ⟨sound.once, fun waits => ⟨(sound.unannounced waits).1, rfl⟩, fun _ => rfl, ?_, ?_,
      fun _ => rfl, ?_⟩
    · exact fun willing => absurd willing.symm Bool.false_ne_true
    · exact fun _ => ⟨rfl, fun _ => rfl⟩
    · exact fun _ back => absurd back (Nat.succ_ne_zero _)
  | registered later first willing =>
    obtain ⟨none, only⟩ := sound.first first
    -- A close on the way back would come from an end that refuses.
    have quiet : channel.toOpener = 0 := by
      by_contra some
      have refusing := (sound.returning (Nat.pos_of_ne_zero some)).2 (Or.inr (by simp [first]))
      rw [willing] at refusing
      exact absurd refusing (by decide)
    have agree := sound.willing willing quiet
    rw [first, lands] at agree
    refine ⟨?_, ?_, fun inside => absurd inside only, fun _ _ => agree, ?_, ?_, ?_⟩
    · simp [none, List.count_eq_zero_of_not_mem only]
    · exact fun waits => absurd none (Nat.pos_iff_ne_zero.mp waits)
    · exact fun back => absurd quiet (Nat.pos_iff_ne_zero.mp back)
    · exact fun refusing => absurd (willing.symm.trans refusing) (by decide)
    · exact fun refusing => absurd (willing.symm.trans refusing) (by decide)
  | refused later first =>
    obtain ⟨none, only⟩ := sound.first first
    have away := sound.unopened (by simp [first])
    refine ⟨?_, ?_, fun _ => away, ?_, ?_, sound.refuses, ?_⟩
    · simp [none, List.count_eq_zero_of_not_mem only]
    · exact fun waits => absurd none (Nat.pos_iff_ne_zero.mp waits)
    · exact fun _ back => absurd back (Nat.succ_ne_zero _)
    · refine fun _ => ⟨away, ?_⟩
      rintro (waits | inside)
      · exact absurd none (Nat.pos_iff_ne_zero.mp waits)
      · exact absurd inside only
    · exact fun _ back => absurd back (Nat.succ_ne_zero _)
  | closeTaken later first =>
    -- The close is not an opening, so the openings on the way are those behind it.
    have same : Notice.opens ∈ channel.toAnswerer ↔ Notice.opens ∈ later := by simp [first]
    refine ⟨?_, fun waits => ⟨(sound.unannounced waits).1, rfl⟩, fun _ => rfl, ?_, ?_,
      fun _ => rfl, ?_⟩
    · simpa [first] using sound.once
    · intro willing quiet
      have agree := sound.willing willing quiet
      rwa [first, lands] at agree
    · exact fun back => ⟨rfl, by simpa only [same] using (sound.returning back).2⟩
    · simpa only [same] using sound.told
  | closeReturned others back =>
    obtain ⟨away, refusing⟩ := sound.returning (back ▸ Nat.succ_pos _)
    refine ⟨sound.once, fun waits => ⟨rfl, (sound.unannounced waits).2⟩, sound.unopened, ?_, ?_,
      sound.refuses, fun _ _ => Or.inr rfl⟩
    · intro willing _
      -- An opening on the way would be refused, and this end is willing.
      have none : Notice.opens ∉ channel.toAnswerer := fun inside => by
        have refused := refusing (Or.inr inside)
        rw [willing] at refused
        exact absurd refused (by decide)
      rw [away, lands_without_opening none]
    · exact fun _ => ⟨away, refusing⟩

/-- A number under which nothing waits is not opened by a move. -/
theorem Moves.unopened (moved : Moves channel next) (waiting : channel.waiting = 0)
    (closed : channel.opener = false) : next.waiting = 0 ∧ next.opener = false := by
  cases moved with
  | announced others waits => exact absurd (waiting.symm.trans waits) (Nat.succ_ne_zero others).symm
  | withdrawn others waits => exact absurd (waiting.symm.trans waits) (Nat.succ_ne_zero others).symm
  | closedByOpener => exact ⟨waiting, rfl⟩
  | closeReturned => exact ⟨waiting, rfl⟩
  | _ => exact ⟨waiting, closed⟩

/-- Once nothing waits and nothing is on the way, both ends have the channel or neither has. -/
theorem Sound.agree (sound : channel.Sound) (announced : channel.toAnswerer = [])
    (returned : channel.toOpener = 0) : channel.opener = channel.answerer := by
  cases refusing : channel.refusing with
  | false =>
    have agree := sound.willing refusing returned
    rwa [announced, lands] at agree
  | true =>
    rcases sound.told refusing returned with inside | closed
    · rw [announced] at inside
      simp at inside
    · rw [closed, sound.refuses refusing]

end Handshake

end Gritty
