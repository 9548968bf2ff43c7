import Gritty.Lib.SlidingWindow
import Gritty.Relay.AgentIdle

/-! How often the server can use a client, in every window of time and over every reconnect. -/

namespace Gritty

namespace RateLimiter

def new (maxCount window : Nat) : RateLimiter := { timestamps := [], maxCount, window }

/-- One check after the other, each with its time and its answer. -/
def checks (limiter : RateLimiter) : List Nat → RateLimiter × List (Nat × Bool)
  | [] => (limiter, [])
  | now :: later =>
    let (next, allowed) := limiter.check now
    let (last, rest) := next.checks later
    (last, (now, allowed) :: rest)

/-- What was asked of a limiter, the answers, and what it keeps of them, are as its limit says. -/
structure Limits (maxCount window : Nat) (calls : List (Nat × Bool)) (limiter : RateLimiter) :
    Prop where
  /-- No interval of at most the window's length has more calls that were allowed than the limit. -/
  never : NeverMore maxCount window (grantedTimes calls)
  /-- Before a call that was refused, as many as the limit were allowed within the window. -/
  refused : ∀ before now after, calls = before ++ (now, false) :: after →
    maxCount ≤ countWithin (grantedTimes before) (now - window) now
  /-- Had a call that was refused not been made, all others would have been answered alike. -/
  free : ∀ before now after, calls = before ++ (now, false) :: after →
    ((new maxCount window).checks ((before ++ after).map (·.1))).2 = before ++ after
  stored : limiter.timestamps.length ≤ maxCount

/-- The limiter keeps the times of the allowed calls that were recent at its last check. -/
structure Remembers (limiter : RateLimiter) (granted : List Nat) (last : Nat) : Prop where
  kept : limiter.timestamps = recent limiter.window granted last
  ordered : granted.Pairwise (· ≤ ·)
  past : ∀ time ∈ granted, time ≤ last

/-- From the front of ordered times, those are dropped that are not recent. -/
theorem dropWhile_ordered {times : List Nat} (ordered : times.Pairwise (· ≤ ·)) (window now : Nat) :
    (times.dropWhile fun stamp => decide (window < now - stamp)) = recent window times now := by
  induction times with
  | nil => rfl
  | cons stamp later ih =>
    obtain ⟨least, rest⟩ := List.pairwise_cons.mp ordered
    unfold recent at ih ⊢
    by_cases old : window < now - stamp
    -- The front is too old, and both sides leave it out.
    · have gone : ¬ now ≤ stamp + window := by omega
      rw [List.dropWhile_cons, if_pos (decide_eq_true old), ih rest,
        List.filter_cons_of_neg (by simpa using gone)]
    · -- All later ones are recent, too.
      have all : ∀ time ∈ stamp :: later, decide (now ≤ time + window) = true := by
        refine List.forall_mem_cons.mpr ⟨decide_eq_true (by omega), fun time among => ?_⟩
        have after := least time among
        exact decide_eq_true (by omega)
      rw [List.dropWhile_cons, if_neg (by simpa using old), List.filter_eq_self.mpr all]

/-- What is recent now was recent before. -/
theorem recent_recent {window last now : Nat} (later : last ≤ now) (times : List Nat) :
    recent window (recent window times last) now = recent window times now := by
  unfold recent
  rw [List.filter_filter]
  refine List.filter_congr fun time _ => ?_
  have implied : now ≤ time + window → last ≤ time + window := Nat.le_trans later
  simpa using implied

/-- A check at a later time allows a call if fewer than the limit are recent. -/
theorem check_remembers {limiter : RateLimiter} {granted : List Nat} {last now : Nat}
    (remembers : limiter.Remembers granted last) (later : last ≤ now) :
    ((recent limiter.window granted now).length < limiter.maxCount ∧
        (limiter.check now).2 = true ∧ (limiter.check now).1.Remembers (granted ++ [now]) now) ∨
      (¬ (recent limiter.window granted now).length < limiter.maxCount ∧
        (limiter.check now).2 = false ∧ (limiter.check now).1.Remembers granted now) := by
  -- The queue is a part of the granted times, so it is ordered as they are.
  have ordered : limiter.timestamps.Pairwise (· ≤ ·) := by
    rw [remembers.kept]
    exact remembers.ordered.filter _
  have pruned : (limiter.timestamps.dropWhile fun stamp => decide (limiter.window < now - stamp)) =
      recent limiter.window granted now := by
    rw [dropWhile_ordered ordered, remembers.kept, recent_recent later]
  have past : ∀ time ∈ granted, time ≤ now :=
    fun time among => Nat.le_trans (remembers.past time among) later
  unfold check
  dsimp only
  rw [pruned]
  by_cases full : limiter.maxCount ≤ (recent limiter.window granted now).length
  -- There is no room: only what is too old is dropped.
  · rw [if_pos full]
    exact Or.inr ⟨Nat.not_lt.mpr full, rfl, rfl, remembers.ordered, past⟩
  · rw [if_neg full]
    refine Or.inl ⟨Nat.lt_of_not_le full, rfl, ?_, ?_, ?_⟩
    -- The new call is recent now.
    · have here : recent limiter.window [now] now = [now] := by simp [recent]
      show _ = recent limiter.window (granted ++ [now]) now
      unfold recent at here ⊢
      rw [List.filter_append, here]
    -- It is not before any other one.
    · exact List.pairwise_append.mpr ⟨remembers.ordered, List.pairwise_singleton ..,
        fun time among other is => by rw [List.mem_singleton.mp is]; exact past time among⟩
    · exact List.forall_mem_append.mpr ⟨past, List.forall_mem_singleton.mpr (Nat.le_refl now)⟩

theorem check_same (limiter : RateLimiter) (now : Nat) :
    (limiter.check now).1.maxCount = limiter.maxCount ∧
      (limiter.check now).1.window = limiter.window := by
  unfold check
  dsimp only
  split <;> exact ⟨rfl, rfl⟩

/-- A check stores no more than the limit. -/
theorem check_stored {limiter : RateLimiter} (stored : limiter.timestamps.length ≤ limiter.maxCount)
    (now : Nat) : (limiter.check now).1.timestamps.length ≤ limiter.maxCount := by
  have fewer := List.Sublist.length_le
    (List.dropWhile_sublist (fun stamp => decide (limiter.window < now - stamp))
      (l := limiter.timestamps))
  unfold check
  dsimp only
  split
  · exact Nat.le_trans fewer stored
  -- There was room for one more.
  · next room =>
    rw [List.length_append, List.length_singleton]
    exact Nat.lt_of_not_le room

/-- Checks at times in order are decided by the calls that were allowed before. -/
theorem checks_eq {limiter : RateLimiter} {granted times : List Nat} {last : Nat}
    (remembers : limiter.Remembers granted last) (ordered : times.Pairwise (· ≤ ·))
    (later : ∀ time ∈ times, last ≤ time) :
    (limiter.checks times).2 = decisions limiter.maxCount limiter.window granted times := by
  induction times generalizing limiter granted last with
  | nil => rfl
  -- The induction follows the checks, with the times that were granted so far.
  | cons now times ih =>
    obtain ⟨least, rest⟩ := List.pairwise_cons.mp ordered
    obtain ⟨sameCount, sameWindow⟩ := limiter.check_same now
    rcases check_remembers remembers (later now List.mem_cons_self) with
      ⟨room, allowed, next⟩ | ⟨full, refused, next⟩
    · rw [decisions_granted room, ← sameCount, ← sameWindow, ← ih next rest least, ← allowed]
      rfl
    · rw [decisions_refused full, ← sameCount, ← sameWindow, ← ih next rest least, ← refused]
      rfl

/-- However often it is checked, a limiter stores no more times than it grants. -/
theorem checks_stored {limiter : RateLimiter}
    (stored : limiter.timestamps.length ≤ limiter.maxCount) (times : List Nat) :
    (limiter.checks times).1.timestamps.length ≤ limiter.maxCount := by
  induction times generalizing limiter with
  | nil => exact stored
  | cons now times ih =>
    -- Every check keeps the limit itself as it is.
    have next := check_stored stored now
    rw [← (limiter.check_same now).1] at next ⊢
    exact ih next

theorem new_remembers (maxCount window : Nat) : (new maxCount window).Remembers [] 0 :=
  ⟨rfl, .nil, fun _ none => absurd none List.not_mem_nil⟩

/-- Calls in the order of time keep to the limit. -/
theorem checks_limits (maxCount window : Nat) {times : List Nat} (ordered : times.Pairwise (· ≤ ·)) :
    Limits maxCount window ((new maxCount window).checks times).2
      ((new maxCount window).checks times).1 := by
  -- Once the answers are decisions, the limits are those of the sliding window.
  have decided {times : List Nat} (ordered : times.Pairwise (· ≤ ·)) :
      ((new maxCount window).checks times).2 = decisions maxCount window [] times :=
    checks_eq (new_remembers maxCount window) ordered fun _ _ => Nat.zero_le _
  rw [decided ordered]
  have never : NeverMore maxCount window [] := fun _ _ _ => Nat.zero_le _
  refine ⟨decisions_neverMore never times, ?_, ?_, checks_stored (Nat.zero_le _) times⟩
  · intro before now after split
    have full := refused_full split
    -- The calls before this one are not in its future.
    have inOrder : (before.map (·.1) ++ now :: after.map (·.1)).Pairwise (· ≤ ·) := by
      have all : (decisions maxCount window [] times).map (·.1) = times := decisions_times [] times
      rw [split, List.map_append] at all
      exact all ▸ ordered
    rw [List.nil_append] at full
    -- A call that is recent and not in the future is within the window.
    refine Nat.le_trans full ?_
    unfold recent countWithin
    rw [← List.countP_eq_length_filter]
    refine List.countP_mono_left fun time among within => ?_
    obtain ⟨call, allowed, rfl⟩ := List.mem_map.mp among
    have earlier : call.1 ≤ now := (List.pairwise_append.mp inOrder).2.2 call.1
      (List.mem_map_of_mem (List.mem_of_mem_filter allowed)) now List.mem_cons_self
    have recently := of_decide_eq_true within
    exact decide_eq_true ⟨by omega, earlier⟩
  -- The calls without this one are still in order.
  · intro before now after split
    have inOrder : ((before ++ after).map (·.1)).Pairwise (· ≤ ·) := by
      have all : (decisions maxCount window [] times).map (·.1) = times := decisions_times [] times
      rw [split] at all
      rw [← all] at ordered
      refine ordered.sublist (List.Sublist.map _ ?_)
      exact List.Sublist.append_left (List.sublist_cons_self _ _) before
    rw [decided inOrder]
    exact decisions_erase_refused split

end RateLimiter

end Gritty
