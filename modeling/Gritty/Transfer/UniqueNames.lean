import Gritty.Transfer.Manifest
import Gritty.Transfer.WireNames

/-! The disambiguation of wire names, by rounds that prepend parent directories. -/

namespace Gritty

/-- The entries to send, and what became of the others and of their names. -/
structure Uniquified where
  entries : List SendEntry
  /-- The disk path and the new name of every entry whose name changed. -/
  renames : List (Bytes × String)
  /-- The dropped and the kept spelling of every file that was named twice. -/
  dropped : List (Bytes × Bytes)
  deriving DecidableEq

/-- The texts in front of each separator of a text. -/
def prefixesBefore : List Char → List (List Char)
  | [] => []
  | char :: rest => (if char = '/' then [[]] else []) ++ (prefixesBefore rest).map (char :: ·)

/-- Directory prefixes of a wire name. -/
def dirPrefixes (name : String) : List String :=
  (prefixesBefore name.toList).map String.ofList

/-- Two names are equal, or one names a directory of another. -/
def namesConflict (names : List String) : Bool :=
  !decide names.Nodup || names.any fun name => (dirPrefixes name).any (· ∈ names)

/-- An entry on its way to a name of its own. -/
structure Work where
  entry : SendEntry
  origName : String
  /-- The trailing names of the disk path, as text. -/
  avail : List String
  /-- How many of them the wire name is made of. -/
  used : Nat
  deriving DecidableEq

/-- A name component as text. -/
def Component.text : Component → Option String
  | .normal name => some (toStringLossy name)
  | _ => none

/-- The trailing run of names of a path, as text. -/
def trailingNames (path : Bytes) : List String :=
  (((components path).reverse.takeWhile Component.isNormal).filterMap Component.text).reverse

namespace Work

def new (entry : SendEntry) : Work where
  entry := entry
  origName := entry.name
  avail := trailingNames entry.path
  used := (entry.name.toList.splitOn '/').length

/-- There is a parent directory left to prepend. -/
def extendable (work : Work) : Bool := work.used < work.avail.length

/-- Prepend the next parent directory to the wire name. -/
def extend (work : Work) : Work :=
  let used := work.used + 1
  { work with
    used
    entry := { work.entry with name := joinNames (work.avail.drop (work.avail.length - used)) } }

end Work

/-- An entry in progress and its position. -/
abbrev Member := Work × Nat

/-- The entries that bear a name. -/
def named (work : List Work) (name : String) : List Member :=
  work.zipIdx.filter fun member => member.1.entry.name = name

/-- Entries sharing a wire name. The source takes these groups in the order of a hash map. -/
def eqGroups (work : List Work) : List (List Member) :=
  ((work.map (·.entry.name)).eraseDups.map (named work)).filter fun group => 1 < group.length

/-- The owners of a directory prefix of a name, and the entry that bears the name. -/
def prefixGroups (work : List Work) : List (List Member) :=
  work.zipIdx.flatMap fun member =>
    (dirPrefixes member.1.entry.name).filterMap fun dir =>
      match named work dir with
      | [] => none
      | owners => some (owners ++ [member])

variable (canonicalize : Bytes → Option Bytes)

/-- Separate the members of a group from the second spellings of files that were kept before. -/
def splitTwins : List Member → List Member → List Member × List (Member × Member)
  | kept, [] => (kept, [])
  | kept, member :: rest =>
    let twin := (canonicalize member.1.entry.path).bind fun real =>
      kept.find? fun other => canonicalize other.1.entry.path = some real
    match twin with
    | some other =>
      let (all, twins) := splitTwins kept rest
      (all, (member, other) :: twins)
    | none => splitTwins (kept ++ [member]) rest

/-- What one round decided. -/
structure Round where
  toExtend : List Nat
  drop : List Nat
  dropped : List (Bytes × Bytes)

/-- The complaint about distinct files that share a name for good. -/
def duplicateName (kept : List Member) : String :=
  let name := (kept.head?.map (·.1.entry.name)).getD ""
  let list := ", ".intercalate (kept.map fun member => toStringLossy member.1.entry.path)
  s!"duplicate file name `{name}` ({list}): the receiver would overwrite it -- " ++
    "rename a file or send them in separate transfers"

/-- The complaint about a file that is named like a directory of another one. -/
def nameCollision (live : List Member) : String :=
  let list := ", ".intercalate (live.map fun member =>
    s!"`{member.1.entry.name}` ({toStringLossy member.1.entry.path})")
  s!"file/directory name collision: {list} -- " ++
    "rename a file or send them in separate transfers"

/-- Extend all members that can be extended. A group without any is a failure. -/
def Round.extendAll (round : Round) (members : List Member) (complaint : String) :
    Except String Round :=
  let extendable := members.filter (·.1.extendable)
  if extendable.isEmpty then .error complaint
  else .ok { round with toExtend := round.toExtend ++ extendable.map (·.2) }

/-- Settle a group that shares a name: drop second spellings, extend the others. -/
def resolveEqual (round : Round) (group : List Member) : Except String Round :=
  let (kept, twins) := splitTwins canonicalize [] group
  let round := { round with
    drop := round.drop ++ twins.map (·.1.2)
    dropped := round.dropped ++ twins.map fun (member, other) =>
      (member.1.entry.path, other.1.entry.path) }
  if kept.length < 2 then .ok round
  else round.extendAll kept (duplicateName kept)

/-- Settle a group of a file and directories of its name. -/
def resolvePrefix (round : Round) (group : List Member) : Except String Round :=
  let live := group.filter fun member => member.2 ∉ round.drop
  if live.length < 2 then .ok round
  else round.extendAll live (nameCollision live)

/-- One round over all groups. -/
def runRound (work : List Work) : Except String Round := do
  let round ← (eqGroups work).foldlM (resolveEqual canonicalize) ⟨[], [], []⟩
  (prefixGroups work).foldlM resolvePrefix round

/-- One round that comes to the groups of one name in some order, as a hash map gives them. -/
def runRoundIn (groups : List (List Member)) (work : List Work) : Except String Round := do
  let round ← groups.foldlM (resolveEqual canonicalize) ⟨[], [], []⟩
  (prefixGroups work).foldlM resolvePrefix round

/-- The entries after a round. -/
def Round.apply (round : Round) (work : List Work) : List Work :=
  work.zipIdx.filterMap fun (entry, position) =>
    if position ∈ round.drop then none
    else some (if position ∈ round.toExtend then entry.extend else entry)

/-! ### What a round does -/

/-- What every successful turn of a fold keeps, the fold keeps. -/
theorem foldlM_keeps {α σ : Type} {turn : σ → α → Except String σ} (Inv : σ → Prop)
    {values : List α} {start last : σ}
    (keeps : ∀ state next, ∀ value ∈ values, turn state value = .ok next → Inv state → Inv next)
    (ran : values.foldlM turn start = .ok last) (inv : Inv start) : Inv last := by
  induction values generalizing start with
  | nil =>
    cases ran
    exact inv
  | cons value others ih =>
    rw [List.foldlM_cons] at ran
    cases first : turn start value with
    | error message =>
      rw [first] at ran
      cases ran
    | ok next =>
      rw [first] at ran
      apply ih (fun state next' other among => keeps state next' other
        (List.mem_cons_of_mem value among)) ran
      exact keeps start next value List.mem_cons_self first inv

/-- What every successful turn of a fold brings about, a fold of some turns brings about. -/
theorem foldlM_reaches {α σ : Type} {turn : σ → α → Except String σ} (Inv Goal : σ → Prop)
    {values : List α} {start last : σ}
    (turns : ∀ state next, ∀ value ∈ values, turn state value = .ok next →
      Inv state → Inv next ∧ Goal next)
    (some_ : values ≠ []) (ran : values.foldlM turn start = .ok last) (inv : Inv start) :
    Goal last := by
  induction values generalizing start with
  | nil => exact absurd rfl some_
  | cons first others ih =>
    rw [List.foldlM_cons] at ran
    cases turned : turn start first with
    | error message =>
      rw [turned] at ran
      cases ran
    | ok next =>
      rw [turned] at ran
      obtain ⟨kept, reached⟩ := turns start next first List.mem_cons_self turned inv
      -- The goal of the last turn is the goal of the fold.
      by_cases more : others = []
      · subst more
        cases ran
        exact reached
      · exact ih (fun state next' other among => turns state next' other
          (List.mem_cons_of_mem first among)) more ran kept

variable {canonicalize} {work : List Work}

/-- The members of a group stand in the work list. -/
theorem mem_of_mem_named {name : String} {member : Member} (among : member ∈ named work name) :
    member ∈ work.zipIdx := List.mem_of_mem_filter among

theorem mem_of_mem_eqGroups {group : List Member} {member : Member} (found : group ∈ eqGroups work)
    (among : member ∈ group) : member ∈ work.zipIdx := by
  obtain ⟨name, -, rfl⟩ := List.mem_map.mp (List.mem_of_mem_filter found)
  exact mem_of_mem_named among

/-- A member of a group with a common front is one of the items. -/
theorem mem_of_mem_prefixGroups {group : List Member} {member : Member}
    (found : group ∈ prefixGroups work) (among : member ∈ group) : member ∈ work.zipIdx := by
  obtain ⟨owner, there, found⟩ := List.mem_flatMap.mp found
  obtain ⟨dir, -, shaped⟩ := List.mem_filterMap.mp found
  cases owners : named work dir with
  | nil =>
    rw [owners] at shaped
    cases shaped
  | cons first others =>
    rw [owners] at shaped
    cases shaped
    rcases List.mem_append.mp among with old | new
    · have among : member ∈ named work dir := by
        rw [owners]
        exact old
      exact mem_of_mem_named among
    · rw [List.mem_singleton.mp new]
      exact there

/-- A group has at least two members. -/
theorem two_of_mem_eqGroups {group : List Member} (found : group ∈ eqGroups work) :
    2 ≤ group.length := by
  have large := (List.mem_filter.mp found).2
  exact of_decide_eq_true large

/-- A group with a common front has two members at least. -/
theorem two_of_mem_prefixGroups {group : List Member} (found : group ∈ prefixGroups work) :
    2 ≤ group.length := by
  obtain ⟨owner, -, found⟩ := List.mem_flatMap.mp found
  obtain ⟨dir, -, shaped⟩ := List.mem_filterMap.mp found
  cases owners : named work dir with
  | nil =>
    rw [owners] at shaped
    cases shaped
  | cons first others =>
    rw [owners] at shaped
    cases shaped
    simp

/-- Splitting keeps or drops every member of the group. -/
theorem splitTwins_length (canonicalize : Bytes → Option Bytes) (kept group : List Member) :
    (splitTwins canonicalize kept group).1.length + (splitTwins canonicalize kept group).2.length =
      kept.length + group.length := by
  induction group generalizing kept with
  | nil => simp [splitTwins]
  | cons member rest ih =>
    unfold splitTwins
    dsimp only
    split
    · have counted := ih kept
      simp only [List.length_cons]
      omega
    · have counted := ih (kept ++ [member])
      rw [List.length_append, List.length_singleton] at counted
      rw [List.length_cons]
      omega

/-- What is kept after a group was split comes from what was kept before, or from the group. -/
theorem splitTwins_kept {kept group : List Member} {member : Member}
    (among : member ∈ (splitTwins canonicalize kept group).1) : member ∈ kept ∨ member ∈ group := by
  induction group generalizing kept with
  | nil => exact Or.inl among
  | cons first rest ih =>
    unfold splitTwins at among
    dsimp only at among
    split at among
    · exact (ih among).imp_right (List.mem_cons_of_mem first)
    · rcases ih among with before | later
      · rcases List.mem_append.mp before with old | new
        · exact Or.inl old
        · rw [List.mem_singleton.mp new]
          exact Or.inr List.mem_cons_self
      · exact Or.inr (List.mem_cons_of_mem first later)

/-- A twin that is found is of the group. -/
theorem splitTwins_twins {kept group : List Member} {twin : Member × Member}
    (among : twin ∈ (splitTwins canonicalize kept group).2) : twin.1 ∈ group := by
  induction group generalizing kept with
  | nil => exact absurd among List.not_mem_nil
  | cons first rest ih =>
    unfold splitTwins at among
    dsimp only at among
    split at among
    · rcases List.mem_cons.mp among with rfl | later
      · exact List.mem_cons_self
      · exact List.mem_cons_of_mem first (ih later)
    · exact List.mem_cons_of_mem first (ih among)

/-- The first member of a group is kept. -/
theorem splitTwins_first {first : Member} {rest : List Member} {twin : Member × Member}
    (among : twin ∈ (splitTwins canonicalize [] (first :: rest)).2) : twin.1 ∈ rest := by
  -- Nothing was kept before it that it could be a second spelling of.
  have noTwin : (canonicalize first.1.entry.path).bind (fun real =>
      ([] : List Member).find? fun other => canonicalize other.1.entry.path = some real) = none := by
    cases canonicalize first.1.entry.path <;> rfl
  unfold splitTwins at among
  dsimp only at among
  rw [noTwin] at among
  exact splitTwins_twins among

/-- What the decisions of a round rest on. -/
structure Round.Sound (round : Round) (work : List Work) : Prop where
  extendable : ∀ position ∈ round.toExtend,
    ∃ entry : Work, (entry, position) ∈ work.zipIdx ∧ entry.extendable = true
  dropped : ∀ position ∈ round.drop, ∃ entry : Work, (entry, position) ∈ work.zipIdx
  /-- The first entry is never a second spelling. -/
  first : 0 ∉ round.drop

/-- A round that decided something. -/
def Round.Decided (round : Round) : Prop := round.drop ≠ [] ∨ round.toExtend ≠ []

/-- Extending all members of a group keeps the round sound, and decides something. -/
theorem extendAll_sound {round next : Round} {members : List Member} {complaint : String}
    (sound : round.Sound work) (placed : ∀ member ∈ members, member ∈ work.zipIdx)
    (ran : round.extendAll members complaint = .ok next) : next.Sound work ∧ next.Decided := by
  unfold Round.extendAll at ran
  dsimp only at ran
  split at ran
  · cases ran
  · next some_ =>
    cases ran
    refine ⟨⟨?_, sound.dropped, sound.first⟩, Or.inr ?_⟩
    · intro position among
      rcases List.mem_append.mp among with before | now
      · exact sound.extendable position before
      · obtain ⟨member, chosen, rfl⟩ := List.mem_map.mp now
        obtain ⟨there, room⟩ := List.mem_filter.mp chosen
        exact ⟨member.1, placed member there, room⟩
    · intro none_
      have blank := (List.append_eq_nil_iff.mp none_).2
      rw [List.map_eq_nil_iff] at blank
      rw [blank] at some_
      exact some_ rfl

/-- Positions in a group grow, so that only its first member can stand first in the list. -/
theorem rest_not_first {name : String} {first : Member} {rest : List Member}
    (group : named work name = first :: rest) {member : Member} (among : member ∈ rest) :
    member.2 ≠ 0 := by
  have ordered : (named work name).Pairwise fun one other => one.2 < other.2 := by
    apply List.Pairwise.filter
    have positions : (work.zipIdx.map Prod.snd).Pairwise (· < ·) := by
      rw [List.zipIdx_map_snd]
      exact List.pairwise_lt_range' ..
    exact List.pairwise_map.mp positions
  rw [group, List.pairwise_cons] at ordered
  have later := ordered.1 member among
  omega

/-- Resolving a group of equal names keeps the round sound, and decides something. -/
theorem resolveEqual_sound {round next : Round} {group : List Member} (found : group ∈ eqGroups work)
    (sound : round.Sound work) (ran : resolveEqual canonicalize round group = .ok next) :
    next.Sound work ∧ next.Decided := by
  have placed : ∀ member ∈ group, member ∈ work.zipIdx :=
    fun member among => mem_of_mem_eqGroups found among
  have two := two_of_mem_eqGroups found
  have counted := splitTwins_length canonicalize [] group
  have keptPlaced : ∀ member ∈ (splitTwins canonicalize [] group).1, member ∈ work.zipIdx := by
    intro member among
    rcases splitTwins_kept among with none_ | there
    · exact absurd none_ List.not_mem_nil
    · exact placed member there
  -- The round after the second spellings are dropped.
  have soundDropped : ({ round with
      drop := round.drop ++ (splitTwins canonicalize [] group).2.map (·.1.2)
      dropped := round.dropped ++ (splitTwins canonicalize [] group).2.map fun (member, other) =>
        (member.1.entry.path, other.1.entry.path) } : Round).Sound work := by
    refine ⟨sound.extendable, ?_, ?_⟩
    · intro position among
      rcases List.mem_append.mp among with before | now
      · exact sound.dropped position before
      · obtain ⟨twin, there, rfl⟩ := List.mem_map.mp now
        exact ⟨twin.1.1, placed twin.1 (splitTwins_twins there)⟩
    · intro among
      rcases List.mem_append.mp among with before | now
      · exact sound.first before
      · obtain ⟨twin, there, zero⟩ := List.mem_map.mp now
        obtain ⟨name, -, same⟩ := List.mem_map.mp (List.mem_of_mem_filter found)
        cases shape : group with
        | nil =>
          rw [shape] at two
          exact absurd two (by decide)
        | cons first rest =>
          rw [shape] at there same
          exact rest_not_first same (splitTwins_first there) zero
  unfold resolveEqual at ran
  dsimp only at ran
  split at ran
  · next few =>
    cases ran
    refine ⟨soundDropped, Or.inl ?_⟩
    -- A group of two that keeps fewer than two drops one.
    intro none_
    have blank := (List.append_eq_nil_iff.mp none_).2
    rw [List.map_eq_nil_iff] at blank
    rw [blank] at counted
    simp only [List.length_nil] at counted
    omega
  · exact extendAll_sound soundDropped keptPlaced ran

/-- Resolving a group with a common front keeps the round sound, and decides something. -/
theorem resolvePrefix_sound {round next : Round} {group : List Member}
    (found : group ∈ prefixGroups work) (sound : round.Sound work)
    (ran : resolvePrefix round group = .ok next) : next.Sound work ∧ next.Decided := by
  unfold resolvePrefix at ran
  dsimp only at ran
  split at ran
  · next few =>
    cases ran
    refine ⟨sound, Or.inl ?_⟩
    -- Members are missing only because they were dropped.
    intro none_
    have two := two_of_mem_prefixGroups found
    have all : (group.filter fun member => decide (member.2 ∉ round.drop)) = group := by
      rw [none_]
      simp
    rw [all] at few
    omega
  · apply extendAll_sound sound _ ran
    intro member among
    exact mem_of_mem_prefixGroups found (List.mem_of_mem_filter among)

theorem sound_start : (⟨[], [], []⟩ : Round).Sound work := by
  constructor <;> simp

/-- A round keeps its decisions sound, and decides something when there is a group to settle. -/
theorem runRoundIn_sound {groups : List (List Member)} (perm : groups.Perm (eqGroups work))
    {round : Round} (ran : runRoundIn canonicalize groups work = .ok round) :
    round.Sound work ∧ ((eqGroups work ≠ [] ∨ prefixGroups work ≠ []) → round.Decided) := by
  unfold runRoundIn at ran
  cases equal : groups.foldlM (resolveEqual canonicalize) ⟨[], [], []⟩ with
  | error message =>
    rw [equal] at ran
    cases ran
  | ok middle =>
    rw [equal] at ran
    have equalTurns : ∀ state next, ∀ group ∈ groups,
        resolveEqual canonicalize state group = .ok next → state.Sound work →
          next.Sound work ∧ next.Decided :=
      fun state next group found turned sound =>
        resolveEqual_sound (perm.mem_iff.mp found) sound turned
    have afterEqual : middle.Sound work := by
      refine foldlM_keeps (Round.Sound · work) ?_ equal sound_start
      intro state next group found turned sound
      exact (equalTurns state next group found turned sound).1
    -- The second kind of groups keeps what the first kind decided.
    have prefixTurns : ∀ state next, ∀ group ∈ prefixGroups work,
        resolvePrefix state group = .ok next → state.Sound work →
          next.Sound work ∧ next.Decided :=
      fun state next group found turned sound => resolvePrefix_sound found sound turned
    have afterPrefix : round.Sound work := by
      refine foldlM_keeps (Round.Sound · work) ?_ ran afterEqual
      intro state next group found turned sound
      exact (prefixTurns state next group found turned sound).1
    refine ⟨afterPrefix, ?_⟩
    intro some_
    by_cases more : prefixGroups work = []
    · rw [more] at ran
      cases ran
      rcases some_ with equals | prefixes
      · have some_ : groups ≠ [] := fun empty => equals (List.nil_perm.mp (empty ▸ perm))
        exact foldlM_reaches (Round.Sound · work) Round.Decided equalTurns some_ equal sound_start
      · exact absurd more prefixes
    · exact foldlM_reaches (Round.Sound · work) Round.Decided prefixTurns more ran afterEqual

/-- A round in the order of the names is one of them. -/
theorem runRound_sound {round : Round} (ran : runRound canonicalize work = .ok round) :
    round.Sound work ∧ ((eqGroups work ≠ [] ∨ prefixGroups work ≠ []) → round.Decided) :=
  runRoundIn_sound (List.Perm.refl _) ran

/-! ### Rounds until no names conflict -/

/-- How much is left of an entry: the entry itself and the directories it can still prepend. -/
def Work.size (work : Work) : Nat := 1 + (work.avail.length - work.used)

/-- How much is left of all entries. -/
def totalSize (work : List Work) : Nat := (work.map Work.size).sum

/-- What a round leaves of one entry. -/
def Round.sizeOf (round : Round) (member : Member) : Nat :=
  if member.2 ∈ round.drop then 0
  else if member.2 ∈ round.toExtend then member.1.extend.size else member.1.size

/-- The size after a round is that of what the round makes of each item. -/
theorem totalSize_apply (round : Round) (work : List Work) :
    totalSize (round.apply work) = (work.zipIdx.map round.sizeOf).sum := by
  unfold totalSize Round.apply
  induction work.zipIdx with
  | nil => rfl
  | cons member others ih =>
    obtain ⟨entry, position⟩ := member
    rw [List.filterMap_cons, List.map_cons, List.sum_cons, ← ih, Round.sizeOf]
    dsimp only
    split_ifs <;> simp

theorem totalSize_eq (work : List Work) :
    totalSize work = (work.zipIdx.map fun member => member.1.size).sum := by
  have entries : work.zipIdx.map (Work.size ∘ Prod.fst) = work.map Work.size := by
    rw [← List.map_map, List.zipIdx_map_fst]
  rw [totalSize, ← entries]
  rfl

/-- Every round that decides something leaves less. -/
theorem round_decreases {round : Round} (sound : round.Sound work) (decided : round.Decided) :
    totalSize (round.apply work) < totalSize work := by
  rw [totalSize_apply, totalSize_eq]
  have extended : ∀ entry : Work, entry.extend.size ≤ entry.size := by
    intro entry
    simp only [Work.extend, Work.size]
    omega
  apply List.sum_lt_sum
  · intro member _
    unfold Round.sizeOf
    split_ifs
    · exact Nat.zero_le _
    · exact extended member.1
    · exact Nat.le_refl _
  · by_cases drops : round.drop = []
    · -- Some entry was extended.
      have extends_ : round.toExtend ≠ [] := decided.resolve_left fun some_ => some_ drops
      obtain ⟨position, others, shape⟩ := List.exists_cons_of_ne_nil extends_
      have chosen : position ∈ round.toExtend := by
        rw [shape]
        exact List.mem_cons_self
      obtain ⟨entry, there, room⟩ := sound.extendable position chosen
      refine ⟨(entry, position), there, ?_⟩
      have less : entry.used < entry.avail.length := of_decide_eq_true room
      rw [Round.sizeOf, if_neg (by simp [drops]), if_pos chosen]
      simp only [Work.extend, Work.size]
      omega
    · -- Some entry was dropped.
      obtain ⟨position, others, shape⟩ := List.exists_cons_of_ne_nil drops
      have chosen : position ∈ round.drop := by
        rw [shape]
        exact List.mem_cons_self
      obtain ⟨entry, there⟩ := sound.dropped position chosen
      refine ⟨(entry, position), there, ?_⟩
      rw [Round.sizeOf, if_pos chosen]
      simp only [Work.size]
      omega

/-- The result of the rounds. -/
def finish (work : List Work) (dropped : List (Bytes × Bytes)) : Uniquified where
  entries := work.map (·.entry)
  renames := (work.filter fun entry => entry.entry.name ≠ entry.origName).map fun entry =>
    (entry.entry.path, entry.entry.name)
  dropped := dropped

/-- Rounds until there is no group left to settle. -/
def uniquifyLoop (canonicalize : Bytes → Option Bytes) (work : List Work)
    (dropped : List (Bytes × Bytes)) : Except String Uniquified :=
  if _ : eqGroups work = [] ∧ prefixGroups work = [] then .ok (finish work dropped)
  else match _ : runRound canonicalize work with
    | .error message => .error message
    | .ok round => uniquifyLoop canonicalize (round.apply work) (dropped ++ round.dropped)
termination_by totalSize work
decreasing_by
  obtain ⟨sound, decided⟩ := runRound_sound ‹runRound canonicalize work = .ok _›
  apply round_decreases sound
  apply decided
  exact not_and_or.mp ‹¬(eqGroups work = [] ∧ prefixGroups work = [])›

/-- Resolve conflicts of wire names by each name's shortest unique path suffix. -/
def uniquifyWireNames (canonicalize : Bytes → Option Bytes) (entries : List SendEntry) :
    Except String Uniquified :=
  if namesConflict (entries.map (·.name)) then
    uniquifyLoop canonicalize (entries.map Work.new) []
  else .ok { entries, renames := [], dropped := [] }

/-- What every round keeps holds of the entries that the loop ends with. -/
theorem uniquifyLoop_keeps (Inv : List Work → Prop)
    (keeps : ∀ (work : List Work) (round : Round), round.Sound work → Inv work →
      Inv (round.apply work))
    {dropped : List (Bytes × Bytes)} {uniq : Uniquified} (inv : Inv work)
    (ran : uniquifyLoop canonicalize work dropped = .ok uniq) :
    ∃ last, Inv last ∧ uniq.entries = last.map (·.entry) := by
  induction work, dropped using uniquifyLoop.induct canonicalize with
  | case1 work dropped settled =>
    unfold uniquifyLoop at ran
    rw [dif_pos settled] at ran
    cases ran
    exact ⟨work, inv, rfl⟩
  | case2 work dropped unsettled message failed =>
    unfold uniquifyLoop at ran
    rw [dif_neg unsettled] at ran
    split at ran
    · cases ran
    · next other =>
      rw [failed] at other
      cases other
  | case3 work dropped unsettled round settledRound ih =>
    unfold uniquifyLoop at ran
    rw [dif_neg unsettled] at ran
    split at ran
    · cases ran
    · next other =>
      rw [settledRound] at other
      obtain rfl := Except.ok.inj other
      exact ih (keeps work round (runRound_sound settledRound).1 inv) ran

/-! ### Every name stays a wire name -/

/-- The names of a path without NUL are plain. -/
theorem plain_text {path : Bytes} (noNul : 0 ∉ path) {component : Component} {part : String}
    (among : component ∈ components path) (text : component.text = some part) :
    PlainName part := by
  cases component with
  | rootDir => cases text
  | curDir => cases text
  | parentDir => cases text
  | normal name =>
    cases text
    obtain ⟨isName, bytes⟩ := isName_of_mem_components among
    exact plainName_toStringLossy isName fun nul => noNul (bytes 0 nul)

/-- The trailing names of a path without NUL are plain. -/
theorem plain_trailingNames {path : Bytes} (noNul : 0 ∉ path) :
    ∀ part ∈ trailingNames path, PlainName part := by
  intro part among
  obtain ⟨component, run, text⟩ := List.mem_filterMap.mp (List.mem_reverse.mp among)
  have there : component ∈ components path :=
    List.mem_reverse.mp ((List.takeWhile_sublist _).subset run)
  exact plain_text noNul there text

/-- An entry in progress whose names, old and new, are wire names. -/
structure Work.Named (work : Work) : Prop where
  name : WireName work.entry.name
  avail : ∀ part ∈ work.avail, PlainName part

/-- A name that is extended by its directory stays a name of its file. -/
theorem Work.Named.extend {work : Work} (named : work.Named) (room : work.extendable = true) :
    work.extend.Named where
  name := by
    have more : work.used < work.avail.length := of_decide_eq_true room
    refine ⟨work.avail.drop (work.avail.length - (work.used + 1)), ?_, ?_, rfl⟩
    · -- The names that are used now are at least one.
      intro none_
      have counted := congrArg List.length none_
      rw [List.length_drop, List.length_nil] at counted
      omega
    · exact fun part among => named.avail part (List.mem_of_mem_drop among)
  avail := named.avail

/-- A round never drops all entries, and keeps their names wire names. -/
theorem apply_named {round : Round} (sound : round.Sound work)
    (inv : work ≠ [] ∧ ∀ entry ∈ work, entry.Named) :
    round.apply work ≠ [] ∧ ∀ entry ∈ round.apply work, entry.Named := by
  obtain ⟨some_, named⟩ := inv
  constructor
  · -- The first entry stays.
    obtain ⟨first, rest, shape⟩ := List.exists_cons_of_ne_nil some_
    intro none_
    have placed : (first, 0) ∈ work.zipIdx := by
      rw [shape, List.zipIdx_cons]
      exact List.mem_cons_self
    have gone := List.filterMap_eq_nil_iff.mp none_ (first, 0) placed
    dsimp only at gone
    rw [if_neg sound.first] at gone
    cases gone
  · intro entry among
    obtain ⟨⟨before, position⟩, placed, became⟩ := List.mem_filterMap.mp among
    have there : before ∈ work := List.fst_mem_of_mem_zipIdx placed
    dsimp only at became
    split at became
    · cases became
    · cases became
      split
      · next chosen =>
        obtain ⟨other, otherPlaced, room⟩ := sound.extendable position chosen
        have same : other = before := by
          rw [List.mem_zipIdx_iff_getElem?] at placed otherPlaced
          rw [placed] at otherPlaced
          exact (Option.some.inj otherPlaced).symm
        rw [same] at room
        exact (named before there).extend room
      · exact named before there

/-- Names stay wire names, and something is left to send. -/
theorem uniquifyWireNames_named {canonicalize : Bytes → Option Bytes} {entries : List SendEntry}
    {uniq : Uniquified} (some_ : entries ≠ [])
    (named : ∀ entry ∈ entries, WireName entry.name ∧ 0 ∉ entry.path)
    (ran : uniquifyWireNames canonicalize entries = .ok uniq) :
    uniq.entries ≠ [] ∧ ∀ entry ∈ uniq.entries, WireName entry.name := by
  unfold uniquifyWireNames at ran
  split at ran
  · have start : entries.map Work.new ≠ [] ∧ ∀ entry ∈ entries.map Work.new, entry.Named := by
      refine ⟨by simpa using some_, ?_⟩
      intro work among
      obtain ⟨entry, there, rfl⟩ := List.mem_map.mp among
      exact ⟨(named entry there).1, plain_trailingNames (named entry there).2⟩
    obtain ⟨last, ⟨left, inv⟩, same⟩ := uniquifyLoop_keeps
      (fun work => work ≠ [] ∧ ∀ entry ∈ work, entry.Named)
      (fun work round sound inv => apply_named sound inv) start ran
    rw [same]
    refine ⟨by simpa using left, ?_⟩
    intro entry among
    obtain ⟨work, there, rfl⟩ := List.mem_map.mp among
    exact (inv work there).name
  · cases ran
    exact ⟨some_, fun entry among => (named entry among).1⟩

end Gritty
