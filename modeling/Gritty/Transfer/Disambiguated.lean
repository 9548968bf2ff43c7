import Gritty.Transfer.UniqueRounds
import Mathlib.Data.List.Forall2

/-! What the disambiguation of wire names does to the entries, and when it gives up. -/

namespace Gritty

/-! ### What one round drops -/

/-- The positions of the second spellings in a group. -/
def secondSpellings (canonicalize : Bytes → Option Bytes) (group : List Member) : List Nat :=
  (splitTwins canonicalize [] group).2.map (·.1.2)

section Round

variable {canonicalize : Bytes → Option Bytes} {work : List Work} {groups : List (List Member)}

/-- Extending entries drops none. -/
theorem extendAll_drop {round next : Round} {members : List Member} {complaint : String}
    (ran : round.extendAll members complaint = .ok next) : next.drop = round.drop := by
  unfold Round.extendAll at ran
  dsimp only at ran
  split at ran
  · cases ran
  · cases ran
    rfl

/-- A group of one name loses its second spellings. -/
theorem resolveEqual_drop {round next : Round} {group : List Member}
    (ran : resolveEqual canonicalize round group = .ok next) :
    next.drop = round.drop ++ secondSpellings canonicalize group := by
  unfold resolveEqual at ran
  dsimp only at ran
  split at ran
  · cases ran
    rfl
  · rw [extendAll_drop ran]
    rfl

/-- A group of a file and directories of its name loses nothing. -/
theorem resolvePrefix_drop {round next : Round} {group : List Member}
    (ran : resolvePrefix round group = .ok next) : next.drop = round.drop := by
  unfold resolvePrefix at ran
  dsimp only at ran
  split at ran
  · cases ran
    rfl
  · exact extendAll_drop ran

/-- The groups of one name lose their second spellings one after the other. -/
theorem foldlM_resolveEqual_drop {round next : Round}
    (ran : groups.foldlM (resolveEqual canonicalize) round = .ok next) :
    next.drop = round.drop ++ groups.flatMap (secondSpellings canonicalize) := by
  induction groups generalizing round with
  | nil =>
    cases ran
    simp
  | cons group later ih =>
    rw [List.foldlM_cons] at ran
    cases first : resolveEqual canonicalize round group with
    | error message =>
      rw [first] at ran
      cases ran
    | ok middle =>
      rw [first] at ran
      rw [ih ran, resolveEqual_drop first, List.flatMap_cons, List.append_assoc]

/-- A round drops the second spellings of all groups of one name. -/
theorem runRoundIn_drop {round : Round} (ran : runRoundIn canonicalize groups work = .ok round) :
    round.drop = groups.flatMap (secondSpellings canonicalize) := by
  unfold runRoundIn at ran
  cases equal : groups.foldlM (resolveEqual canonicalize) ⟨[], [], []⟩ with
  | error message =>
    rw [equal] at ran
    cases ran
  | ok middle =>
    rw [equal] at ran
    have dropped : middle.drop = groups.flatMap (secondSpellings canonicalize) := by
      rw [foldlM_resolveEqual_drop equal]
      rfl
    refine foldlM_keeps (fun round => round.drop = groups.flatMap (secondSpellings canonicalize))
      -- The groups below a file come later, and they drop nothing.
      ?_ ran dropped
    intro state next group _ turned kept
    rw [resolvePrefix_drop turned, kept]

/-- Splitting a group keeps or drops each member once. -/
theorem splitTwins_perm (canonicalize : Bytes → Option Bytes) (kept group : List Member) :
    ((splitTwins canonicalize kept group).1 ++
      (splitTwins canonicalize kept group).2.map Prod.fst).Perm (kept ++ group) := by
  induction group generalizing kept with
  | nil => simp [splitTwins]
  | cons member rest ih =>
    unfold splitTwins
    dsimp only
    split
    · simp only [List.map_cons]
      exact (List.perm_middle.trans ((ih kept).cons member)).trans List.perm_middle.symm
    · have later := ih (kept ++ [member])
      rwa [List.append_assoc, List.singleton_append] at later

/-- A second spelling is of the same file as a member that is kept. -/
theorem splitTwins_same {kept group : List Member} {twin : Member × Member}
    (among : twin ∈ (splitTwins canonicalize kept group).2) :
    twin.2 ∈ (splitTwins canonicalize kept group).1 ∧ ∃ real,
      canonicalize twin.1.1.entry.path = some real ∧ canonicalize twin.2.1.entry.path = some real := by
  -- What was kept so far stays kept.
  have stays : ∀ (kept group : List Member) {member : Member}, member ∈ kept →
      member ∈ (splitTwins canonicalize kept group).1 := by
    intro kept group
    induction group generalizing kept with
    | nil => exact fun there => there
    | cons first rest ih =>
      intro member there
      unfold splitTwins
      dsimp only
      split
      · exact ih kept there
      · exact ih _ (List.mem_append_left _ there)
  induction group generalizing kept with
  | nil => exact absurd among List.not_mem_nil
  | cons first rest ih =>
    unfold splitTwins at among ⊢
    cases found : (canonicalize first.1.entry.path).bind fun real =>
        kept.find? fun other => canonicalize other.1.entry.path = some real with
    | some other =>
      simp only [found] at among ⊢
      rcases List.mem_cons.mp among with rfl | later
      · obtain ⟨real, spelled, looked⟩ := Option.bind_eq_some_iff.mp found
        have same : canonicalize other.1.entry.path = some real := by
          simpa using List.find?_some looked
        exact ⟨stays kept rest (List.mem_of_find?_eq_some looked), real, spelled, same⟩
      · exact ih later
    | none =>
      simp only [found] at among ⊢
      exact ih among

/-- The positions of the entries tell them apart. -/
theorem member_eq {one other : Member} (here : one ∈ work.zipIdx) (there : other ∈ work.zipIdx)
    (same : one.2 = other.2) : one = other := by
  obtain ⟨entry, position⟩ := one
  obtain ⟨entry', position'⟩ := other
  obtain rfl : position = position' := same
  rw [List.mem_zipIdx_iff_getElem?] at here there
  rw [here] at there
  exact congrArg (·, position) (Option.some.inj there)

/-- The groups of one name have no member in common. -/
theorem eqGroups_apart {one other : List Member} {member : Member} (first : one ∈ eqGroups work)
    (second : other ∈ eqGroups work) (here : member ∈ one) (there : member ∈ other) : one = other := by
  obtain ⟨name, -, rfl⟩ := List.mem_map.mp (List.mem_of_mem_filter first)
  obtain ⟨name', -, rfl⟩ := List.mem_map.mp (List.mem_of_mem_filter second)
  have names : member.1.entry.name = name := by simpa using (List.mem_filter.mp here).2
  have names' : member.1.entry.name = name' := by simpa using (List.mem_filter.mp there).2
  rw [← names, names']

/-- No entry is in a group twice. -/
theorem nodup_of_mem_eqGroups {group : List Member} (found : group ∈ eqGroups work) :
    group.Nodup := by
  obtain ⟨name, -, rfl⟩ := List.mem_map.mp (List.mem_of_mem_filter found)
  have positions : (work.zipIdx.map Prod.snd).Nodup := by
    rw [List.zipIdx_map_snd]
    exact List.nodup_range'
  exact positions.of_map.filter _

/-- A member of a group is kept or dropped by that group alone, and not both. -/
theorem kept_not_dropped {group : List Member} (found : group ∈ eqGroups work) {member : Member}
    (kept : member ∈ (splitTwins canonicalize [] group).1) :
    member.2 ∉ (eqGroups work).flatMap (secondSpellings canonicalize) := by
  -- Two groups cannot share a member, so it would be kept and dropped by the same group.
  intro again
  have inGroup : member ∈ group := (splitTwins_kept kept).resolve_left List.not_mem_nil
  have placed := mem_of_mem_eqGroups found inGroup
  obtain ⟨group', found', second⟩ := List.mem_flatMap.mp again
  obtain ⟨twin, among, position⟩ := List.mem_map.mp second
  have inGroup' := splitTwins_twins among
  have itself := member_eq (mem_of_mem_eqGroups found' inGroup') placed position
  -- Positions tell members apart, so the twin found there is this very member.
  rw [itself] at inGroup'
  obtain rfl := eqGroups_apart found found' inGroup inGroup'
  have nodup := nodup_of_mem_eqGroups found
  have parts := (splitTwins_perm canonicalize [] group).nodup_iff.mpr nodup
  exact List.disjoint_of_nodup_append parts kept (List.mem_map.mpr ⟨twin, among, itself⟩)

/-- What a round drops does not depend on the order of the groups. -/
theorem mem_runRoundIn_drop (perm : groups.Perm (eqGroups work)) {round : Round}
    (ran : runRoundIn canonicalize groups work = .ok round) {position : Nat} :
    position ∈ round.drop ↔ position ∈ (eqGroups work).flatMap (secondSpellings canonicalize) := by
  rw [runRoundIn_drop ran]
  exact (perm.flatMap_right _).mem_iff

/-- Whatever a round drops is the same file as something it does not drop. -/
theorem runRoundIn_twin (perm : groups.Perm (eqGroups work)) {round : Round}
    (ran : runRoundIn canonicalize groups work = .ok round) {position : Nat}
    (dropped : position ∈ round.drop) :
    ∃ member ∈ work.zipIdx, member.2 = position ∧ ∃ other ∈ work.zipIdx, other.2 ∉ round.drop ∧
      ∃ real, canonicalize member.1.entry.path = some real ∧
        canonicalize other.1.entry.path = some real := by
  rw [mem_runRoundIn_drop perm ran] at dropped
  obtain ⟨group, found, second⟩ := List.mem_flatMap.mp dropped
  obtain ⟨twin, among, rfl⟩ := List.mem_map.mp second
  obtain ⟨kept, same⟩ := splitTwins_same among
  have otherInGroup : twin.2 ∈ group := (splitTwins_kept kept).resolve_left List.not_mem_nil
  refine ⟨twin.1, mem_of_mem_eqGroups found (splitTwins_twins among), rfl, twin.2,
    -- The other spelling is kept by its own group, and by no other group dropped.
    mem_of_mem_eqGroups found otherInGroup, ?_, same⟩
  rw [mem_runRoundIn_drop perm ran]
  exact kept_not_dropped found kept

/-- The members of a group that the round does not drop. -/
def groupSurvivors (canonicalize : Bytes → Option Bytes) (work : List Work)
    (group : List Member) : List Member :=
  group.filter fun member => member.2 ∉ (eqGroups work).flatMap (secondSpellings canonicalize)

/-- What a group of one name keeps is what survives of it. -/
theorem groupSurvivors_perm {group : List Member} (found : group ∈ eqGroups work) :
    (groupSurvivors canonicalize work group).Perm (splitTwins canonicalize [] group).1 := by
  have nodup := nodup_of_mem_eqGroups found
  have parts := splitTwins_perm canonicalize [] group
  have nodupParts := parts.nodup_iff.mpr nodup
  refine (List.perm_ext_iff_of_nodup (nodup.filter _) (List.Nodup.of_append_left nodupParts)).mpr ?_
  -- Both lists hold no member twice, so it is enough that they hold the same members.
  intro member
  rw [List.mem_filter, decide_eq_true_eq]
  constructor
  · rintro ⟨there, left⟩
    rcases List.mem_append.mp (parts.mem_iff.mpr there) with kept | second
    · exact kept
    · obtain ⟨twin, among, rfl⟩ := List.mem_map.mp second
      have dropped : twin.1.2 ∈ secondSpellings canonicalize group :=
        List.mem_map_of_mem (f := fun twin : Member × Member => twin.1.2) among
      exact absurd (List.mem_flatMap.mpr ⟨group, found, dropped⟩) left
  · intro kept
    exact ⟨(splitTwins_kept kept).resolve_left List.not_mem_nil, kept_not_dropped found kept⟩

/-- A conflicting group of which at least two survive, and no survivor has a parent directory to prepend. -/
def Stuck (canonicalize : Bytes → Option Bytes) (work : List Work) : Prop :=
  ∃ group, (group ∈ eqGroups work ∨ group ∈ prefixGroups work) ∧
    2 ≤ (groupSurvivors canonicalize work group).length ∧
    ∀ member ∈ groupSurvivors canonicalize work group, member.1.avail.length ≤ member.1.used

/-- Only a group without anything to extend makes an extension fail. -/
theorem extendAll_fails {round : Round} {members : List Member} {complaint message : String}
    (failed : round.extendAll members complaint = .error message) :
    ∀ member ∈ members, member.1.avail.length ≤ member.1.used := by
  unfold Round.extendAll at failed
  dsimp only at failed
  split at failed
  · next none_ =>
    intro member among
    by_contra room
    -- A member with a parent left would have been extended.
    have chosen : member ∈ members.filter (·.1.extendable) :=
      List.mem_filter.mpr ⟨among, decide_eq_true (not_le.mp room)⟩
    rw [List.isEmpty_iff] at none_
    rw [none_] at chosen
    cases chosen
  · cases failed

/-- A fold that fails does so at one value, in a state that the turns before it led to. -/
theorem foldlM_fails {α σ : Type} {turn : σ → α → Except String σ} (Inv : σ → Prop)
    {values : List α} {start : σ} {message : String}
    (keeps : ∀ state next, ∀ value ∈ values, turn state value = .ok next → Inv state → Inv next)
    (failed : values.foldlM turn start = .error message) (inv : Inv start) :
    ∃ state, Inv state ∧ ∃ value ∈ values, turn state value = .error message := by
  induction values generalizing start with
  | nil => cases failed
  | cons value others ih =>
    rw [List.foldlM_cons] at failed
    cases turned : turn start value with
    | error other =>
      rw [turned] at failed
      obtain rfl := Except.error.inj failed
      exact ⟨start, inv, value, List.mem_cons_self, turned⟩
    | ok next =>
      rw [turned] at failed
      have kept := keeps start next value List.mem_cons_self turned inv
      obtain ⟨state, reached, last, among, broke⟩ := ih
        (fun state next' other among => keeps state next' other (List.mem_cons_of_mem value among))
        failed kept
      exact ⟨state, reached, last, List.mem_cons_of_mem value among, broke⟩

/-- A round fails only over a group that is stuck. -/
theorem stuck_of_runRoundIn (perm : groups.Perm (eqGroups work)) {message : String}
    (failed : runRoundIn canonicalize groups work = .error message) : Stuck canonicalize work := by
  unfold runRoundIn at failed
  cases equal : groups.foldlM (resolveEqual canonicalize) ⟨[], [], []⟩ with
  | error other =>
    obtain ⟨state, -, group, inGroups, broke⟩ :=
      foldlM_fails (fun _ => True) (fun _ _ _ _ _ _ => trivial) equal trivial
    have found := perm.mem_iff.mp inGroups
    have survivors : (groupSurvivors canonicalize work group).Perm
        (splitTwins canonicalize [] group).1 := groupSurvivors_perm found
    unfold resolveEqual at broke
    dsimp only at broke
    split at broke
    · cases broke
    · next many =>
      refine ⟨group, Or.inl found, ?_, ?_⟩
      · rw [survivors.length_eq]
        exact not_lt.mp many
      · exact fun member among => extendAll_fails broke member (survivors.mem_iff.mp among)
  -- All groups of one name were settled: a group below a file is to blame.
  | ok middle =>
    rw [equal] at failed
    have dropped : middle.drop = groups.flatMap (secondSpellings canonicalize) := by
      rw [foldlM_resolveEqual_drop equal]
      rfl
    obtain ⟨state, same, group, found, broke⟩ := foldlM_fails
      (fun state => state.drop = middle.drop)
      (fun state next group _ turned kept => (resolvePrefix_drop turned).trans kept) failed rfl
    -- All second spellings are known by now, whatever the order of the groups was.
    have survivors : (group.filter fun member => decide (member.2 ∉ state.drop)) =
        groupSurvivors canonicalize work group := by
      refine List.filter_congr fun member _ => decide_eq_decide.mpr (not_congr ?_)
      rw [same, dropped]
      exact (perm.flatMap_right _).mem_iff
    unfold resolvePrefix at broke
    dsimp only at broke
    rw [survivors] at broke
    split at broke
    · cases broke
    · next many =>
      exact ⟨group, Or.inr found, not_lt.mp many, extendAll_fails broke⟩

end Round

/-! ### What the rounds leave of each entry -/

/-- The wire name is the join of the last components of the disk path, so many of them. -/
def NamedBy (entry : SendEntry) (count : Nat) : Prop :=
  0 < count ∧ count ≤ (trailingNames entry.path).length ∧
    entry.name = joinNames ((trailingNames entry.path).rtake count)

/-- An entry in progress is the one it was, but for a name that may have grown. -/
structure Grown (before : SendEntry) (work : Work) : Prop where
  kept : { work.entry with name := before.name } = before
  origName : work.origName = before.name
  avail : work.avail = trailingNames before.path
  named : NamedBy work.entry work.used
  longer : ∃ count ≤ work.used, NamedBy before count

/-- What is left of an entry: size, mode and path, and a suffix of the path no shorter than before as the name. -/
structure Survives (before after : SendEntry) : Prop where
  size : after.size = before.size
  mode : after.mode = before.mode
  path : after.path = before.path
  suffix : ∃ count longer, count ≤ longer ∧ NamedBy before count ∧ NamedBy after longer

/-- An entry in progress survives as what it is. -/
theorem Grown.survives {before : SendEntry} {work : Work} (grown : Grown before work) :
    Survives before work.entry := by
  obtain ⟨count, less, named⟩ := grown.longer
  have kept := grown.kept
  rw [SendEntry.mk.injEq] at kept
  exact ⟨kept.2.1, kept.2.2.1, kept.2.2.2, count, work.used, less, named, grown.named⟩

/-- One more parent directory keeps an entry what it was. -/
theorem Grown.extend {before : SendEntry} {work : Work} (grown : Grown before work)
    (room : work.extendable = true) : Grown before work.extend := by
  -- There is room, so one more component can be taken.
  have more : work.used < work.avail.length := of_decide_eq_true room
  obtain ⟨count, less, named⟩ := grown.longer
  have path : work.entry.path = before.path := grown.survives.path
  refine ⟨grown.kept, grown.origName, grown.avail, ⟨Nat.succ_pos _, ?_, ?_⟩,
    count, Nat.le_succ_of_le less, named⟩
  · show work.used + 1 ≤ (trailingNames work.entry.path).length
    rw [path, ← grown.avail]
    exact more
  · show joinNames (work.avail.drop (work.avail.length - (work.used + 1))) =
      joinNames ((trailingNames work.entry.path).rtake (work.used + 1))
    rw [path, ← grown.avail]
    rfl

/-- A separator of a text is a separator of its bytes. -/
theorem slash_mem_utf8 {text : String} (there : '/' ∈ text.toList) : slash ∈ utf8 text := by
  rw [utf8_eq, List.mem_flatMap]
  exact ⟨'/', there, by decide⟩

/-- An entry starts out with as many components as its name has. -/
theorem grown_new {entry : SendEntry} {count : Nat} (named : NamedBy entry count) :
    Grown entry (Work.new entry) := by
  have used : (Work.new entry).used = count := by
    obtain ⟨positive, few, name⟩ := named
    have whole : (joinNames ((trailingNames entry.path).rtake count)).toList =
        ['/'].intercalate (((trailingNames entry.path).rtake count).map String.toList) :=
      String.toList_intercalate
    -- So many components are taken, and there are as many.
    have length : ((trailingNames entry.path).rtake count).length = count := by
      rw [List.rtake, List.length_drop]
      omega
    have parts : (trailingNames entry.path).rtake count ≠ [] := fun none_ => by
      rw [none_] at length
      simp only [List.length_nil] at length
      omega
    -- No component has a separator of its own.
    have separated : ∀ part ∈ ((trailingNames entry.path).rtake count).map String.toList,
        '/' ∉ part := by
      intro part among there
      obtain ⟨text, inside, rfl⟩ := List.mem_map.mp among
      have available : text ∈ trailingNames entry.path := List.mem_of_mem_drop inside
      obtain ⟨component, run, spelled⟩ := List.mem_filterMap.mp (List.mem_reverse.mp available)
      have component_ : component ∈ components entry.path :=
        List.mem_reverse.mp ((List.takeWhile_sublist _).subset run)
      cases component with
      | normal name =>
        cases spelled
        -- A component of a path is a name, and a name has no separator.
        have isName := (isName_of_mem_components component_).1
        exact (isName_textOf isName).noSlash (slash_mem_utf8 there)
      | _ => cases spelled
    -- Splitting at the separators gives the components back.
    show (entry.name.toList.splitOn '/').length = count
    rw [name, whole, List.splitOn_intercalate '/' separated (by simpa using parts), List.length_map,
      length]
  exact ⟨rfl, rfl, rfl, used ▸ named, count, used.ge, named⟩

/-- Which entries are left, in their order, and that every other one is the same file as one of them. -/
structure Traced (canonicalize : Bytes → Option Bytes) (entries : List SendEntry)
    (survivors : List (SendEntry × Nat)) : Prop where
  order : survivors.Sublist entries.zipIdx
  dropped : ∀ entry ∈ entries.zipIdx, entry ∉ survivors → ∃ real,
    canonicalize entry.1.path = some real ∧
      ∃ other ∈ survivors, canonicalize other.1.path = some real

section Rounds

variable {canonicalize : Bytes → Option Bytes} {entries : List SendEntry} {work : List Work}
  {survivors : List (SendEntry × Nat)}

/-- What is left of related lists at one place is related. -/
theorem forall₂_getElem? {α β : Type} {related : α → β → Prop} {first : List α} {second : List β}
    (all : List.Forall₂ related first second) (place : Nat) :
    (first[place]? = none ∧ second[place]? = none) ∨
      ∃ one other, first[place]? = some one ∧ second[place]? = some other ∧ related one other := by
  induction all generalizing place with
  | nil => exact Or.inl ⟨rfl, rfl⟩
  | cons head _ ih =>
    cases place with
    | zero => exact Or.inr ⟨_, _, rfl, rfl, head⟩
    | succ place => exact ih place

/-- The entries that are left after a round. -/
def Round.leaves (round : Round) (survivors : List (SendEntry × Nat)) : List (SendEntry × Nat) :=
  survivors.zipIdx.filterMap fun (survivor, position) =>
    if position ∈ round.drop then none else some survivor

/-- What is left after a round is what stands at a place that was not dropped. -/
theorem Round.mem_leaves {round : Round} {survivor : SendEntry × Nat} :
    survivor ∈ round.leaves survivors ↔
      ∃ position, survivors[position]? = some survivor ∧ position ∉ round.drop := by
  unfold Round.leaves
  rw [List.mem_filterMap]
  constructor
  · rintro ⟨⟨found, position⟩, there, left⟩
    dsimp only at left
    split at left
    · cases left
    · next kept =>
      cases left
      exact ⟨position, List.mem_zipIdx_iff_getElem?.mp there, kept⟩
  · rintro ⟨position, there, kept⟩
    exact ⟨(survivor, position), List.mem_zipIdx_iff_getElem?.mpr there, by simp [kept]⟩

/-- A round keeps the order of what it leaves. -/
theorem Round.leaves_sublist (round : Round) (survivors : List (SendEntry × Nat)) :
    (round.leaves survivors).Sublist survivors := by
  unfold Round.leaves
  -- The positions start anywhere for the induction to go through.
  generalize 0 = start
  induction survivors generalizing start with
  | nil => exact List.Sublist.slnil
  | cons survivor rest ih =>
    rw [List.zipIdx_cons, List.filterMap_cons]
    by_cases gone : start ∈ round.drop
    · simp only [gone, if_true]
      exact (ih (start + 1)).cons survivor
    · simp only [gone, if_false]
      exact (ih (start + 1)).cons_cons survivor

/-- What a round leaves of the entries is what it leaves of them in progress. -/
theorem Round.leaves_grown {round : Round} (sound : round.Sound work)
    (grown : List.Forall₂ (fun before work => Grown before.1 work) survivors work) :
    List.Forall₂ (fun before work => Grown before.1 work) (round.leaves survivors)
      (round.apply work) := by
  unfold Round.leaves Round.apply
  -- Whatever is extended has a parent directory left.
  have room : ∀ entry position, (entry, position) ∈ work.zipIdx 0 → position ∈ round.toExtend →
      entry.extendable = true := by
    intro entry position there chosen
    obtain ⟨other, placed, room⟩ := sound.extendable position chosen
    have same := member_eq placed there rfl
    rw [Prod.mk.injEq] at same
    exact same.1 ▸ room
  clear sound
  revert room
  generalize 0 = start
  intro room
  induction grown generalizing start with
  | nil => exact List.Forall₂.nil
  -- The same position is dropped or extended on both sides.
  | @cons survivor entry survivors rest head _ ih =>
    have later := ih (start + 1) fun entry position there =>
      room entry position (List.mem_cons_of_mem _ there)
    rw [List.zipIdx_cons, List.zipIdx_cons, List.filterMap_cons, List.filterMap_cons]
    by_cases gone : start ∈ round.drop
    · simp only [gone, if_true]
      exact later
    · simp only [gone, if_false]
      refine List.Forall₂.cons ?_ later
      by_cases chosen : start ∈ round.toExtend
      · rw [if_pos chosen]
        exact head.extend (room entry start List.mem_cons_self chosen)
      · rw [if_neg chosen]
        exact head

/-- What a round drops is the same file as something it leaves. -/
theorem Round.twin_left {groups : List (List Member)} (perm : groups.Perm (eqGroups work))
    {round : Round} (ran : runRoundIn canonicalize groups work = .ok round)
    (grown : List.Forall₂ (fun before work => Grown before.1 work) survivors work)
    {survivor : SendEntry × Nat} (there : survivor ∈ survivors)
    (gone : survivor ∉ round.leaves survivors) : ∃ real,
      canonicalize survivor.1.path = some real ∧
        ∃ other ∈ round.leaves survivors, canonicalize other.1.path = some real := by
  -- Of an entry in progress and the one it was, the paths are the same.
  have traced : ∀ (entry : Work) (position : Nat), (entry, position) ∈ work.zipIdx →
      ∃ found, survivors[position]? = some found ∧ entry.entry.path = found.1.path := by
    intro entry position placed
    have looked := List.mem_zipIdx_iff_getElem?.mp placed
    rcases forall₂_getElem? grown position with ⟨_, none_⟩ | ⟨found, other, first, second, same⟩
    · rw [none_] at looked
      cases looked
    · rw [second] at looked
      cases looked
      exact ⟨found, first, same.survives.path⟩
  -- The survivor that is gone stood at a position the round drops.
  obtain ⟨position, inside, found⟩ := List.getElem_of_mem there
  have looked : survivors[position]? = some survivor := by
    rw [List.getElem?_eq_getElem inside, found]
  have dropped : position ∈ round.drop := by
    by_contra kept
    exact gone (Round.mem_leaves.mpr ⟨position, looked, kept⟩)
  -- The round knows a second spelling of it that stays.
  obtain ⟨⟨entry, place⟩, placed, rfl, ⟨other, spot⟩, otherPlaced, kept, real, spelled, same⟩ :=
    runRoundIn_twin perm ran dropped
  obtain ⟨first, firstLooked, firstPath⟩ := traced entry place placed
  obtain ⟨second, secondLooked, secondPath⟩ := traced other spot otherPlaced
  obtain rfl : first = survivor := Option.some.inj (firstLooked.symm.trans looked)
  exact ⟨real, firstPath ▸ spelled, second, Round.mem_leaves.mpr ⟨spot, secondLooked, kept⟩,
    secondPath ▸ same⟩

/-- A round keeps track of everything. -/
theorem Traced.round {groups : List (List Member)} (perm : groups.Perm (eqGroups work))
    {round : Round} (ran : runRoundIn canonicalize groups work = .ok round)
    (grown : List.Forall₂ (fun before work => Grown before.1 work) survivors work)
    (traced : Traced canonicalize entries survivors) :
    Traced canonicalize entries (round.leaves survivors) where
  order := (round.leaves_sublist survivors).trans traced.order
  dropped entry member gone := by
    by_cases there : entry ∈ survivors
    · exact round.twin_left perm ran grown there gone
    · -- It was dropped earlier, for an entry that may have been dropped since.
      obtain ⟨real, spelled, other, left, same⟩ := traced.dropped entry member there
      by_cases still : other ∈ round.leaves survivors
      · exact ⟨real, spelled, other, still, same⟩
      · obtain ⟨real', spelled', last, lastLeft, same'⟩ := round.twin_left perm ran grown left still
        obtain rfl : real = real' := Option.some.inj (same.symm.trans spelled')
        exact ⟨real, spelled, last, lastLeft, same'⟩

end Rounds

/-! ### Names without a conflict -/

/-- A name is that of a directory on the way to another. -/
def IsDirPrefix (dir name : String) : Prop := ∃ rest, name = dir ++ "/" ++ rest

/-- The texts in front of the separators are what a separator follows. -/
theorem mem_prefixesBefore {text chars : List Char} :
    text ∈ prefixesBefore chars ↔ ∃ rest, chars = text ++ '/' :: rest := by
  induction chars generalizing text with
  | nil => simp [prefixesBefore]
  | cons char chars ih =>
    unfold prefixesBefore
    rw [List.mem_append, List.mem_map]
    constructor
    · rintro (now | ⟨before, later, rfl⟩)
      · split at now
        · next here =>
          rw [List.mem_singleton.mp now, here]
          exact ⟨chars, rfl⟩
        · cases now
      · obtain ⟨rest, rfl⟩ := ih.mp later
        exact ⟨rest, rfl⟩
    · rintro ⟨rest, same⟩
      cases text with
      -- The separator found may be the first character, or it is one of the rest.
      | nil =>
        obtain ⟨rfl, rfl⟩ := List.cons.inj same
        left
        simp
      | cons first text =>
        obtain ⟨rfl, rfl⟩ := List.cons.inj same
        exact Or.inr ⟨text, ih.mpr ⟨rest, rfl⟩, rfl⟩

/-- The directory prefixes of a name are the directories on the way to it. -/
theorem mem_dirPrefixes {dir name : String} : dir ∈ dirPrefixes name ↔ IsDirPrefix dir name := by
  unfold dirPrefixes IsDirPrefix
  rw [List.mem_map]
  constructor
  · rintro ⟨text, there, rfl⟩
    obtain ⟨rest, same⟩ := mem_prefixesBefore.mp there
    -- Texts are equal if their characters are.
    refine ⟨String.ofList rest, ?_⟩
    rw [← String.toList_inj]
    simp [same]
  · rintro ⟨rest, rfl⟩
    refine ⟨dir.toList, mem_prefixesBefore.mpr ⟨rest.toList, ?_⟩, String.ofList_toList⟩
    simp

/-- Names that can all be created below one directory. -/
structure ConflictFree (names : List String) : Prop where
  distinct : names.Nodup
  apart : ∀ one ∈ names, ∀ other ∈ names, ¬ IsDirPrefix one other

/-- The test for a conflict finds what there is. -/
theorem namesConflict_eq_false {names : List String} :
    namesConflict names = false ↔ ConflictFree names := by
  unfold namesConflict
  rw [Bool.or_eq_false_iff, Bool.not_eq_false', decide_eq_true_eq, List.any_eq_false]
  constructor
  · rintro ⟨distinct, apart⟩
    refine ⟨distinct, fun one here other there is_prefix => apart other there ?_⟩
    exact List.any_eq_true.mpr ⟨one, mem_dirPrefixes.mpr is_prefix, decide_eq_true here⟩
  · rintro ⟨distinct, apart⟩
    refine ⟨distinct, fun other there some_ => ?_⟩
    obtain ⟨one, found, here⟩ := List.any_eq_true.mp some_
    exact apart one (of_decide_eq_true here) other there (mem_dirPrefixes.mp found)

/-- As many entries bear a name as it occurs among their names. -/
theorem named_length (work : List Work) (name : String) :
    (named work name).length = (work.map (·.entry.name)).count name := by
  have entries : work.map (·.entry.name) = work.zipIdx.map fun member => member.1.entry.name := by
    conv_lhs => rw [← List.zipIdx_map_fst 0 work]
    rw [List.map_map]
    rfl
  rw [entries, List.count, List.countP_map, named, List.countP_eq_length_filter]
  congr 1

/-- Where there is no group left to settle, the names are free of conflicts. -/
theorem conflictFree_of_settled {work : List Work}
    (settled : eqGroups work = [] ∧ prefixGroups work = []) :
    ConflictFree (work.map (·.entry.name)) where
  distinct := by
    rw [List.nodup_iff_count_le_one]
    intro name
    by_contra many
    -- A name borne twice would make a group.
    rw [not_le, ← named_length] at many
    have some_ : name ∈ work.map (·.entry.name) := by
      rw [← List.count_pos_iff, ← named_length]
      omega
    have found : named work name ∈ eqGroups work :=
      List.mem_filter.mpr ⟨List.mem_map.mpr ⟨name, List.mem_eraseDups.mpr some_, rfl⟩,
        decide_eq_true many⟩
    rw [settled.1] at found
    cases found
  apart := by
    intro one here other there is_prefix
    obtain ⟨entry, among, rfl⟩ := List.mem_map.mp there
    obtain ⟨position, inside, at_⟩ := List.getElem_of_mem among
    have placed : (entry, position) ∈ work.zipIdx :=
      List.mem_zipIdx_iff_getElem?.mpr (by rw [List.getElem?_eq_getElem inside, at_])
    -- Somebody bears the name of the directory.
    have owners : named work one ≠ [] := by
      rw [← List.length_pos_iff, named_length, List.count_pos_iff]
      exact here
    obtain ⟨owner, others, shape⟩ := List.exists_cons_of_ne_nil owners
    -- With the entry below it they make a group.
    have found : named work one ++ [(entry, position)] ∈ prefixGroups work := by
      refine List.mem_flatMap.mpr ⟨(entry, position), placed, List.mem_filterMap.mpr ⟨one, ?_⟩⟩
      refine ⟨mem_dirPrefixes.mpr is_prefix, ?_⟩
      rw [shape]
    rw [settled.2] at found
    cases found

/-! ### What the disambiguation comes to -/

/-- The new names that are reported. -/
def renamesOf (before after : List SendEntry) : List (Bytes × String) :=
  (before.zip after).filterMap fun (before, after) =>
    if after.name ≠ before.name then some (after.path, after.name) else none

/-- A disambiguation that can be received, with everything that became of the entries. -/
structure Disambiguated (canonicalize : Bytes → Option Bytes) (entries : List SendEntry)
    (uniq : Uniquified) : Prop where
  conflictFree : ConflictFree (uniq.entries.map (·.name))
  survivors : ∃ survivors, Traced canonicalize entries survivors ∧
    List.Forall₂ (fun before after => Survives before.1 after) survivors uniq.entries ∧
    uniq.renames = renamesOf (survivors.map Prod.fst) uniq.entries

namespace UniquifyState

section Runs

variable {canonicalize : Bytes → Option Bytes} {entries : List SendEntry}

/-- What holds of a disambiguation at every turn. -/
def Inv (canonicalize : Bytes → Option Bytes) (entries : List SendEntry) : UniquifyState → Prop
  | .working work _ => ∃ survivors, Traced canonicalize entries survivors ∧
      List.Forall₂ (fun before work => Grown before.1 work) survivors work
  | .returned (.ok uniq) => Disambiguated canonicalize entries uniq
  | .returned (.error _) => ∃ actions work dropped,
      (uniquification canonicalize entries).run (start entries) actions =
        some (.working work dropped) ∧ Stuck canonicalize work

/-- Nothing is dropped at first. -/
theorem traced_start (canonicalize : Bytes → Option Bytes) (entries : List SendEntry) :
    Traced canonicalize entries entries.zipIdx where
  order := List.Sublist.refl _
  dropped _ member gone := absurd member gone

/-- What is true of every entry is true of the entries with their positions. -/
theorem forall₂_zipIdx {α β : Type} {related : α → β → Prop} (become : α → β) {values : List α}
    (all : ∀ value ∈ values, related value (become value)) (start : Nat) :
    List.Forall₂ (fun one other => related one.1 other) (values.zipIdx start)
      (values.map become) := by
  induction values generalizing start with
  | nil => exact List.Forall₂.nil
  | cons value values ih =>
    rw [List.zipIdx_cons, List.map_cons]
    refine List.Forall₂.cons (all value List.mem_cons_self) (ih ?_ (start + 1))
    exact fun other among => all other (List.mem_cons_of_mem _ among)

/-- The state the disambiguation starts in is a good one. -/
theorem inv_start (named : ∀ entry ∈ entries, ∃ count, NamedBy entry count) :
    Inv canonicalize entries (start entries) := by
  unfold start
  split
  · refine ⟨entries.zipIdx, traced_start canonicalize entries, forall₂_zipIdx Work.new ?_ 0⟩
    intro entry there
    obtain ⟨count, name⟩ := named entry there
    exact grown_new name
  · next free =>
    refine ⟨namesConflict_eq_false.mp (Bool.not_eq_true _ ▸ free), entries.zipIdx,
      traced_start canonicalize entries, ?_, ?_⟩
    -- An entry that is left alone survives under its own name.
    · have each : ∀ entry ∈ entries, Survives entry (id entry) := by
        intro entry there
        obtain ⟨count, name⟩ := named entry there
        exact ⟨rfl, rfl, rfl, count, count, Nat.le_refl _, name, name⟩
      have same := forall₂_zipIdx id each 0
      rwa [List.map_id] at same
    · show [] = renamesOf (entries.zipIdx.map Prod.fst) entries
      rw [List.zipIdx_map_fst, renamesOf, eq_comm, List.filterMap_eq_nil_iff]
      intro pair among
      -- No entry has got another name than its own.
      rw [List.zip_eq_zipWith, List.zipWith_self] at among
      obtain ⟨entry, -, rfl⟩ := List.mem_map.mp among
      exact if_neg (not_not.mpr rfl)

/-- The reported names are those of the entries whose name is no longer the one it was. -/
theorem finish_renames {survivors : List (SendEntry × Nat)} {work : List Work}
    (grown : List.Forall₂ (fun before work => Grown before.1 work) survivors work)
    (dropped : List (Bytes × Bytes)) :
    (finish work dropped).renames =
      renamesOf (survivors.map Prod.fst) (finish work dropped).entries := by
  unfold finish renamesOf
  dsimp only
  induction grown with
  | nil => rfl
  | @cons survivor entry survivors rest head _ ih =>
    rw [List.map_cons, List.map_cons, List.zip_cons_cons, List.filterMap_cons, ← ih,
      List.filter_cons, head.origName]
    -- An entry is reported in the same cases on both sides.
    by_cases changed : entry.entry.name ≠ survivor.1.name
    · simp [changed]
    · simp [changed]

/-- Every turn keeps what holds of a disambiguation. -/
theorem inv_step {state next : UniquifyState} {groups : List (List Member)}
    (reached : ∃ actions, (uniquification canonicalize entries).run (start entries) actions = some state)
    (inv : Inv canonicalize entries state)
    (stepped : step canonicalize state groups = some next) : Inv canonicalize entries next := by
  cases state with
  | returned result => simp [step] at stepped
  | working work dropped =>
    obtain ⟨survivors, traced, grown⟩ := inv
    obtain ⟨perm, ⟨settled, rfl⟩ | ⟨_, ⟨message, failed, rfl⟩ | ⟨round, ran, rfl⟩⟩⟩ :=
      step_cases stepped
    · -- Nothing is left to settle.
      refine ⟨?_, survivors, traced, ?_, finish_renames grown dropped⟩
      · show ConflictFree ((work.map (·.entry)).map (·.name))
        rw [List.map_map]
        exact conflictFree_of_settled settled
      · exact List.forall₂_map_right_iff.mpr (grown.imp fun _ _ grown => grown.survives)
    -- A round that fails was run on a group that is stuck.
    · obtain ⟨actions, there⟩ := reached
      exact ⟨actions, work, dropped, there, stuck_of_runRoundIn perm failed⟩
    · exact ⟨round.leaves survivors, traced.round perm ran grown,
        Round.leaves_grown (runRoundIn_sound perm ran).1 grown⟩

/-- Whatever a run comes to is good. -/
theorem run_inv (named : ∀ entry ∈ entries, ∃ count, NamedBy entry count)
    {actions : List (List (List Member))} {last : UniquifyState}
    (ran : (uniquification canonicalize entries).run (start entries) actions = some last) :
    Inv canonicalize entries last := by
  -- Every state is reached by the actions up to it.
  have kept : ∀ state groups next, (Inv canonicalize entries state ∧
      ∃ actions, (uniquification canonicalize entries).run (start entries) actions = some state) →
      (uniquification canonicalize entries).step state groups = some next →
      Inv canonicalize entries next ∧
        ∃ actions, (uniquification canonicalize entries).run (start entries) actions = some next := by
    -- The state is reached by one more action.
    rintro state groups next ⟨inv, actions, there⟩ stepped
    refine ⟨inv_step ⟨actions, there⟩ inv stepped, actions ++ [groups], ?_⟩
    rw [Machine.run_append, there, Option.bind_some, Machine.run_cons stepped]
    rfl
  exact (Machine.run_invariant kept ⟨inv_start named, [], rfl⟩ ran).1

end Runs

end UniquifyState

/-! ### The disambiguation as a whole -/

/-- The disambiguation of entries whose names are suffixes of their disk paths ends, and says how. -/
structure Uniquifies (canonicalize : Bytes → Option Bytes) (entries : List SendEntry) : Prop where
  ends : ∀ actions last,
    (uniquification canonicalize entries).run (.start entries) actions = some last →
      actions.length ≤ (UniquifyState.start entries).turnsLeft ∧
        ((∃ result, last = .returned result) ∨
          ∃ groups next, (uniquification canonicalize entries).step last groups = some next)
  ok : ∀ actions uniq,
    (uniquification canonicalize entries).run (.start entries) actions =
      some (.returned (.ok uniq)) → Disambiguated canonicalize entries uniq
  error : ∀ actions message,
    (uniquification canonicalize entries).run (.start entries) actions =
      some (.returned (.error message)) →
        ∃ actions work dropped, (uniquification canonicalize entries).run (.start entries) actions =
          some (.working work dropped) ∧ Stuck canonicalize work
  unchanged : ConflictFree (entries.map (·.name)) →
    UniquifyState.start entries = .returned (.ok { entries, renames := [], dropped := [] })
  returns : ∃ actions, (uniquification canonicalize entries).run (.start entries) actions =
    some (.returned (uniquifyWireNames canonicalize entries))

/-- A run that takes the groups in the order of the names returns what the function does. -/
theorem run_uniquifyWireNames (canonicalize : Bytes → Option Bytes) (entries : List SendEntry) :
    ∃ actions, (uniquification canonicalize entries).run (.start entries) actions =
      some (.returned (uniquifyWireNames canonicalize entries)) := by
  unfold UniquifyState.start uniquifyWireNames
  split
  · exact UniquifyState.run_uniquifyLoop entries (entries.map Work.new) []
  · exact ⟨[], rfl⟩

/-- Wire names are told apart, or there is no way to. -/
theorem uniquifies_of_named {canonicalize : Bytes → Option Bytes} {entries : List SendEntry}
    (named : ∀ entry ∈ entries, ∃ count, NamedBy entry count) :
    Uniquifies canonicalize entries where
  ends _ _ ran := UniquifyState.run_ends ran
  ok _ _ ran := UniquifyState.run_inv named ran
  error _ _ ran := UniquifyState.run_inv named ran
  unchanged free := by
    -- Names that are free of conflicts are not touched.
    have same : namesConflict (entries.map (·.name)) = false := namesConflict_eq_false.mpr free
    rw [UniquifyState.start, same]
    rfl
  returns := run_uniquifyWireNames canonicalize entries

/-- Two files of one name in two directories. -/
def twoFiles : List SendEntry :=
  [{ name := "x", size := 3, mode := 0o644, path := utf8 "/a/x" },
    { name := "x", size := 4, mode := 0o644, path := utf8 "/b/x" }]

/-- Two files of one name in two directories are told apart by the directories. -/
theorem uniquifies_twoFiles : Uniquifies some twoFiles ∧
    (uniquifyWireNames some twoFiles).map (·.entries.map (·.name)) = .ok ["a/x", "b/x"] := by
  refine ⟨uniquifies_of_named ?_, by decide +kernel⟩
  intro entry there
  refine ⟨1, ?_⟩
  -- The name is the last component of the path.
  have all : ∀ entry ∈ twoFiles, 1 ≤ (trailingNames entry.path).length ∧
      entry.name = joinNames ((trailingNames entry.path).rtake 1) := by decide +kernel
  exact ⟨Nat.one_pos, all entry there⟩

end Gritty
