import Gritty.Commands.Dashboard

/-! The listing shows each endpoint once, each daemon once, and each session of a daemon once. -/

namespace Gritty

/-- The daemon that answered at an endpoint, if one did. -/
def ProbedHost.serverId (probed : ProbedHost) : Option UInt64 := probed.outcome.toOption.map Prod.fst

/-- The group that endpoints of one daemon come to, or an endpoint without an answer. -/
def groupOf : List ProbedHost → HostGroup
  | [] => { members := [], result := .ok [] }
  | first :: rest =>
    { members := (first :: rest).map (·.member), result := first.outcome.map Prod.snd }

/-- The section of endpoints of one daemon. -/
def sectionOf (config : ConfigFile) (hostname : String) (endpoints : List ProbedHost) : Section :=
  { members := (groupOf endpoints).members,
    rows := (groupOf endpoints).result.map fun sessions =>
      orderSessions sessions ((groupOf endpoints).clientName config hostname) }

/-- The rows that sessions are shown in. -/
structure RowsOf (ambientClientName : String) (sessions : List SessionEntry)
    (rows : List (SessionEntry × Bool)) : Prop where
  all : (rows.map Prod.fst).Perm sessions
  marked : ∀ row ∈ rows, row.2 = isOwnRow ambientClientName row.1
  ownFirst : rows.Pairwise fun first second => second.2 = true → first.2 = true
  plainLast : rows.Pairwise fun first second =>
    namespaceOf first.1.name = none → namespaceOf second.1.name = none
  /-- No other namespace comes between two rows of one. -/
  unbroken : ∀ first middle last, [first, middle, last].Sublist rows →
    namespaceOf first.1.name = namespaceOf last.1.name →
      namespaceOf middle.1.name = namespaceOf first.1.name
  /-- In a namespace, the order is that of the daemon. -/
  kept : ∀ space, ((rows.map Prod.fst).filter fun session => namespaceOf session.name = space) =
    sessions.filter fun session => namespaceOf session.name = space

/-- What is listed of endpoints that were probed. -/
structure ListsAll (config : ConfigFile) (hostname : String) (probed : List ProbedHost) : Prop where
  /-- Each section is about the endpoints of one daemon, or one endpoint without an answer. -/
  sections : ∃ groups, Grouped ProbedHost.serverId (probed.filter isListable) groups ∧
    listAllSessions config hostname probed = groups.map (sectionOf config hostname)
  /-- Each endpoint is listed, once. -/
  once : ((listAllSessions config hostname probed).flatMap (·.members)).Perm
    ((probed.filter isListable).map (·.member))
  /-- The sections have the sessions of the daemons that answered, in their rows. -/
  rows : ∀ shown ∈ listAllSessions config hostname probed, ∀ rows, shown.rows = .ok rows →
    ∃ first ∈ probed, ∃ serverId sessions, first.outcome = .ok (serverId, sessions) ∧
      shown.members.head? = some first.member ∧ ∃ ambientClientName, '/' ∉ ambientClientName.toList ∧
        RowsOf ambientClientName sessions rows
  failures : ∀ shown ∈ listAllSessions config hostname probed, ∀ error, shown.rows = .error error →
    ∃ only ∈ probed, only.outcome = .error error ∧ shown.members = [only.member]

/-- A tunnel is swept away: it has a lock that nobody holds. -/
def TunnelSights.Sweeps (sights : TunnelSights) (files : List Text) (host : Text) : Prop :=
  connectSidecarPath host SidecarKind.lock.ext ∈ files ∧ sights.status host = .stale ∧
    sights.unheld host = true

/-- What endpoints are looked for. -/
structure Discovers (sights : TunnelSights) (files : List Text) : Prop where
  found : ∀ probe, probe ∈ discoverDaemonProbes sights files ∧ probe ≠ localProbe →
    (∃ info ∈ (getTunnelInfo sights files).1, probe = tunnelProbe info) ∨
      ∃ host, probe = socketProbe host ∧ connectSidecarPath host SidecarKind.sock.ext ∈ files ∧
        ¬ sights.Sweeps files host
  complete : ∀ host, (∃ info ∈ (getTunnelInfo sights files).1, info.name = host) ∨
      connectSidecarPath host SidecarKind.sock.ext ∈ files ∧ ¬ sights.Sweeps files host →
    ∃ probe ∈ discoverDaemonProbes sights files, probe.host = host
  /-- The tunnels are those of the locks that were not found free. -/
  tunnels : ∀ info, info ∈ (getTunnelInfo sights files).1 ↔ ∃ host, info = tunnelInfo sights host ∧
    connectSidecarPath host SidecarKind.lock.ext ∈ files ∧ sights.status host ≠ .stale
  /-- Of what is swept away, the lock and the state go, and nothing else does. -/
  left : ∀ file, file ∈ (getTunnelInfo sights files).2 ↔ file ∈ files ∧
    ¬ ∃ host, sights.Sweeps files host ∧ ∃ kind ∈ [SidecarKind.lock, .sock, .pid, .info, .kick],
      file = connectSidecarPath host kind.ext
  distinct : (((discoverDaemonProbes sights files).filter fun probe => probe ≠ localProbe).map
    (·.host)).Nodup

/-! ### Groups -/

section

variable {probed : ProbedHost} {endpoints : List ProbedHost} {groups : List (List ProbedHost)}

/-- A group under its daemon. -/
def keyedGroup (endpoints : List ProbedHost) : Option UInt64 × HostGroup :=
  (keyOf ProbedHost.serverId endpoints, groupOf endpoints)

/-- An endpoint that is found later is one more member of its group. -/
theorem groupOf_append (begun : endpoints ≠ []) (probed : ProbedHost) :
    groupOf (endpoints ++ [probed]) =
      { groupOf endpoints with members := (groupOf endpoints).members ++ [probed.member] } := by
  obtain ⟨first, rest, rfl⟩ := List.exists_cons_of_ne_nil begun
  simp only [groupOf, List.cons_append, List.map_cons, List.map_append, List.map_nil]

/-- A member is pushed where an item is added to its group. -/
theorem pushMember_groups {serverId : UInt64} (answered : probed.serverId = some serverId)
    (begun : ∀ group ∈ groups, group ≠ []) :
    (pushMember serverId probed.member (groups.map keyedGroup)).getD
        (groups.map keyedGroup ++ [keyedGroup [probed]]) =
      (addToGroup ProbedHost.serverId probed groups).map keyedGroup := by
  induction groups with
  | nil => rfl
  | cons group rest ih =>
    have later := ih fun other among => begun other (List.mem_cons_of_mem _ among)
    have here := begun group List.mem_cons_self
    rw [List.map_cons, addToGroup, keyedGroup, pushMember]
    by_cases same : keyOf ProbedHost.serverId group = some serverId
    · rw [if_pos same, if_pos ⟨by rw [answered]; exact Option.some_ne_none _, same.trans answered.symm⟩,
        Option.getD_some, List.map_cons, keyedGroup, keyOf_append _ group here, groupOf_append here]
    · have other : ¬ (probed.serverId ≠ none ∧ keyOf ProbedHost.serverId group = probed.serverId) :=
        fun both => same (both.2.trans answered)
      rw [if_neg same, if_neg other, List.map_cons, ← later]
      cases pushMember serverId probed.member (rest.map keyedGroup) <;> rfl

/-- Joining a daemon to the groups is adding its host to the group of its server. -/
theorem joinDaemon_groups (begun : ∀ group ∈ groups, group ≠ []) :
    joinDaemon (groups.map keyedGroup) probed =
      (addToGroup ProbedHost.serverId probed groups).map keyedGroup := by
  unfold joinDaemon
  split
  · next serverId sessions answered =>
    have id : probed.serverId = some serverId := by
      unfold ProbedHost.serverId
      rw [answered]
      rfl
    rw [← pushMember_groups id begun]
    unfold keyedGroup groupOf keyOf
    simp only [List.head?_cons, Option.bind_some, id, answered, List.map_cons, List.map_nil]
    rfl
  · next error failed =>
    have id : probed.serverId = none := by
      unfold ProbedHost.serverId
      rw [failed]
      rfl
    -- Without a daemon, the endpoint is behind all groups.
    rcases addToGroup_cases ProbedHost.serverId probed groups with
      ⟨-, added⟩ | ⟨-, -, -, -, keyed, -, -⟩
    · rw [added, List.map_append, List.map_singleton]
      unfold keyedGroup groupOf keyOf
      simp only [List.head?_cons, Option.bind_some, id, failed, List.map_cons, List.map_nil]
      rfl
    · exact absurd id keyed

/-- The groups of the program are those of the items by their key. -/
theorem groupByDaemon_eq (endpoints : List ProbedHost) :
    groupByDaemon endpoints = (groupByKey ProbedHost.serverId endpoints).map groupOf := by
  have keyed : endpoints.foldl joinDaemon [] =
      (groupByKey ProbedHost.serverId endpoints).map keyedGroup := by
    induction endpoints using List.reverseRecOn with
    | nil => rfl
    | append_singleton items item ih =>
      rw [List.foldl_append, ih, List.foldl_cons, List.foldl_nil, groupByKey_concat]
      exact joinDaemon_groups (grouped_groupByKey _ items).begun
  rw [groupByDaemon, keyed, List.map_map]
  rfl

/-- The sections are made of the hosts that can be listed, grouped by server. -/
theorem listAllSessions_eq (config : ConfigFile) (hostname : String) (probed : List ProbedHost) :
    listAllSessions config hostname probed =
      (groupByKey ProbedHost.serverId (probed.filter isListable)).map (sectionOf config hostname) := by
  rw [listAllSessions, groupByDaemon_eq, renderGroups, List.map_map]
  rfl

end

/-! ### Rows -/

section

variable {ambient : String} {session : SessionEntry} {sessions : List SessionEntry}

/-- A session is the viewer's own exactly when its namespace is the viewer's name. -/
theorem isOwnRow_iff (plain : '/' ∉ ambient.toList) :
    isOwnRow ambient session = true ↔ ambient ≠ "" ∧ namespaceOf session.name = some ambient := by
  unfold isOwnRow namespaceOf
  rw [Bool.and_eq_true, decide_eq_true_eq, List.isPrefixOf_iff_prefix]
  apply and_congr_right
  intro _
  constructor
  · intro begins
    obtain ⟨back, whole⟩ := begins
    have cut : splitAtFirst '/' session.name.toList = some (ambient.toList, back) := by
      rw [splitAtFirst_eq_some]
      exact ⟨by rw [← whole, List.append_assoc]; rfl, plain⟩
    rw [cut, Option.map_some, String.ofList_toList]
  · intro named
    obtain ⟨⟨front, back⟩, cut, same⟩ := Option.map_eq_some_iff.mp named
    obtain ⟨whole, -⟩ := splitAtFirst_eq_some.mp cut
    refine ⟨back, ?_⟩
    rw [whole, ← same, String.toList_ofList, List.append_assoc]
    rfl

/-- The key that rows of a namespace are sorted by. -/
def spaceKey (ambient : String) (space : Option String) : Bool ×ₗ Bool ×ₗ String :=
  toLex (!decide (ambient ≠ "" ∧ space = some ambient), toLex (space.isNone, space.getD ""))

/-- A row's key is its name's, with the ambient name in front where the session is one's own. -/
theorem rowKey_eq (plain : '/' ∉ ambient.toList) (session : SessionEntry) :
    rowKey (session, isOwnRow ambient session) = spaceKey ambient (namespaceOf session.name) := by
  have own : isOwnRow ambient session =
      decide (ambient ≠ "" ∧ namespaceOf session.name = some ambient) := by
    rw [Bool.eq_iff_iff, isOwnRow_iff plain, decide_eq_true_eq]
  rw [own]
  rfl

/-- Rows of different namespaces have different keys. -/
theorem spaceKey_injective (ambient : String) : Function.Injective (spaceKey ambient) := by
  intro first second same
  have parts := congrArg (fun key => (ofLex (ofLex key).2)) same
  simp only [spaceKey, ofLex_toLex, Prod.mk.injEq] at parts
  cases first with
  | none =>
    cases second with
    | none => rfl
    | some space => exact absurd parts.1 (by simp)
  | some space =>
    cases second with
    | none => exact absurd parts.1 (by simp)
    | some other => rw [show space = other from parts.2]

/-- Rows without a namespace are last. -/
theorem spaceKey_none {space : Option String} (later : spaceKey ambient none ≤ spaceKey ambient space) :
    space = none := by
  cases space with
  | none => rfl
  | some name =>
    exfalso
    unfold spaceKey at later
    rw [Prod.Lex.toLex_le_toLex] at later
    simp only [reduceCtorEq, and_false, decide_false, Bool.not_false] at later
    rcases later with less | ⟨-, rest⟩
    · exact absurd less (by simp)
    · rw [Prod.Lex.toLex_le_toLex] at rest
      simp only [Option.isNone_none, Option.isNone_some] at rest
      exact absurd rest (by simp)

/-- Ordering a daemon's sessions gives rows of exactly them. -/
theorem rowsOf_orderSessions (plain : '/' ∉ ambient.toList) (sessions : List SessionEntry) :
    RowsOf ambient sessions (orderSessions sessions ambient) := by
  have trans : ∀ a b c : SessionEntry × Bool, decide (rowKey a ≤ rowKey b) = true →
      decide (rowKey b ≤ rowKey c) = true → decide (rowKey a ≤ rowKey c) = true := by
    intro a b c first second
    exact decide_eq_true (le_trans (of_decide_eq_true first) (of_decide_eq_true second))
  have total : ∀ a b : SessionEntry × Bool,
      (decide (rowKey a ≤ rowKey b) || decide (rowKey b ≤ rowKey a)) = true := by
    intro a b
    rw [Bool.or_eq_true, decide_eq_true_eq, decide_eq_true_eq]
    exact le_total _ _
  have perm := List.mergeSort_perm
    (sessions.map fun session => (session, isOwnRow ambient session))
    fun first second => decide (rowKey first ≤ rowKey second)
  have listed : ∀ row ∈ sessions.map fun session => (session, isOwnRow ambient session),
      row.2 = isOwnRow ambient row.1 ∧ rowKey row = spaceKey ambient (namespaceOf row.1.name) := by
    intro row among
    obtain ⟨session, -, rfl⟩ := List.mem_map.mp among
    exact ⟨rfl, rowKey_eq plain session⟩
  have marked : ∀ row ∈ orderSessions sessions ambient,
      row.2 = isOwnRow ambient row.1 ∧ rowKey row = spaceKey ambient (namespaceOf row.1.name) :=
    fun row among => listed row (perm.mem_iff.mp among)
  have sorted : (orderSessions sessions ambient).Pairwise fun first second =>
      rowKey first ≤ rowKey second :=
    (List.pairwise_mergeSort trans total _).imp fun inOrder => of_decide_eq_true inOrder
  constructor
  · have named := perm.map Prod.fst
    rw [List.map_map] at named
    exact named.trans (by rw [show Prod.fst ∘ (fun session => (session, isOwnRow ambient session)) = id
      from rfl, List.map_id])
  · exact fun row among => (marked row among).1
  · refine sorted.imp fun {first second} inOrder own => ?_
    unfold rowKey at inOrder
    rw [Prod.Lex.toLex_le_toLex, own] at inOrder
    rcases inOrder with less | ⟨same, -⟩
    · exact absurd less (by simp)
    · simpa using same
  · refine sorted.imp_of_mem fun {first second} isFirst isSecond inOrder none_ => ?_
    rw [(marked first isFirst).2, (marked second isSecond).2, none_] at inOrder
    exact spaceKey_none inOrder
  · intro first middle last inside same
    have three := sorted.sublist inside
    obtain ⟨fromFirst, fromMiddle⟩ := List.pairwise_cons.mp three
    have firstMiddle := fromFirst middle List.mem_cons_self
    have middleLast := (List.pairwise_cons.mp fromMiddle).1 last List.mem_cons_self
    have isFirst := inside.subset List.mem_cons_self
    have isMiddle := inside.subset (List.mem_cons_of_mem _ List.mem_cons_self)
    have isLast := inside.subset (List.mem_cons_of_mem _ (List.mem_cons_of_mem _ List.mem_cons_self))
    rw [(marked first isFirst).2, (marked middle isMiddle).2] at firstMiddle
    -- The middle row lies between two equal keys.
    rw [(marked middle isMiddle).2, (marked last isLast).2, ← same] at middleLast
    exact spaceKey_injective ambient (le_antisymm middleLast firstMiddle)
  · intro space
    have tied : ∀ a ∈ sessions.map fun session => (session, isOwnRow ambient session),
        ∀ b ∈ sessions.map fun session => (session, isOwnRow ambient session),
          decide (namespaceOf a.1.name = space) = true → decide (namespaceOf b.1.name = space) = true →
            decide (rowKey a ≤ rowKey b) = true := by
      intro a isA b isB ofA ofB
      rw [decide_eq_true_eq, (listed a isA).2, (listed b isB).2, of_decide_eq_true ofA,
        of_decide_eq_true ofB]
    have kept := filter_mergeSort trans total tied
    rw [List.filter_map]
    change ((orderSessions sessions ambient).filter fun row =>
      decide (namespaceOf row.1.name = space)).map Prod.fst = _
    unfold orderSessions
    rw [kept, List.filter_map, List.map_map]
    exact List.map_id _

end

/-! ### The listing -/

section

variable {endpoints : List ProbedHost}

/-- A group's members are its endpoints', in their order. -/
theorem groupOf_members (endpoints : List ProbedHost) :
    (groupOf endpoints).members = endpoints.map (·.member) := by
  cases endpoints <;> rfl

/-- The name that sessions are shown for can be a prefix, so it has no slash. -/
theorem clientName_plain (config : ConfigFile) (hostname : String) (group : HostGroup) :
    '/' ∉ (group.clientName config hostname).toList :=
  (validateClientName_ok (sanitizeClientName_valid _)).2

/-- Of all probed hosts, each server's sessions are listed once, under all its endpoints. -/
theorem listsAll (config : ConfigFile) (hostname : String) (probed : List ProbedHost) :
    ListsAll config hostname probed := by
  have grouped := grouped_groupByKey ProbedHost.serverId (probed.filter isListable)
  have shown := listAllSessions_eq config hostname probed
  generalize groupByKey ProbedHost.serverId (probed.filter isListable) = groups at grouped shown
  have member : ∀ group ∈ groups, ∀ endpoint ∈ group, endpoint ∈ probed := by
    intro group isGroup endpoint inside
    have listable := grouped.all.mem_iff.mp (List.mem_flatten.mpr ⟨group, isGroup, inside⟩)
    exact (List.mem_filter.mp listable).1
  constructor
  · exact ⟨groups, grouped, shown⟩
  · rw [shown, List.flatMap_map]
    simp only [sectionOf, groupOf_members]
    rw [← List.map_flatMap, List.flatMap_id']
    exact grouped.all.map _
  · intro section_ among rows hasRows
    rw [shown] at among
    obtain ⟨group, isGroup, rfl⟩ := List.mem_map.mp among
    obtain ⟨first, rest, rfl⟩ := List.exists_cons_of_ne_nil (grouped.begun group isGroup)
    simp only [sectionOf, groupOf] at hasRows
    cases answered : first.outcome with
    | error error =>
      rw [answered] at hasRows
      exact nomatch hasRows
    | ok answer =>
      obtain ⟨serverId, sessions⟩ := answer
      rw [answered] at hasRows
      obtain rfl := Except.ok.inj hasRows
      exact ⟨first, member _ isGroup first List.mem_cons_self, serverId, sessions, answered, rfl, _,
        clientName_plain config hostname _, rowsOf_orderSessions (clientName_plain config hostname _) _⟩
  · intro section_ among error hasError
    rw [shown] at among
    obtain ⟨group, isGroup, rfl⟩ := List.mem_map.mp among
    obtain ⟨first, rest, rfl⟩ := List.exists_cons_of_ne_nil (grouped.begun group isGroup)
    simp only [sectionOf, groupOf] at hasError
    cases answered : first.outcome with
    | ok answer =>
      rw [answered] at hasError
      exact nomatch hasError
    | error failure =>
      rw [answered] at hasError
      obtain rfl := Except.error.inj hasError
      -- Without an answer there is no daemon, so the endpoint is alone.
      have none_ : keyOf ProbedHost.serverId (first :: rest) = none := by
        unfold keyOf ProbedHost.serverId
        rw [List.head?_cons, Option.bind_some, answered]
        rfl
      obtain ⟨only, alone⟩ := grouped.alone _ isGroup none_
      obtain ⟨rfl, rfl⟩ := List.cons.inj alone
      exact ⟨first, member _ isGroup first List.mem_cons_self, answered, rfl⟩

end

/-! ### Endpoints -/

section

variable {sights : TunnelSights} {files : List Text} {candidates : List DaemonProbe}

/-- Of the candidates, the first of each host is kept. -/
theorem foldl_seeProbe (candidates : List DaemonProbe) :
    ((candidates.foldl seeProbe []).map (·.host)).Nodup ∧
      (∀ probe ∈ candidates.foldl seeProbe [], probe ∈ candidates) ∧
      ∀ probe ∈ candidates, ∃ kept ∈ candidates.foldl seeProbe [], kept.host = probe.host := by
  induction candidates using List.reverseRecOn with
  | nil =>
    exact ⟨List.nodup_nil, fun _ among => absurd among List.not_mem_nil,
      fun _ among => absurd among List.not_mem_nil⟩
  | append_singleton earlier last ih =>
    obtain ⟨distinct, sound, complete⟩ := ih
    rw [List.foldl_append, List.foldl_cons, List.foldl_nil]
    unfold seeProbe
    -- A host that was seen before is not probed again.
    split
    · next seen =>
      refine ⟨distinct, fun probe among => List.mem_append_left _ (sound probe among),
        fun probe among => ?_⟩
      rcases List.mem_append.mp among with old | here
      · exact complete probe old
      · rw [List.mem_singleton.mp here]
        obtain ⟨kept, isKept, same⟩ := List.mem_map.mp seen
        exact ⟨kept, isKept, same⟩
    · next new =>
      refine ⟨?_, fun probe among => ?_, fun probe among => ?_⟩
      · rw [List.map_append, List.map_singleton]
        exact distinct.append (List.nodup_singleton _) (List.disjoint_singleton.mpr new)
      · rcases List.mem_append.mp among with old | here
        · exact List.mem_append_left _ (sound probe old)
        · exact List.mem_append_right _ here
      · rcases List.mem_append.mp among with old | here
        · obtain ⟨kept, isKept, same⟩ := complete probe old
          exact ⟨kept, List.mem_append_left _ isKept, same⟩
        · rw [List.mem_singleton.mp here]
          exact ⟨last, List.mem_append_right _ (List.mem_singleton_self last), rfl⟩

/-- A file gives a tunnel's name exactly if it is that tunnel's socket. -/
theorem ctlSocketTunnelName_iff {file host : Text} :
    ctlSocketTunnelName file = some host ↔ file = connectSidecarPath host SidecarKind.sock.ext := by
  unfold ctlSocketTunnelName
  rw [cut_eq_some]
  rfl

/-- A file gives a tunnel's name exactly if it is that tunnel's lock. -/
theorem lockName_iff {file host : Text} :
    lockName file = some host ↔ file = connectSidecarPath host SidecarKind.lock.ext := by
  unfold lockName
  rw [cut_eq_some]
  rfl

/-- A name is a tunnel's exactly if its lock is there. -/
theorem mem_enumerateTunnels_iff {host : Text} :
    host ∈ enumerateTunnels files ↔ connectSidecarPath host SidecarKind.lock.ext ∈ files := by
  unfold enumerateTunnels
  rw [List.mem_mergeSort, List.mem_filterMap]
  constructor
  · rintro ⟨file, isFile, read⟩
    exact lockName_iff.mp read ▸ isFile
  · exact fun isFile => ⟨_, isFile, lockName_iff.mpr rfl⟩

/-- What is left of the files when a tunnel is swept away. -/
theorem mem_cleanupIfUnheld {name file : Text} :
    file ∈ cleanupIfUnheld sights name files ↔ file ∈ files ∧
      ¬ (sights.unheld name = true ∧ ∃ kind ∈ [SidecarKind.lock, .sock, .pid, .info, .kick],
        file = connectSidecarPath name kind.ext) := by
  unfold cleanupIfUnheld cleanupStaleFiles
  split
  · next free =>
    simp only [List.mem_filter, decide_eq_true_eq, List.mem_map, free, true_and, List.mem_cons,
      List.not_mem_nil, or_false, exists_eq_or_imp, exists_eq_left, not_or, eq_comm (a := file)]
    tauto
  · next held =>
    exact ⟨fun isFile => ⟨isFile, fun both => held both.1⟩, And.left⟩

/-- The tunnels of some names that are looked after, behind those gathered before. -/
theorem gathered_tunnels (names : List Text) (gathered : List TunnelInfo × List Text)
    (info : TunnelInfo) : info ∈ (names.foldl (gatherTunnel sights true) gathered).1 ↔
      info ∈ gathered.1 ∨ ∃ host ∈ names, sights.status host ≠ .stale ∧ info = tunnelInfo sights host := by
  induction names generalizing gathered with
  | nil => simp
  | cons name rest ih =>
    rw [List.foldl_cons, ih, List.exists_mem_cons_iff]
    unfold gatherTunnel
    by_cases stale : sights.status name = .stale
    · simp only [stale, decide_true, Bool.and_true, if_true, ne_eq, not_true, false_and, false_or]
    · simp only [stale, decide_false, Bool.and_true, Bool.false_eq_true, if_false, ne_eq,
        not_false_iff, true_and, List.mem_append, List.mem_singleton, or_assoc]

/-- What is left of the files once some names were looked at. -/
theorem gathered_left (names : List Text) (gathered : List TunnelInfo × List Text) (file : Text) :
    file ∈ (names.foldl (gatherTunnel sights true) gathered).2 ↔ file ∈ gathered.2 ∧
      ¬ ∃ host ∈ names, sights.status host = .stale ∧ sights.unheld host = true ∧
        ∃ kind ∈ [SidecarKind.lock, .sock, .pid, .info, .kick],
          file = connectSidecarPath host kind.ext := by
  induction names generalizing gathered with
  | nil => simp
  | cons name rest ih =>
    rw [List.foldl_cons, ih, List.exists_mem_cons_iff]
    unfold gatherTunnel
    by_cases stale : sights.status name = .stale
    · simp only [stale, decide_true, Bool.and_true, if_true, true_and, mem_cleanupIfUnheld, not_or,
        and_assoc]
    · simp only [stale, decide_false, Bool.and_true, Bool.false_eq_true, if_false, false_and, false_or]

/-- Of what is swept away, the lock and the state go. -/
theorem getTunnelInfo_left (file : Text) : file ∈ (getTunnelInfo sights files).2 ↔ file ∈ files ∧
    ¬ ∃ host, sights.Sweeps files host ∧ ∃ kind ∈ [SidecarKind.lock, .sock, .pid, .info, .kick],
      file = connectSidecarPath host kind.ext := by
  unfold getTunnelInfo gatherTunnelInfo
  rw [gathered_left]
  simp only [mem_enumerateTunnels_iff, TunnelSights.Sweeps, and_assoc]

/-- A socket is left unless its own tunnel was swept away. -/
theorem sock_left {host : Text} :
    connectSidecarPath host SidecarKind.sock.ext ∈ (getTunnelInfo sights files).2 ↔
      connectSidecarPath host SidecarKind.sock.ext ∈ files ∧ ¬ sights.Sweeps files host := by
  rw [getTunnelInfo_left]
  refine and_congr_right fun _ => not_congr ⟨?_, fun swept => ?_⟩
  · rintro ⟨other, swept, kind, -, same⟩
    -- The name of the socket tells whose it is.
    have one : Artifact.sidecar host .sock = .sidecar other kind := Artifact.name_injective same
    obtain ⟨rfl, -⟩ := Artifact.sidecar.inj one
    exact swept
  · exact ⟨host, swept, .sock, by simp, rfl⟩

/-- What is discovered beside this machine itself. -/
theorem mem_discoverDaemonProbes {probe : DaemonProbe} :
    probe ∈ discoverDaemonProbes sights files ↔
      resolveCtlPath "local".toList ∈ files ∧ probe = localProbe ∨
        probe ∈ ((getTunnelInfo sights files).1.map tunnelProbe ++
          ((getTunnelInfo sights files).2.filterMap ctlSocketTunnelName).map socketProbe).foldl
            seeProbe [] := by
  unfold discoverDaemonProbes
  rw [List.mem_append, List.mem_mergeSort]
  apply or_congr_left
  split
  · next here => exact ⟨fun among => ⟨here, List.mem_singleton.mp among⟩,
      fun both => List.mem_singleton.mpr both.2⟩
  · next absent => exact ⟨fun among => absurd among List.not_mem_nil, fun both => absurd both.1 absent⟩

/-- A look at the directory finds every tunnel that is held, and every socket that is left. -/
theorem discovers (sights : TunnelSights) (files : List Text) : Discovers sights files := by
  obtain ⟨distinct, sound, complete⟩ := foldl_seeProbe
    ((getTunnelInfo sights files).1.map tunnelProbe ++
      ((getTunnelInfo sights files).2.filterMap ctlSocketTunnelName).map socketProbe)
  refine ⟨?_, ?_, fun info => ?_, getTunnelInfo_left, ?_⟩
  · intro probe both
    have remote := (mem_discoverDaemonProbes.mp both.1).resolve_left fun local_ => both.2 local_.2
    -- What was kept was a candidate, of a tunnel or of a socket.
    rcases List.mem_append.mp (sound probe remote) with tunnel | socket
    · obtain ⟨info, isInfo, rfl⟩ := List.mem_map.mp tunnel
      exact .inl ⟨info, isInfo, rfl⟩
    · obtain ⟨host, named, rfl⟩ := List.mem_map.mp socket
      obtain ⟨file, isFile, read⟩ := List.mem_filterMap.mp named
      exact .inr ⟨host, rfl, sock_left.mp (ctlSocketTunnelName_iff.mp read ▸ isFile)⟩
  · intro host there
    have candidate : ∃ probe ∈ (getTunnelInfo sights files).1.map tunnelProbe ++
        ((getTunnelInfo sights files).2.filterMap ctlSocketTunnelName).map socketProbe,
          probe.host = host := by
      rcases there with ⟨info, isInfo, named⟩ | socket
      · exact ⟨tunnelProbe info, List.mem_append_left _ (List.mem_map_of_mem isInfo), named⟩
      · exact ⟨socketProbe host, List.mem_append_right _ (List.mem_map_of_mem
          (List.mem_filterMap.mpr ⟨_, sock_left.mpr socket, ctlSocketTunnelName_iff.mpr rfl⟩)), rfl⟩
    obtain ⟨probe, isProbe, named⟩ := candidate
    obtain ⟨kept, isKept, same⟩ := complete probe isProbe
    exact ⟨kept, mem_discoverDaemonProbes.mpr (.inr isKept), same.trans named⟩
  · unfold getTunnelInfo gatherTunnelInfo
    rw [gathered_tunnels]
    simp only [List.not_mem_nil, false_or, mem_enumerateTunnels_iff]
    exact exists_congr fun host => ⟨fun all => ⟨all.2.2, all.1, all.2.1⟩,
      fun all => ⟨all.2.1, all.2.2, all.1⟩⟩
  · -- The hosts of the remote ones are distinct, and sorting keeps them so.
    unfold discoverDaemonProbes
    simp only []
    rw [List.filter_append, List.map_append]
    have no_local : ((if resolveCtlPath "local".toList ∈ files then [localProbe] else []).filter
        fun probe => decide (probe ≠ localProbe)) = [] := by
      rw [List.filter_eq_nil_iff]
      intro probe among
      split at among
      · rw [List.mem_singleton.mp among]
        simp
      · exact absurd among List.not_mem_nil
    rw [no_local, List.map_nil, List.nil_append]
    have sorted := ((List.mergeSort_perm (((getTunnelInfo sights files).1.map tunnelProbe ++
      ((getTunnelInfo sights files).2.filterMap ctlSocketTunnelName).map socketProbe).foldl seeProbe [])
        fun first second => decide (first.host ≤ second.host)).map (·.host)).nodup_iff.mpr distinct
    exact sorted.sublist (List.filter_sublist.map _)

/-- Of a dead tunnel, its socket is swept away with it. -/
example : (discoverDaemonProbes ⟨fun _ => .stale, fun _ => none, fun _ => true⟩
    ["connect-old.lock".toList, "connect-old.sock".toList]) = [] := by decide +kernel

end

end Gritty
