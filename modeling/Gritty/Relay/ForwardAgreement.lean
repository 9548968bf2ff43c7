import Gritty.Lib.Transition
import Gritty.Relay.ForwardTable

/-! The two places where the server keeps the writers of forwarded connections say the same. -/

namespace Gritty

namespace PortForwardTable

/-- A forward was stopped on the server's side: the socket of the program that asked was dropped. -/
def stopped (table : PortForwardTable) (forwardId : UInt32) : PortForwardTable × List Frame :=
  if (table.forwards.lookup forwardId).isSome then
    (table.portForwardStop forwardId, [.portForwardStop forwardId])
  else (table, [])

/-- The writer that a forward itself keeps for a channel. -/
def listed (table : PortForwardTable) (forwardId channelId : UInt32) : Option ConnId :=
  (table.forwards.lookup forwardId).bind fun forward => forward.channels.lookup channelId

/-- A channel belongs to a forward in the one table exactly if it does in the other. -/
def Agree (table : PortForwardTable) : Prop :=
  ∀ channelId forwardId conn, table.channels.lookup channelId = some (forwardId, conn) ↔
    ∃ forward, table.forwards.lookup forwardId = some forward ∧
      forward.channels.lookup channelId = some conn

/-- Somewhere in the tables there is a writer of the connection, which keeps it open. -/
def Holds (table : PortForwardTable) (conn : ConnId) : Prop :=
  (∃ channelId forwardId, table.channels.lookup channelId = some (forwardId, conn)) ∨
    ∃ forwardId channelId, table.listed forwardId channelId = some conn

/-- The two maps agree when they name the same writer for each channel of each forward. -/
theorem agree_iff {table : PortForwardTable} :
    -- Both sides name a writer, so the agreement is one equivalence for each channel and forward.
    table.Agree ↔ ∀ channelId forwardId conn,
      table.channels.lookup channelId = some (forwardId, conn) ↔
        table.listed forwardId channelId = some conn := by
  simp only [Agree, listed, Option.bind_eq_some_iff]

/-! ### What a forward keeps -/

section

variable (table : PortForwardTable) (forwardId channelId : UInt32)

/-- Changing one forward's channels changes what is listed under it alone. -/
theorem listed_updateForward (other otherChannel : UInt32)
    (update : ChannelMap ConnId → ChannelMap ConnId) :
    (table.updateForward forwardId update).listed other otherChannel =
      if other = forwardId then (table.forwards.lookup forwardId).bind fun forward =>
        (update forward.channels).lookup otherChannel
      else table.listed other otherChannel := by
  rw [listed, updateForward_lookup]
  split_ifs with same
  · rw [Option.bind_map]
    rfl
  · rfl

/-- A registered channel is listed under its forward, and nothing else is new. -/
theorem listed_register {conn : ConnId} (known : (table.forwards.lookup forwardId).isSome = true)
    (other otherChannel : UInt32) :
    (table.register forwardId channelId conn).listed other otherChannel =
      if other = forwardId ∧ otherChannel = channelId then some conn
      else table.listed other otherChannel := by
  obtain ⟨forward, found⟩ := Option.isSome_iff_exists.mp known
  -- The entry goes into the other table as well, which the forward's own list does not see.
  have kept := listed_updateForward { table with
    channels := table.channels.insert channelId (forwardId, conn) } forwardId other otherChannel
    (·.insert channelId conn)
  rw [register, kept]
  dsimp only
  rw [found, Option.bind_some]
  -- Only the list of the forward itself changes, and only at the number of the channel.
  by_cases mine : other = forwardId
  · subst mine
    by_cases same : otherChannel = channelId
    · rw [same, AList.lookup_insert, if_pos rfl, if_pos ⟨rfl, rfl⟩]
    · rw [AList.lookup_insert_ne same, if_pos rfl, if_neg fun both => same both.2, listed, found,
        Option.bind_some]
  · rw [if_neg mine, if_neg fun both => mine both.1]
    rfl

/-- A closed channel is out of the channels, and the others stay. -/
theorem channels_close (other : UInt32) : (table.close channelId).channels.lookup other =
    if other = channelId then none else table.channels.lookup other := by
  unfold close
  -- A channel that is not there is not closed, and then it is not there afterwards either.
  cases found : table.channels.lookup channelId with
  | none =>
    split_ifs with same
    · rw [same, found]
    · rfl
  | some entry =>
    simp only [updateForward_channels]
    split_ifs with same
    · rw [same, AList.lookup_erase]
    · rw [AList.lookup_erase_ne same]

/-- A closed channel is out of its forward's list, and the others stay. -/
theorem listed_close {conn : ConnId}
    (found : table.channels.lookup channelId = some (forwardId, conn)) (other otherChannel : UInt32) :
    (table.close channelId).listed other otherChannel =
      if other = forwardId ∧ otherChannel = channelId then none
      else table.listed other otherChannel := by
  rw [close, found]
  dsimp only
  rw [listed_updateForward]
  -- Only the forward that the entry names drops the channel from its list.
  by_cases mine : other = forwardId
  · subst mine
    rw [if_pos rfl]
    by_cases same : otherChannel = channelId
    · rw [if_pos ⟨rfl, same⟩, same]
      simp only [AList.lookup_erase, Option.bind_fun_none]
    · rw [if_neg fun both => same both.2]
      simp only [AList.lookup_erase_ne same]
      rfl
  · rw [if_neg mine, if_neg fun both => mine both.1]
    rfl

theorem close_of_none (missing : table.channels.lookup channelId = none) :
    table.close channelId = table := by
  rw [close, missing]

theorem listed_stop (other otherChannel : UInt32) :
    (table.portForwardStop forwardId).listed other otherChannel =
      if other = forwardId then none else table.listed other otherChannel := by
  rw [listed, portForwardStop_forwards]
  split_ifs <;> rfl

/-- Stopping a forward takes away the channels that the forward itself lists. -/
theorem channels_stop (otherChannel : UInt32) :
    (table.portForwardStop forwardId).channels.lookup otherChannel =
      if (table.listed forwardId otherChannel).isSome then none
      else table.channels.lookup otherChannel := by
  -- The channels are erased one by one as the forward lists them.
  unfold portForwardStop listed
  cases found : table.forwards.lookup forwardId with
  | none => rfl
  | some forward =>
    simp only [lookup_foldl_erase, Option.bind_some, AList.lookup_isSome, AList.mem_keys]

/-- A request starts its forward with nothing listed, if it starts it at all. -/
theorem listed_request (direction : UInt8) (targetPort : UInt16) (bound : Option AcceptorId)
    (other otherChannel : UInt32) :
    (table.portForwardRequest forwardId direction targetPort bound).1.listed other otherChannel =
      if other = forwardId ∧ (direction ≠ 0 ∨ bound.isSome = true) then none
      else table.listed other otherChannel := by
  -- A forward that is requested anew lists nothing.
  rw [listed, portForwardRequest_lookup]
  split_ifs <;> rfl

end

/-! ### The tables keep agreeing -/

variable {table : PortForwardTable}

/-- Registering a new channel of a known forward keeps the maps in agreement. -/
theorem Agree.register (agree : table.Agree) {forwardId channelId : UInt32} {conn : ConnId}
    (known : (table.forwards.lookup forwardId).isSome = true)
    (fresh : table.channels.lookup channelId = none) :
    (table.register forwardId channelId conn).Agree := by
  rw [agree_iff] at agree ⊢
  -- At the number of the new channel both tables show its writer, and elsewhere what they showed.
  intro other owner holder
  rw [register_channels, listed_register table forwardId channelId known]
  by_cases same : other = channelId
  · subst same
    rw [AList.lookup_insert]
    by_cases mine : owner = forwardId
    · rw [if_pos ⟨mine, rfl⟩, mine, Option.some.injEq, Prod.mk.injEq, Option.some.injEq]
      exact ⟨fun both => both.2, fun writer => ⟨rfl, writer⟩⟩
    · -- The channel is new, so no other forward lists it.
      rw [if_neg fun both => mine both.1, ← agree other owner holder, fresh]
      refine ⟨fun other => ?_, fun none_ => absurd none_.symm (Option.some_ne_none _)⟩
      rw [Option.some.injEq, Prod.mk.injEq] at other
      exact absurd other.1.symm mine
  · rw [AList.lookup_insert_ne same, if_neg fun both => same both.2]
    exact agree other owner holder

/-- Closing a channel keeps the maps in agreement. -/
theorem Agree.close (agree : table.Agree) (channelId : UInt32) : (table.close channelId).Agree := by
  cases found : table.channels.lookup channelId with
  | none => rwa [close_of_none table channelId found]
  | some entry =>
    rw [agree_iff] at agree ⊢
    -- The closed channel is gone from both tables, and the others are where they were.
    intro other owner holder
    rw [channels_close, listed_close table entry.1 channelId found]
    by_cases same : other = channelId
    · subst same
      rw [if_pos rfl]
      by_cases mine : owner = entry.1
      · rw [if_pos ⟨mine, rfl⟩]
        simp only [reduceCtorEq]
      · -- The channel belonged to one forward only.
        rw [if_neg fun both => mine both.1, ← agree other owner holder, found]
        refine ⟨fun none_ => absurd none_.symm (Option.some_ne_none _), fun also => ?_⟩
        exact absurd (congrArg Prod.fst (Option.some.inj also)).symm mine
    · rw [if_neg same, if_neg fun both => same both.2]
      exact agree other owner holder

/-- Stopping a forward keeps the maps in agreement. -/
theorem Agree.stop (agree : table.Agree) (forwardId : UInt32) :
    (table.portForwardStop forwardId).Agree := by
  rw [agree_iff] at agree ⊢
  intro other owner holder
  rw [channels_stop, listed_stop]
  -- The stopped forward takes its list along, and every channel on it.
  by_cases mine : owner = forwardId
  · subst mine
    rw [if_pos rfl]
    refine ⟨fun left => ?_, fun none_ => absurd none_.symm (Option.some_ne_none _)⟩
    split_ifs at left with gone
    rw [(agree other owner holder).mp left] at gone
    exact absurd rfl gone
  · rw [if_neg mine, ← agree other owner holder]
    by_cases gone : (table.listed forwardId other).isSome = true
    · -- A channel of the stopped forward is in the other table under that forward.
      obtain ⟨writer, there⟩ := Option.isSome_iff_exists.mp gone
      rw [if_pos gone, (agree other forwardId writer).mpr there]
      refine ⟨fun none_ => absurd none_.symm (Option.some_ne_none _), fun also => ?_⟩
      exact absurd (congrArg Prod.fst (Option.some.inj also)).symm mine
    · rw [if_neg gone]

/-- A request for a forward that is not there keeps the maps in agreement. -/
theorem Agree.request (agree : table.Agree) {forwardId : UInt32} (direction : UInt8)
    (targetPort : UInt16) (bound : Option AcceptorId)
    (absent : table.forwards.lookup forwardId = none) :
    (table.portForwardRequest forwardId direction targetPort bound).1.Agree := by
  rw [agree_iff] at agree ⊢
  intro other owner holder
  -- The number of the forward is new, so there was no list for it to lose.
  rw [portForwardRequest_channels, listed_request, agree other owner holder]
  split_ifs with mine
  · rw [listed, mine.1, absent, Option.bind_none]
    simp only [reduceCtorEq]
  · rfl

theorem Agree.teardown (table : PortForwardTable) : table.teardown.Agree := by
  rw [agree_iff]
  intro other owner holder
  simp only [PortForwardTable.teardown, listed, AList.lookup_empty, Option.bind_none, reduceCtorEq]

/-! ### Which writers are left -/

/-- Where the maps agree, what is held is what the channels name. -/
theorem Agree.holds_iff (agree : table.Agree) {conn : ConnId} :
    table.Holds conn ↔
      ∃ channelId forwardId, table.channels.lookup channelId = some (forwardId, conn) := by
  rw [agree_iff] at agree
  -- Where the tables agree, what a forward lists is in the table of channels too.
  constructor
  · rintro (there | ⟨forwardId, channelId, there⟩)
    · exact there
    · exact ⟨channelId, forwardId, (agree channelId forwardId conn).mpr there⟩
  · exact Or.inl

/-- A registration makes the table hold one connection more. -/
theorem holds_register {forwardId channelId : UInt32} {conn other : ConnId}
    (known : (table.forwards.lookup forwardId).isSome = true)
    (holds : (table.register forwardId channelId conn).Holds other) :
    other = conn ∨ table.Holds other := by
  -- The connection is in one of the two tables; both show the new one or what they showed.
  rcases holds with ⟨otherChannel, owner, there⟩ | ⟨owner, otherChannel, there⟩
  · rcases register_lookup there with ⟨-, same⟩ | before
    · exact Or.inl same
    · exact Or.inr (Or.inl ⟨otherChannel, owner, before⟩)
  · rw [listed_register table forwardId channelId known] at there
    split_ifs at there
    · exact Or.inl (Option.some.inj there).symm
    · exact Or.inr (Or.inr ⟨owner, otherChannel, there⟩)

/-- Closing a channel makes the table hold nothing new. -/
theorem holds_close {channelId : UInt32} {conn : ConnId}
    (holds : (table.close channelId).Holds conn) : table.Holds conn := by
  -- Closing removes from both tables, and nothing is added to either.
  rcases holds with ⟨other, owner, there⟩ | ⟨owner, other, there⟩
  · exact Or.inl ⟨other, owner, close_lookup there⟩
  · right
    cases found : table.channels.lookup channelId with
    | none =>
      rw [close_of_none table channelId found] at there
      exact ⟨owner, other, there⟩
    | some entry =>
      rw [listed_close table entry.1 channelId found] at there
      split_ifs at there
      exact ⟨owner, other, there⟩

/-- Stopping a forward makes the table hold nothing new. -/
theorem holds_stop {forwardId : UInt32} {conn : ConnId}
    (holds : (table.portForwardStop forwardId).Holds conn) : table.Holds conn := by
  rcases holds with ⟨other, owner, there⟩ | ⟨owner, other, there⟩
  · exact Or.inl ⟨other, owner, portForwardStop_lookup there⟩
  · rw [listed_stop] at there
    split_ifs at there
    exact Or.inr ⟨owner, other, there⟩

/-- A request makes the table hold nothing new. -/
theorem holds_request {forwardId : UInt32} {direction : UInt8} {targetPort : UInt16}
    {bound : Option AcceptorId} {conn : ConnId}
    (holds : (table.portForwardRequest forwardId direction targetPort bound).1.Holds conn) :
    table.Holds conn := by
  rcases holds with ⟨other, owner, there⟩ | ⟨owner, other, there⟩
  · rw [portForwardRequest_channels] at there
    exact Or.inl ⟨other, owner, there⟩
  · rw [listed_request] at there
    split_ifs at there
    exact Or.inr ⟨owner, other, there⟩

theorem not_holds_teardown (table : PortForwardTable) (conn : ConnId) :
    ¬ table.teardown.Holds conn := by
  rw [(Agree.teardown table).holds_iff]
  rintro ⟨channelId, forwardId, there⟩
  simp only [teardown, AList.lookup_empty, reduceCtorEq] at there

end PortForwardTable

/-! ### A session's forwards across its clients -/

/-- The forwards of a session, with the numbers that were used for them. -/
structure ForwardsRun where
  table : PortForwardTable
  /-- The forwards and the channels that the attached client has numbered. -/
  usedForwards : List UInt32
  usedChannels : List UInt32
  /-- The numbers that went to accepted connections, and all connections ever made. -/
  accepted : List UInt32
  conns : List ConnId

inductive ForwardsAction where
  | request (forwardId : UInt32) (direction : UInt8) (targetPort : UInt16)
    (bound : Option AcceptorId)
  | open (forwardId channelId : UInt32) (connected : Option ConnId)
  | data (channelId : UInt32) (writerFull : Bool)
  | close (channelId : UInt32)
  | stop (forwardId : UInt32)
  | event (event : PortForwardEvent)
  | stopped (forwardId : UInt32)
  /-- The client is gone or another one takes its place. -/
  | teardown

namespace ForwardsRun

def new : ForwardsRun :=
  { table := .new, usedForwards := [], usedChannels := [], accepted := [], conns := [] }

/-- One step. A number is used once, and every connection is a new one. -/
def step (run : ForwardsRun) : ForwardsAction → Option ForwardsRun
  | .request forwardId direction targetPort bound =>
    -- Clients count their forwards upwards, and start over only with a new connection.
    if forwardId ∈ run.usedForwards then none
    else some { run with
      table := (run.table.portForwardRequest forwardId direction targetPort bound).1
      usedForwards := forwardId :: run.usedForwards }
  | .open forwardId channelId connected =>
    -- The client gives its own channels even numbers.
    if channelId % 2 = 0 ∧ channelId ∉ run.usedChannels ∧
        ∀ conn ∈ connected, conn ∉ run.conns then
      some { run with
        table := (run.table.portForwardOpen forwardId channelId connected).1
        usedChannels := channelId :: run.usedChannels
        conns := connected.toList ++ run.conns }
    else none
  | .data channelId writerFull =>
    some { run with table := (run.table.portForwardData channelId writerFull).1 }
  | .close channelId => some { run with table := run.table.close channelId }
  | .stop forwardId => some { run with table := run.table.portForwardStop forwardId }
  | .event (.accepted forwardId channelId conn) =>
    -- An acceptor gives its channels odd numbers, of one counter for the session.
    if channelId % 2 = 1 ∧ channelId ∉ run.accepted ∧ conn ∉ run.conns then
      some { run with
        table := (run.table.handlePfEvent (.accepted forwardId channelId conn)).1
        accepted := channelId :: run.accepted
        conns := conn :: run.conns }
    else none
  | .event event => some { run with table := (run.table.handlePfEvent event).1 }
  | .stopped forwardId => some { run with table := (run.table.stopped forwardId).1 }
  | .teardown =>
    -- The numbers of accepted connections and the connections themselves stay used.
    some { run with table := run.table.teardown, usedForwards := [], usedChannels := [] }

/-- Numbers and connections are only added. -/
structure Grows (run next : ForwardsRun) : Prop where
  forwards : run.usedForwards ⊆ next.usedForwards
  channels : run.usedChannels ⊆ next.usedChannels
  accepted : run.accepted ⊆ next.accepted
  conns : run.conns ⊆ next.conns

/-- A channel has a number that nobody has used, for its side, and from now on it is used. -/
def TakesNumber (run next : ForwardsRun) (channelId : UInt32) : Prop :=
  (channelId % 2 = 0 ∧ channelId ∉ run.usedChannels ∧ channelId ∈ next.usedChannels) ∨
    (channelId % 2 = 1 ∧ channelId ∉ run.accepted ∧ channelId ∈ next.accepted)

/-- What a step can do to the tables. -/
inductive Moves (run next : ForwardsRun) : Prop where
  | same (table : next.table = run.table) (grows : run.Grows next)
  | registered (forwardId channelId : UInt32) (conn : ConnId)
    (table : next.table = run.table.register forwardId channelId conn)
    (known : (run.table.forwards.lookup forwardId).isSome = true)
    (numbered : run.TakesNumber next channelId) (new : conn ∉ run.conns) (made : conn ∈ next.conns)
    (grows : run.Grows next)
  | closed (channelId : UInt32) (table : next.table = run.table.close channelId)
    (grows : run.Grows next)
  | stopped (forwardId : UInt32) (table : next.table = run.table.portForwardStop forwardId)
    (grows : run.Grows next)
  | requested (forwardId : UInt32) (direction : UInt8) (targetPort : UInt16)
    (bound : Option AcceptorId)
    (table : next.table = (run.table.portForwardRequest forwardId direction targetPort bound).1)
    (absent : forwardId ∉ run.usedForwards) (used : forwardId ∈ next.usedForwards)
    (grows : run.Grows next)
  | tornDown (table : next.table = run.table.teardown) (conns : next.conns = run.conns)

variable {run next : ForwardsRun}

/-- Every step is one of the moves. -/
theorem moves_of_step {action : ForwardsAction} (stepped : run.step action = some next) :
    run.Moves next := by
  -- The steps that number nothing leave everything that was used as it is.
  have kept : ∀ table, Grows run { run with table } := fun _ =>
    ⟨List.Subset.refl _, List.Subset.refl _, List.Subset.refl _, List.Subset.refl _⟩
  cases action with
  | request forwardId direction targetPort bound =>
    simp only [step] at stepped
    split_ifs at stepped with used
    cases stepped
    exact .requested forwardId direction targetPort bound rfl used List.mem_cons_self
      ⟨List.subset_cons_self _ _, List.Subset.refl _, List.Subset.refl _, List.Subset.refl _⟩
  | «open» forwardId channelId connected =>
    simp only [step] at stepped
    split_ifs at stepped with fresh
    obtain ⟨even, unused, new⟩ := fresh
    cases stepped
    have grows : ∀ table, Grows run { run with
        table
        usedChannels := channelId :: run.usedChannels
        conns := connected.toList ++ run.conns } := fun _ =>
      ⟨List.Subset.refl _, List.subset_cons_self _ _, List.Subset.refl _,
        List.subset_append_right _ _⟩
    -- A channel of an unknown forward, or one that failed to connect, is turned down.
    unfold PortForwardTable.portForwardOpen
    split_ifs with known
    · cases connected with
      | none => exact .same rfl (grows _)
      | some conn =>
        exact .registered forwardId channelId conn rfl known
          (Or.inl ⟨even, unused, List.mem_cons_self⟩) (new conn rfl) List.mem_cons_self (grows _)
    · exact .same rfl (grows _)
  | data channelId writerFull =>
    cases stepped
    rcases PortForwardTable.portForwardData_cases run.table channelId writerFull with closed | same
    · exact .closed channelId closed (kept _)
    · exact .same same (kept _)
  | close channelId =>
    cases stepped
    exact .closed channelId rfl (kept _)
  | stop forwardId =>
    cases stepped
    exact .stopped forwardId rfl (kept _)
  | event event =>
    cases event with
    | accepted forwardId channelId conn =>
      simp only [step] at stepped
      split_ifs at stepped with fresh
      obtain ⟨odd, unused, new⟩ := fresh
      cases stepped
      have grows : ∀ table, Grows run { run with
          table
          accepted := channelId :: run.accepted
          conns := conn :: run.conns } := fun _ =>
        ⟨List.Subset.refl _, List.Subset.refl _, List.subset_cons_self _ _,
          List.subset_cons_self _ _⟩
      -- A connection whose forward was stopped meanwhile is dropped.
      simp only [PortForwardTable.handlePfEvent]
      cases known : run.table.forwards.lookup forwardId with
      | none => exact .same rfl (grows _)
      | some forward =>
        exact .registered forwardId channelId conn rfl (by rw [known]; rfl)
          (Or.inr ⟨odd, unused, List.mem_cons_self⟩) new List.mem_cons_self (grows _)
    | data channelId bytes =>
      cases stepped
      simp only [PortForwardTable.handlePfEvent]
      split_ifs <;> exact .same rfl (kept _)
    | closed channelId =>
      cases stepped
      simp only [PortForwardTable.handlePfEvent]
      split_ifs
      · exact .closed channelId rfl (kept _)
      · exact .same rfl (kept _)
  | stopped forwardId =>
    -- A report for a forward that is gone is ignored.
    cases stepped
    unfold PortForwardTable.stopped
    split_ifs
    · exact .stopped forwardId rfl (kept _)
    · exact .same rfl (kept _)
  | teardown =>
    cases stepped
    exact .tornDown rfl rfl

/-- The tables agree, and what is in them has been numbered and made. -/
structure Sound (run : ForwardsRun) : Prop where
  agree : run.table.Agree
  forwards : ∀ forwardId, (run.table.forwards.lookup forwardId).isSome = true →
    forwardId ∈ run.usedForwards
  channels : ∀ channelId entry, run.table.channels.lookup channelId = some entry →
    channelId % 2 = 0 ∧ channelId ∈ run.usedChannels ∨
      channelId % 2 = 1 ∧ channelId ∈ run.accepted
  conns : ∀ channelId entry, run.table.channels.lookup channelId = some entry →
    entry.2 ∈ run.conns
  distinct : ∀ channelId other entry otherEntry,
    run.table.channels.lookup channelId = some entry →
      run.table.channels.lookup other = some otherEntry → entry.2 = otherEntry.2 →
        channelId = other

/-- Before any forward all is in order. -/
theorem new_sound : new.Sound where
  agree := PortForwardTable.Agree.teardown .new
  forwards _ found := by simp [new, PortForwardTable.new] at found
  channels _ _ found := by simp [new, PortForwardTable.new] at found
  conns _ _ found := by simp [new, PortForwardTable.new] at found
  distinct _ _ _ _ found := by simp [new, PortForwardTable.new] at found

/-- A step that only takes away keeps the tables sound. -/
theorem Sound.of_fewer (sound : run.Sound) (grows : run.Grows next) (agree : next.table.Agree)
    (forwards : ∀ forwardId, (next.table.forwards.lookup forwardId).isSome = true →
      forwardId ∈ next.usedForwards)
    (fewer : ∀ channelId entry, next.table.channels.lookup channelId = some entry →
      run.table.channels.lookup channelId = some entry) : next.Sound where
  agree := agree
  forwards := forwards
  channels channelId entry found := by
    rcases sound.channels channelId entry (fewer channelId entry found) with
      ⟨even, used⟩ | ⟨odd, used⟩
    · exact Or.inl ⟨even, grows.channels used⟩
    · exact Or.inr ⟨odd, grows.accepted used⟩
  conns channelId entry found :=
    grows.conns (sound.conns channelId entry (fewer channelId entry found))
  distinct channelId other entry otherEntry found there :=
    sound.distinct channelId other entry otherEntry (fewer channelId entry found)
      (fewer other otherEntry there)

/-- A number that is just taken stands for no channel yet. -/
theorem Sound.fresh (sound : run.Sound) {channelId : UInt32}
    (numbered : run.TakesNumber next channelId) :
    run.table.channels.lookup channelId = none := by
  cases found : run.table.channels.lookup channelId with
  -- What is in the table has been numbered before, by the end that numbers such channels.
  | none => rfl
  | some entry =>
    -- Even numbers are the client's and odd ones the server's, so neither takes one of the other.
    rcases sound.channels channelId entry found with ⟨even, used⟩ | ⟨odd, used⟩ <;>
      rcases numbered with ⟨even', unused, -⟩ | ⟨odd', unused, -⟩
    · exact absurd used unused
    · exact absurd (even.symm.trans odd') (by decide)
    · exact absurd (even'.symm.trans odd) (by decide)
    · exact absurd used unused

/-- A channel that is registered under a new number leaves all in order. -/
theorem Sound.registered (sound : run.Sound) {forwardId channelId : UInt32} {conn : ConnId}
    (table : next.table = run.table.register forwardId channelId conn)
    (known : (run.table.forwards.lookup forwardId).isSome = true)
    (numbered : run.TakesNumber next channelId) (new : conn ∉ run.conns) (made : conn ∈ next.conns)
    (grows : run.Grows next) : next.Sound := by
  have fresh := sound.fresh numbered
  -- A channel of the next state is the new one, or it was there before.
  have lookup : ∀ other entry, next.table.channels.lookup other = some entry →
      other = channelId ∧ entry.2 = conn ∨ run.table.channels.lookup other = some entry := by
    intro other entry found
    rw [table] at found
    exact PortForwardTable.register_lookup found
  refine ⟨?_, ?_, ?_, ?_, ?_⟩
  · rw [table]
    exact sound.agree.register known fresh
  · intro other found
    rw [table, PortForwardTable.register_isSome] at found
    exact grows.forwards (sound.forwards other found)
  · intro other entry found
    rcases lookup other entry found with ⟨rfl, -⟩ | before
    · exact numbered.imp (fun taken => ⟨taken.1, taken.2.2⟩) fun taken => ⟨taken.1, taken.2.2⟩
    · exact (sound.channels other entry before).imp (fun taken => ⟨taken.1, grows.channels taken.2⟩)
        fun taken => ⟨taken.1, grows.accepted taken.2⟩
  · intro other entry found
    rcases lookup other entry found with ⟨-, same⟩ | before
    · rw [same]
      exact made
    · exact grows.conns (sound.conns other entry before)
  · intro one other entry otherEntry found there same
    -- The new connection is none of those before.
    rcases lookup one entry found with ⟨rfl, mine⟩ | before <;>
      rcases lookup other otherEntry there with ⟨rfl, yours⟩ | earlier
    · rfl
    · exact absurd (sound.conns other otherEntry earlier) (by rw [← same, mine]; exact new)
    · exact absurd (sound.conns one entry before) (by rw [same, yours]; exact new)
    · exact sound.distinct one other entry otherEntry before earlier same

/-- Every move leaves all in order. -/
theorem Sound.moves (sound : run.Sound) (moves : run.Moves next) : next.Sound := by
  -- Whatever removes channels keeps what is said about the others; only a registration adds one.
  cases moves with
  | same table grows =>
    refine sound.of_fewer grows (table ▸ sound.agree) ?_ (fun channelId entry found => table ▸ found)
    intro forwardId found
    rw [table] at found
    exact grows.forwards (sound.forwards forwardId found)
  | registered forwardId channelId conn table known numbered new made grows =>
    exact sound.registered table known numbered new made grows
  | closed channelId table grows =>
    refine sound.of_fewer grows (table ▸ sound.agree.close channelId) ?_ ?_
    · intro forwardId found
      rw [table, PortForwardTable.close_isSome] at found
      exact grows.forwards (sound.forwards forwardId found)
    · intro other entry found
      rw [table] at found
      exact PortForwardTable.close_lookup found
  | stopped forwardId table grows =>
    refine sound.of_fewer grows (table ▸ sound.agree.stop forwardId) ?_ ?_
    · intro other found
      rw [table] at found
      exact grows.forwards (sound.forwards other (PortForwardTable.portForwardStop_isSome found))
    · intro other entry found
      rw [table] at found
      exact PortForwardTable.portForwardStop_lookup found
  | requested forwardId direction targetPort bound table absent used grows =>
    -- The number of a requested forward was not used, so there is no forward of that number.
    have missing : run.table.forwards.lookup forwardId = none :=
      Option.not_isSome_iff_eq_none.mp fun found => absent (sound.forwards forwardId found)
    refine sound.of_fewer grows
      (table ▸ sound.agree.request direction targetPort bound missing) ?_ ?_
    · intro other found
      rw [table] at found
      rcases PortForwardTable.portForwardRequest_isSome found with ⟨rfl, -⟩ | before
      · exact used
      · exact grows.forwards (sound.forwards other before)
    · intro other entry found
      rw [table, PortForwardTable.portForwardRequest_channels] at found
      exact found
  | tornDown table conns =>
    have agree := PortForwardTable.Agree.teardown run.table
    rw [← table] at agree
    refine ⟨agree, ?_, ?_, ?_, ?_⟩
    -- Nothing is left in either table.
    all_goals
      simp only [table, PortForwardTable.teardown, AList.lookup_empty, reduceCtorEq,
        Option.isSome_none, Bool.false_eq_true, false_imp_iff, implies_true]

/-- A connection that the tables do not hold is not brought back, once it has been made. -/
theorem Moves.holds (moves : run.Moves next) {conn : ConnId} (holds : next.table.Holds conn) :
    run.table.Holds conn ∨ conn ∉ run.conns := by
  -- Only a registration brings a connection in, and it is one that was never made before.
  cases moves with
  | same table grows => exact Or.inl (table ▸ holds)
  | registered forwardId channelId other table known numbered new made grows =>
    rw [table] at holds
    rcases PortForwardTable.holds_register known holds with rfl | before
    · exact Or.inr new
    · exact Or.inl before
  | closed channelId table grows =>
    rw [table] at holds
    exact Or.inl (PortForwardTable.holds_close holds)
  | stopped forwardId table grows =>
    rw [table] at holds
    exact Or.inl (PortForwardTable.holds_stop holds)
  | requested forwardId direction targetPort bound table absent used grows =>
    rw [table] at holds
    exact Or.inl (PortForwardTable.holds_request holds)
  | tornDown table conns =>
    rw [table] at holds
    exact absurd holds (PortForwardTable.not_holds_teardown _ conn)

/-- Connections are made and never unmade. -/
theorem Moves.conns (moves : run.Moves next) : run.conns ⊆ next.conns := by
  cases moves with
  | same table grows => exact grows.conns
  | registered forwardId channelId conn table known numbered new made grows => exact grows.conns
  | closed channelId table grows => exact grows.conns
  | stopped forwardId table grows => exact grows.conns
  | requested forwardId direction targetPort bound table absent used grows => exact grows.conns
  | tornDown table conns => exact conns ▸ List.Subset.refl _

end ForwardsRun

/-- The connections that an action ends: those of a channel, of a forward, or all of them. -/
def ForwardsAction.Finishes (table : PortForwardTable) (conn : ConnId) : ForwardsAction → Prop
  | .data channelId writerFull =>
    writerFull = true ∧ ∃ forwardId, table.channels.lookup channelId = some (forwardId, conn)
  | .close channelId | .event (.closed channelId) =>
    ∃ forwardId, table.channels.lookup channelId = some (forwardId, conn)
  | .stop forwardId | .stopped forwardId =>
    ∃ channelId, table.channels.lookup channelId = some (forwardId, conn)
  | .teardown => table.Holds conn
  | .request .. | .open .. | .event (.accepted ..) | .event (.data ..) => False

/-- The forwards of a session, whatever its clients and its listeners do. -/
def forwardsMachine : Machine ForwardsRun ForwardsAction where
  init := ForwardsRun.new
  step := ForwardsRun.step

namespace ForwardsRun

variable {run next : ForwardsRun}

/-- A connection whose channel is closed is held no more. -/
theorem Sound.not_holds_close (sound : run.Sound) {channelId forwardId : UInt32} {conn : ConnId}
    (found : run.table.channels.lookup channelId = some (forwardId, conn)) :
    ¬ (run.table.close channelId).Holds conn := by
  -- Whatever else held the connection would be another channel of the same one.
  rw [(sound.agree.close channelId).holds_iff]
  rintro ⟨other, owner, there⟩
  rw [PortForwardTable.channels_close] at there
  split_ifs at there with same
  exact same (sound.distinct other channelId _ _ there found rfl)

/-- A connection whose forward is stopped is held no more. -/
theorem Sound.not_holds_stop (sound : run.Sound) {channelId forwardId : UInt32} {conn : ConnId}
    (found : run.table.channels.lookup channelId = some (forwardId, conn)) :
    ¬ (run.table.portForwardStop forwardId).Holds conn := by
  rw [(sound.agree.stop forwardId).holds_iff]
  rintro ⟨other, owner, there⟩
  -- Each channel of the forward goes, and this connection has no other channel.
  rw [PortForwardTable.channels_stop] at there
  split_ifs at there with kept
  obtain rfl := sound.distinct other channelId _ _ there found rfl
  -- The forward that is stopped lists the channel itself.
  rw [(PortForwardTable.agree_iff.mp sound.agree other forwardId conn).mp found] at kept
  exact kept rfl

/-- The forward of a channel is there. -/
theorem Sound.known (sound : run.Sound) {channelId forwardId : UInt32} {conn : ConnId}
    (found : run.table.channels.lookup channelId = some (forwardId, conn)) :
    (run.table.forwards.lookup forwardId).isSome = true := by
  -- The tables agree, so the forward of the channel lists it, and is there.
  obtain ⟨forward, there, -⟩ := (sound.agree channelId forwardId conn).mp found
  rw [there]
  rfl

/-- What an action ends is held no more. -/
theorem Sound.finishes (sound : run.Sound) {action : ForwardsAction} {conn : ConnId}
    (finishes : action.Finishes run.table conn) (stepped : run.step action = some next) :
    ¬ next.table.Holds conn := by
  -- Each action that ends connections closes a channel, stops a forward or clears the tables.
  cases action with
  | data channelId writerFull =>
    obtain ⟨rfl, forwardId, found⟩ := finishes
    cases stepped
    rw [PortForwardTable.portForwardData, found]
    exact sound.not_holds_close found
  | close channelId =>
    obtain ⟨forwardId, found⟩ := finishes
    cases stepped
    exact sound.not_holds_close found
  | stop forwardId =>
    obtain ⟨channelId, found⟩ := finishes
    cases stepped
    exact sound.not_holds_stop found
  | stopped forwardId =>
    obtain ⟨channelId, found⟩ := finishes
    cases stepped
    rw [PortForwardTable.stopped, if_pos (sound.known found)]
    exact sound.not_holds_stop found
  | teardown =>
    cases stepped
    exact PortForwardTable.not_holds_teardown run.table conn
  | request forwardId direction targetPort bound => exact finishes.elim
  | «open» forwardId channelId connected => exact finishes.elim
  | event event =>
    cases event with
    | accepted forwardId channelId other => exact finishes.elim
    | data channelId bytes => exact finishes.elim
    | closed channelId =>
      obtain ⟨forwardId, found⟩ := finishes
      cases stepped
      simp only [PortForwardTable.handlePfEvent, found, Option.isSome_some, if_true]
      exact sound.not_holds_close found

/-- An action ends only connections that were made. -/
theorem Sound.made (sound : run.Sound) {conn : ConnId} (holds : run.table.Holds conn) :
    conn ∈ run.conns := by
  obtain ⟨channelId, forwardId, found⟩ := sound.agree.holds_iff.mp holds
  exact sound.conns channelId _ found

end ForwardsRun

/-- An action finishes with a connection only where it is held. -/
theorem ForwardsAction.Finishes.holds {table : PortForwardTable} {conn : ConnId}
    {action : ForwardsAction} (finishes : action.Finishes table conn) : table.Holds conn := by
  unfold ForwardsAction.Finishes at finishes
  split at finishes
  · obtain ⟨-, forwardId, found⟩ := finishes
    exact Or.inl ⟨_, forwardId, found⟩
  · obtain ⟨forwardId, found⟩ := finishes
    exact Or.inl ⟨_, forwardId, found⟩
  · obtain ⟨forwardId, found⟩ := finishes
    exact Or.inl ⟨_, forwardId, found⟩
  · obtain ⟨channelId, found⟩ := finishes
    exact Or.inl ⟨channelId, _, found⟩
  · obtain ⟨channelId, found⟩ := finishes
    exact Or.inl ⟨channelId, _, found⟩
  · exact finishes
  all_goals exact finishes.elim

/-- The tables are sound wherever a session's forwards get to. -/
theorem sound_run {actions : List ForwardsAction} {run : ForwardsRun}
    (ran : forwardsMachine.run forwardsMachine.init actions = some run) : run.Sound := by
  have preserved : ∀ run action next, ForwardsRun.Sound run →
      forwardsMachine.step run action = some next → next.Sound :=
    fun run action next sound stepped => sound.moves (ForwardsRun.moves_of_step stepped)
  exact Machine.run_invariant preserved ForwardsRun.new_sound ran

/-- A connection that was let go of is never held again. -/
theorem not_holds_run {actions : List ForwardsAction} {run last : ForwardsRun} {conn : ConnId}
    (made : conn ∈ run.conns) (gone : ¬ run.table.Holds conn)
    (ran : forwardsMachine.run run actions = some last) : ¬ last.table.Holds conn := by
  have preserved : ∀ run action next, conn ∈ run.conns ∧ ¬ run.table.Holds conn →
      forwardsMachine.step run action = some next →
        conn ∈ next.conns ∧ ¬ next.table.Holds conn := by
    intro run action next ⟨made, gone⟩ stepped
    -- What a step can bring into the tables is either held before or was never made.
    have moves := ForwardsRun.moves_of_step stepped
    refine ⟨moves.conns made, fun holds => ?_⟩
    rcases moves.holds holds with before | unmade
    · exact gone before
    · exact unmade made
  exact (Machine.run_invariant preserved ⟨made, gone⟩ ran).2

/-- The tables agree at all times, and what an action ends is never held from then on. -/
theorem tables_agree {actions : List ForwardsAction} {run : ForwardsRun}
    (ran : forwardsMachine.run forwardsMachine.init actions = some run) :
    run.table.Agree ∧ ∀ (action : ForwardsAction) (conn : ConnId) (later : List ForwardsAction)
      (last : ForwardsRun), action.Finishes run.table conn →
        forwardsMachine.run run (action :: later) = some last → ¬ last.table.Holds conn := by
  have sound := sound_run ran
  refine ⟨sound.agree, fun action conn later last finishes went => ?_⟩
  cases stepped : forwardsMachine.step run action with
  | none =>
    rw [Machine.run, stepped] at went
    cases went
  | some next =>
    rw [Machine.run_cons stepped] at went
    have made := (ForwardsRun.moves_of_step stepped).conns (sound.made finishes.holds)
    -- The action that ends the connection comes first, and no later step brings it back.
    exact not_holds_run made (sound.finishes finishes stepped) went

/-- A connection from each side of a forward, a late event, and then the forward is stopped. -/
theorem tables_agree_bothSides :
    ∃ run last : ForwardsRun,
      forwardsMachine.run forwardsMachine.init
          [.request 7 0 80 (some 0), .event (.accepted 7 1 10), .open 7 2 (some 11), .teardown,
            .request 7 0 80 (some 1), .event (.accepted 7 3 12), .event (.closed 2),
            .open 7 2 (some 13)] = some run ∧
        forwardsMachine.run run [.stop 7, .event (.closed 3)] = some last ∧
          run.table.Agree ∧ ¬ last.table.Holds 12 ∧ ¬ last.table.Holds 13 := by
  obtain ⟨run, ran⟩ := Option.isSome_iff_exists.mp (show (forwardsMachine.run forwardsMachine.init
    [.request 7 0 80 (some 0), .event (.accepted 7 1 10), .open 7 2 (some 11), .teardown,
      .request 7 0 80 (some 1), .event (.accepted 7 3 12), .event (.closed 2),
      .open 7 2 (some 13)]).isSome = true by decide +kernel)
  have owners : run.table.channels.lookup 3 = some (7, 12) ∧
      run.table.channels.lookup 2 = some (7, 13) := by
    have both : (forwardsMachine.run forwardsMachine.init
      [.request 7 0 80 (some 0), .event (.accepted 7 1 10), .open 7 2 (some 11), .teardown,
        .request 7 0 80 (some 1), .event (.accepted 7 3 12), .event (.closed 2),
        .open 7 2 (some 13)]).map (fun run => (run.table.channels.lookup 3,
          run.table.channels.lookup 2)) = some (some (7, 12), some (7, 13)) := by
      decide +kernel
    rw [ran, Option.map_some, Option.some.injEq, Prod.mk.injEq] at both
    exact both
  obtain ⟨agree, never⟩ := tables_agree ran
  have went : ∃ last, forwardsMachine.run run [.stop 7, .event (.closed 3)] = some last := ⟨_, rfl⟩
  obtain ⟨last, went⟩ := went
  exact ⟨run, last, ran, went, agree, never (.stop 7) 12 _ last ⟨3, owners.1⟩ went,
    never (.stop 7) 13 _ last ⟨2, owners.2⟩ went⟩

end Gritty
