import Gritty.Lib.KeyedTable
import Gritty.Relay.PortForward

/-! The channels of the server's forwards are those of its table. -/

namespace Gritty

namespace PortForwardTable

/-- Forwards list a channel only as it is in the table. -/
def Lists (table : PortForwardTable) (channelId : UInt32) : Prop :=
  ∀ forwardId forward, table.forwards.lookup forwardId = some forward →
    (forward.channels.lookup channelId).isSome = true →
      ∃ conn, table.channels.lookup channelId = some (forwardId, conn)

/-- The channels of the forwards are those of the table. -/
structure Kept (table : PortForwardTable) : Prop where
  held : ∀ channelId forwardId conn,
    table.channels.lookup channelId = some (forwardId, conn) →
      ∃ forward, table.forwards.lookup forwardId = some forward ∧
        (forward.channels.lookup channelId).isSome = true
  listed : ∀ forwardId forward channelId, table.forwards.lookup forwardId = some forward →
    (forward.channels.lookup channelId).isSome = true →
      ∃ conn, table.channels.lookup channelId = some (forwardId, conn)

theorem Kept.lists {table : PortForwardTable} (kept : table.Kept) (channelId : UInt32) :
    table.Lists channelId :=
  fun forwardId forward => kept.listed forwardId forward channelId

/-- The server starts without forwards. -/
theorem new_kept (nextChannelId : UInt32) : Kept { new with nextChannelId } where
  held _ _ _ found := by simp [new] at found
  listed _ _ _ found := by simp [new] at found

/-- Updating a forward changes its channels and no other forward. -/
theorem updateForward_lookup (table : PortForwardTable) (forwardId other : UInt32)
    (update : ChannelMap ConnId → ChannelMap ConnId) :
    (table.updateForward forwardId update).forwards.lookup other =
      if other = forwardId then (table.forwards.lookup forwardId).map fun forward =>
        { forward with channels := update forward.channels }
      else table.forwards.lookup other := by
  unfold updateForward
  by_cases same : other = forwardId
  · subst same
    cases found : table.forwards.lookup other with
    | none => simp [found]
    | some forward => simp [AList.lookup_insert]
  · cases table.forwards.lookup forwardId with
    | none => simp [same]
    | some forward => simp [same, AList.lookup_insert_ne same]

variable {table : PortForwardTable}

/-- A new channel is listed by its forward, and no other forward lists it. -/
theorem Lists.register {other : UInt32} (lists : table.Lists other) {forwardId channelId : UInt32}
    (conn : ConnId) (fresh : other = channelId → table.channels.lookup channelId = none) :
    (table.register forwardId channelId conn).Lists other := by
  intro owner forward there inside
  rw [register_channels]
  simp only [PortForwardTable.register, updateForward_lookup] at there
  by_cases same : other = channelId
  · by_cases mine : owner = forwardId
    · exact ⟨conn, by rw [same, AList.lookup_insert, mine]⟩
    · -- No other forward had a channel under the fresh number.
      rw [if_neg mine] at there
      obtain ⟨holder, found⟩ := lists owner forward there inside
      rw [same, fresh same] at found
      cases found
  · rw [AList.lookup_insert_ne same]
    by_cases mine : owner = forwardId
    · rw [if_pos mine] at there
      obtain ⟨before, earlier, rfl⟩ := Option.map_eq_some_iff.mp there
      rw [mine]
      simp only [AList.lookup_insert_ne same] at inside
      exact lists forwardId before earlier inside
    · rw [if_neg mine] at there
      exact lists owner forward there inside

/-- A closed channel is listed no more. -/
theorem Lists.close {other : UInt32} (lists : table.Lists other) (channelId : UInt32) :
    (table.close channelId).Lists other := by
  unfold PortForwardTable.close
  cases held : table.channels.lookup channelId with
  | none => exact lists
  | some entry =>
    obtain ⟨forwardId, conn⟩ := entry
    intro owner forward there inside
    rw [updateForward_channels]
    simp only [updateForward_lookup] at there
    by_cases mine : owner = forwardId
    · rw [if_pos mine] at there
      obtain ⟨before, earlier, rfl⟩ := Option.map_eq_some_iff.mp there
      by_cases same : other = channelId
      · rw [same, AList.lookup_erase] at inside
        cases inside
      · simp only [AList.lookup_erase_ne same] at inside ⊢
        rw [mine]
        exact lists forwardId before earlier inside
    · rw [if_neg mine] at there
      obtain ⟨holder, found⟩ := lists owner forward there inside
      -- A channel of another forward is another channel.
      have same : other ≠ channelId := by
        rintro rfl
        rw [held, Option.some.injEq, Prod.mk.injEq] at found
        exact mine found.1.symm
      exact ⟨holder, by simpa only [AList.lookup_erase_ne same] using found⟩

/-- A new channel is registered with its forward. -/
theorem Kept.register (kept : table.Kept) {forwardId channelId : UInt32} (conn : ConnId)
    (known : (table.forwards.lookup forwardId).isSome = true)
    (fresh : table.channels.lookup channelId = none) :
    (table.register forwardId channelId conn).Kept where
  held other owner holder found := by
    rw [register_channels] at found
    simp only [PortForwardTable.register, updateForward_lookup]
    by_cases same : other = channelId
    · subst same
      rw [AList.lookup_insert, Option.some.injEq, Prod.mk.injEq] at found
      obtain ⟨rfl, rfl⟩ := found
      obtain ⟨forward, there⟩ := Option.isSome_iff_exists.mp known
      exact ⟨_, by rw [if_pos rfl, there]; rfl, by simp [AList.lookup_insert]⟩
    · rw [AList.lookup_insert_ne same] at found
      obtain ⟨forward, there, inside⟩ := kept.held other owner holder found
      by_cases mine : owner = forwardId
      · subst mine
        exact ⟨_, by rw [if_pos rfl, there]; rfl, by simpa [AList.lookup_insert_ne same]⟩
      · exact ⟨forward, by rw [if_neg mine]; exact there, inside⟩
  listed owner forward other there inside :=
    (kept.lists other).register conn (fun _ => fresh) owner forward there inside

/-- A closed channel is gone from its forward. -/
theorem Kept.close (kept : table.Kept) (channelId : UInt32) : (table.close channelId).Kept := by
  unfold PortForwardTable.close
  cases held : table.channels.lookup channelId with
  | none => exact kept
  | some entry =>
    obtain ⟨forwardId, conn⟩ := entry
    constructor
    · intro other owner holder found
      rw [updateForward_channels] at found
      simp only [updateForward_lookup]
      by_cases same : other = channelId
      · rw [same, AList.lookup_erase] at found
        simp at found
      · simp only [AList.lookup_erase_ne same] at found
        obtain ⟨forward, there, inside⟩ := kept.held other owner holder found
        by_cases mine : owner = forwardId
        · subst mine
          exact ⟨_, by rw [if_pos rfl, there]; rfl, by simpa [AList.lookup_erase_ne same]⟩
        · exact ⟨forward, by rw [if_neg mine]; exact there, inside⟩
    · intro owner forward other there inside
      have closed := (kept.lists other).close channelId
      rw [PortForwardTable.close, held] at closed
      exact closed owner forward there inside

/-- Stopping a forward closes its channels and no others. -/
theorem Kept.stop_lookup (kept : table.Kept) (forwardId channelId : UInt32) :
    (table.portForwardStop forwardId).channels.lookup channelId =
      (table.channels.lookup channelId).filter fun entry => !decide (entry.1 = forwardId) := by
  unfold PortForwardTable.portForwardStop
  cases there : table.forwards.lookup forwardId with
  | none =>
    -- A forward that is not there has no channels.
    cases found : table.channels.lookup channelId with
    | none => simp
    | some entry =>
      have other : entry.1 ≠ forwardId := by
        rintro rfl
        obtain ⟨forward, here, _⟩ := kept.held channelId entry.1 entry.2 found
        rw [there] at here
        simp at here
      rw [Option.filter_some, if_pos (by simpa using other)]
  | some forward =>
    simp only [lookup_foldl_erase]
    have inside : channelId ∈ forward.channels.keys ↔
        (forward.channels.lookup channelId).isSome = true := by
      rw [AList.lookup_isSome, AList.mem_keys]
    cases found : table.channels.lookup channelId with
    | none => simp
    | some entry =>
      by_cases mine : entry.1 = forwardId
      · obtain ⟨same, here, listed⟩ := kept.held channelId entry.1 entry.2 found
        rw [mine, there, Option.some.injEq] at here
        subst here
        rw [if_pos (inside.mpr listed), Option.filter_some, if_neg (by simp [mine])]
      · have apart : channelId ∉ forward.channels.keys := by
          intro member
          obtain ⟨conn, held⟩ := kept.listed forwardId forward channelId there (inside.mp member)
          rw [found, Option.some.injEq] at held
          exact mine (by rw [held])
        rw [if_neg apart, Option.filter_some, if_pos (by simpa using mine)]

/-- Stopping a forward removes it and no other. -/
theorem portForwardStop_forwards (table : PortForwardTable) (forwardId other : UInt32) :
    (table.portForwardStop forwardId).forwards.lookup other =
      if other = forwardId then none else table.forwards.lookup other := by
  unfold PortForwardTable.portForwardStop
  by_cases same : other = forwardId
  · subst same
    cases there : table.forwards.lookup other with
    | none => simp [there]
    | some forward => simp [AList.lookup_erase]
  · cases table.forwards.lookup forwardId with
    | none => simp [same]
    | some forward => simp [same, AList.lookup_erase_ne same]

/-- Stopping a forward closes no channel of another one. -/
theorem Lists.stop_keeps {channelId : UInt32} (lists : table.Lists channelId) {forwardId : UInt32}
    (other : ∀ entry, table.channels.lookup channelId = some entry → entry.1 ≠ forwardId) :
    (table.portForwardStop forwardId).channels.lookup channelId =
      table.channels.lookup channelId := by
  unfold PortForwardTable.portForwardStop
  cases there : table.forwards.lookup forwardId with
  | none => rfl
  | some forward =>
    simp only [lookup_foldl_erase]
    refine if_neg fun member => ?_
    have inside : (forward.channels.lookup channelId).isSome = true := by
      rw [AList.lookup_isSome, AList.mem_keys]
      exact member
    obtain ⟨conn, found⟩ := lists forwardId forward there inside
    exact other _ found rfl

/-- What is listed after a forward is stopped is that of the other ones. -/
theorem Lists.stop {channelId : UInt32} (lists : table.Lists channelId) (forwardId : UInt32) :
    (table.portForwardStop forwardId).Lists channelId := by
  intro owner forward there inside
  rw [portForwardStop_forwards] at there
  split at there
  · cases there
  · next mine =>
    obtain ⟨conn, found⟩ := lists owner forward there inside
    refine ⟨conn, ?_⟩
    rw [lists.stop_keeps, found]
    intro entry same
    rw [found, Option.some.injEq] at same
    rw [← same]
    exact mine

/-- Stopping a forward keeps the channels of the others. -/
theorem Kept.stop (kept : table.Kept) (forwardId : UInt32) :
    (table.portForwardStop forwardId).Kept where
  held channelId owner conn found := by
    rw [kept.stop_lookup, Option.filter_eq_some_iff] at found
    obtain ⟨forward, there, inside⟩ := kept.held channelId owner conn found.1
    have other : owner ≠ forwardId := by simpa using found.2
    exact ⟨forward, by rw [portForwardStop_forwards, if_neg other]; exact there, inside⟩
  listed owner forward channelId there inside :=
    (kept.lists channelId).stop forwardId owner forward there inside

/-- The forwards after a request. -/
theorem portForwardRequest_lookup (table : PortForwardTable) (forwardId other : UInt32)
    (direction : UInt8) (targetPort : UInt16) (bound : Option AcceptorId) :
    (table.portForwardRequest forwardId direction targetPort bound).1.forwards.lookup other =
      if other = forwardId ∧ (direction ≠ 0 ∨ bound.isSome = true) then
        some { listenerHandle := if direction = 0 then bound else none, channels := ∅, targetPort }
      else table.forwards.lookup other := by
  unfold PortForwardTable.portForwardRequest
  by_cases here : direction = 0
  · cases bound with
    | none => simp [here]
    | some acceptor =>
      by_cases same : other = forwardId
      · subst same
        simp [here, AList.lookup_insert]
      · simp [here, same, AList.lookup_insert_ne same]
  · by_cases same : other = forwardId
    · subst same
      simp [here, AList.lookup_insert]
    · simp [here, same, AList.lookup_insert_ne same]

/-- A forward that is requested lists no channel. -/
theorem Lists.request {channelId : UInt32} (lists : table.Lists channelId) (forwardId : UInt32)
    (direction : UInt8) (targetPort : UInt16) (bound : Option AcceptorId) :
    (table.portForwardRequest forwardId direction targetPort bound).1.Lists channelId := by
  intro owner forward there inside
  rw [portForwardRequest_channels]
  have before := there
  rw [portForwardRequest_lookup] at before
  split at before
  · rw [← Option.some.inj before] at inside
    cases inside
  · exact lists owner forward before inside

/-- A request for a forward that is not there adds it without channels. -/
theorem Kept.request (kept : table.Kept) {forwardId : UInt32} (direction : UInt8)
    (targetPort : UInt16) (bound : Option AcceptorId)
    (absent : (table.forwards.lookup forwardId).isNone = true) :
    (table.portForwardRequest forwardId direction targetPort bound).1.Kept where
  held channelId owner conn found := by
    rw [portForwardRequest_channels] at found
    obtain ⟨forward, there, inside⟩ := kept.held channelId owner conn found
    have other : owner ≠ forwardId := by
      rintro rfl
      rw [there] at absent
      simp at absent
    exact ⟨forward, by rw [portForwardRequest_lookup, if_neg (fun same => other same.1)]; exact there,
      inside⟩
  listed owner forward channelId there inside :=
    (kept.lists channelId).request forwardId direction targetPort bound owner forward there inside

end PortForwardTable

end Gritty
