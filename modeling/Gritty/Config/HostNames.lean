import Gritty.Config.Layers

/-! The names that a host of the configuration is typed under. -/

namespace Gritty

/-- A host of the configuration has the name as another name. -/
def ConfigFile.Claims (config : ConfigFile) (host typed : String) : Prop :=
  ∃ entry, config.get host = some entry ∧ typed ∈ entry.aliases.getD []

/-- What the configuration comes to, for any host and any name. -/
structure ConfigLayers (config : ConfigFile) (hostname : String) : Prop where
  /-- What is said of a host lies over the defaults, whole. -/
  flat : ∀ name host, config.get name = some host →
    (config.resolveSession hostname (some name)).1 =
        ((config.flat host).resolveSession hostname none).1 ∧
      config.resolveTunnel hostname name = (config.flat host).resolveTunnel hostname name
  /-- It is looked at for no other host. -/
  elsewhere : ∀ name, config.get name = none →
    config.resolveSession hostname (some name) = config.resolveSession hostname none
  /-- Sessions can be named, and the agent answers some requests, whatever the file says. -/
  usable : ∀ host,
    validateClientName (config.resolveSession hostname host).1.clientName = .ok () ∧
      (config.resolveSession hostname host).1.agentIdleTimeout ≠ some 0
  /-- Nothing that is said is passed over without a warning, and there are no other warnings. -/
  silent : ∀ host, (config.resolveSession hostname host).2 = [] ↔
    (config.resolveSession hostname host).1.heartbeat.interval =
        ConfigFile.pick ((host.bind config.get).bind (·.heartbeatInterval))
          config.defaults.heartbeatInterval 10 ∧
      (config.resolveSession hostname host).1.heartbeat.timeout =
        ConfigFile.pick ((host.bind config.get).bind (·.heartbeatTimeout))
          config.defaults.heartbeatTimeout 60 ∧
      config.defaults.Readable ∧ (∀ layer, host.bind config.get = some layer → layer.Readable) ∧
      validateClientName (ConfigFile.pick ((host.bind config.get).bind (·.clientName))
        config.defaults.clientName hostname) = .ok ()
  /-- For a tunnel, a name that is not used is the only thing to be warned of. -/
  quiet : ∀ host, (config.resolveTunnel hostname host).2 = [] ↔
    validateClientName (ConfigFile.pick ((config.get host).bind (·.clientName))
      config.defaults.clientName hostname) = .ok ()
  /-- A name stands for a host's exactly when that host claims it and it is nobody else's. -/
  stands : ∀ typed name, name ≠ typed →
    (config.canonicalHost typed = name ↔
      typed ≠ "local" ∧ config.get typed = none ∧ config.Claims name typed ∧
        ∀ other, config.Claims other typed → other = name)
  /-- What a name stands for stands for itself. -/
  settles : ∀ typed, config.canonicalHost (config.canonicalHost typed) = config.canonicalHost typed
  /-- The order of the hosts does not matter. -/
  unordered : ∀ other : ConfigFile, other.defaults = config.defaults → other.host.Perm config.host →
    other.canonicalHost = config.canonicalHost ∧
      other.aliasDestination = config.aliasDestination ∧
      other.resolveSession hostname = config.resolveSession hostname ∧
      other.resolveTunnel hostname = config.resolveTunnel hostname

section

variable {config other : ConfigFile} {hostname host typed name : String}

/-- What the file says of a host is an entry of it. -/
theorem ConfigFile.get_iff {entry : Defaults} :
    config.get name = some entry ↔ (name, entry) ∈ config.host := by
  unfold ConfigFile.get
  have once := config.once
  generalize config.host = entries at once
  induction entries with
  | nil => exact ⟨fun found => (nomatch found), fun held => (nomatch held)⟩
  | cons first rest ih =>
    obtain ⟨key, value⟩ := first
    rw [List.map_cons, List.nodup_cons] at once
    by_cases same : name = key
    · subst same
      rw [List.lookup_cons_self, List.mem_cons]
      constructor
      · intro found
        exact .inl (by rw [Option.some.inj found])
      · intro held
        rcases held with here | later
        · rw [(Prod.mk.inj here).2]
        -- A second entry under the name is ruled out.
        · exact absurd (List.mem_map_of_mem later) once.1
    · have other : (name == key) = false := beq_false_of_ne same
      rw [List.lookup_cons, other, List.mem_cons]
      constructor
      · intro found
        exact .inr ((ih once.2).mp found)
      · intro held
        rcases held with here | later
        · exact absurd (Prod.mk.inj here).1 same
        · exact (ih once.2).mpr later

/-- The owners of a name are the hosts that claim it, each once. -/
theorem ConfigFile.mem_owners : host ∈ config.owners typed ↔ config.Claims host typed := by
  unfold ConfigFile.owners ConfigFile.Claims
  rw [List.mem_map]
  constructor
  · intro owns
    obtain ⟨⟨key, entry⟩, kept, rfl⟩ := owns
    obtain ⟨held, claims⟩ := List.mem_filter.mp kept
    exact ⟨entry, get_iff.mpr held, List.contains_iff_mem.mp claims⟩
  · intro claims
    obtain ⟨entry, found, named⟩ := claims
    exact ⟨(host, entry), List.mem_filter.mpr ⟨get_iff.mp found, List.contains_iff_mem.mpr named⟩, rfl⟩

theorem ConfigFile.owners_nodup : (config.owners typed).Nodup :=
  config.once.sublist (List.filter_sublist.map Prod.fst)

/-- One host alone owns a name exactly when it claims it and no other does. -/
theorem ConfigFile.owners_single :
    config.owners typed = [name] ↔
      config.Claims name typed ∧ ∀ other, config.Claims other typed → other = name := by
  constructor
  · intro owned
    constructor
    · rw [← mem_owners, owned]
      exact List.mem_singleton.mpr rfl
    · intro other claims
      rw [← mem_owners, owned] at claims
      exact List.mem_singleton.mp claims
  · intro only
    obtain ⟨claims, alone⟩ := only
    have once : (config.owners typed).Nodup := config.owners_nodup
    have held := mem_owners.mpr claims
    -- No name is in the list twice, so there is room for no second one.
    match owned : config.owners typed with
    | [] =>
      rw [owned] at held
      exact nomatch held
    | [first] =>
      rw [owned] at held
      rw [List.mem_singleton.mp held]
    | first :: second :: rest =>
      rw [owned] at once
      have same : ∀ each ∈ first :: second :: rest, each = name := fun each owns =>
        alone each (mem_owners.mp (owned ▸ owns))
      have firstName := same first List.mem_cons_self
      have secondName := same second (List.mem_cons_of_mem _ List.mem_cons_self)
      rw [firstName, secondName] at once
      exact absurd List.mem_cons_self (List.nodup_cons.mp once).1

theorem ConfigFile.canonicalHost_real (real : typed = "local" ∨ (config.get typed).isSome) :
    config.canonicalHost typed = typed := if_pos real

/-- A name that is no host's own stands for its only owner, or for itself. -/
theorem ConfigFile.canonicalHost_claimed (notReal : ¬ (typed = "local" ∨ (config.get typed).isSome)) :
    (∃ name, config.owners typed = [name] ∧ config.canonicalHost typed = name) ∨
      (∀ name, config.owners typed ≠ [name]) ∧ config.canonicalHost typed = typed := by
  unfold ConfigFile.canonicalHost
  rw [if_neg notReal]
  split
  · next name owned => exact .inl ⟨name, owned, rfl⟩
  · next several => exact .inr ⟨several, rfl⟩

/-- A name stands for another host exactly if that host, and no other, claims it. -/
theorem ConfigFile.canonicalHost_iff (differs : name ≠ typed) :
    config.canonicalHost typed = name ↔
      typed ≠ "local" ∧ config.get typed = none ∧ config.Claims name typed ∧
        ∀ other, config.Claims other typed → other = name := by
  by_cases real : typed = "local" ∨ (config.get typed).isSome
  · rw [canonicalHost_real real]
    refine ⟨fun same => absurd same.symm differs, fun all => ?_⟩
    rcases real with here | known
    · exact absurd here all.1
    · rw [all.2.1] at known
      exact nomatch known
  · have unreal := not_or.mp real
    have unknown := Option.not_isSome_iff_eq_none.mp unreal.2
    rcases canonicalHost_claimed real with ⟨owner, owned, goes⟩ | ⟨several, stays⟩
    · rw [goes]
      constructor
      · intro same
        subst same
        exact ⟨unreal.1, unknown, owners_single.mp owned⟩
      · intro all
        exact (List.singleton_inj.mp (owned.symm.trans (owners_single.mpr all.2.2)))
    · rw [stays]
      constructor
      · intro same
        exact absurd same.symm differs
      · intro all
        exact absurd (owners_single.mpr all.2.2) (several name)

/-- What a name stands for is a host's own name, or no name to be replaced. -/
theorem ConfigFile.canonicalHost_settles (typed : String) :
    config.canonicalHost (config.canonicalHost typed) = config.canonicalHost typed := by
  by_cases same : config.canonicalHost typed = typed
  · rw [same, same]
  · obtain ⟨-, -, claims, -⟩ := (canonicalHost_iff same).mp rfl
    obtain ⟨entry, found, -⟩ := claims
    exact canonicalHost_real (.inr (by rw [found]; rfl))

/-- Hosts in another order are found the same. -/
theorem ConfigFile.get_perm (same : other.host.Perm config.host) : other.get = config.get := by
  funext name
  cases found : config.get name with
  | some entry => exact get_iff.mpr (same.mem_iff.mpr (get_iff.mp found))
  | none =>
    cases there : other.get name with
    | none => rfl
    | some entry =>
      have here := get_iff.mpr (same.mem_iff.mp (get_iff.mp there))
      rw [found] at here
      exact nomatch here

theorem ConfigFile.claims_perm (same : other.host.Perm config.host) :
    other.Claims host typed ↔ config.Claims host typed := by
  unfold ConfigFile.Claims
  rw [get_perm same]

/-- Which host a name stands for does not depend on their order. -/
theorem ConfigFile.canonicalHost_perm (same : other.host.Perm config.host) :
    other.canonicalHost = config.canonicalHost := by
  funext typed
  by_cases stays : config.canonicalHost typed = typed
  · by_cases elsewhere : other.canonicalHost typed = typed
    · rw [stays, elsewhere]
    -- Where one of them goes, the other goes.
    · have goes := (canonicalHost_iff elsewhere).mp rfl
      simp only [get_perm same, claims_perm same] at goes
      exact ((canonicalHost_iff elsewhere).mpr goes).symm
  · have goes := (canonicalHost_iff stays).mp rfl
    simp only [← get_perm same, ← claims_perm same] at goes
    exact (canonicalHost_iff stays).mpr goes

/-- What the configuration says, it says of each host, in full or with a warning. -/
theorem configLayers (config : ConfigFile) (hostname : String) : ConfigLayers config hostname where
  flat name host found := ⟨resolveSession_flat found, resolveTunnel_flat found⟩
  elsewhere name unknown := resolveSession_unknown unknown
  usable host := ⟨sanitizeClientName_valid _, resolveSession_agentIdle host⟩
  silent host := resolveSession_silent host
  quiet host := resolveTunnel_quiet host
  stands typed name differs := ConfigFile.canonicalHost_iff differs
  settles := ConfigFile.canonicalHost_settles
  unordered other defaults hosts := by
    have get := ConfigFile.get_perm hosts
    refine ⟨ConfigFile.canonicalHost_perm hosts, ?_, ?_, ?_⟩
    · funext host
      unfold ConfigFile.aliasDestination
      rw [get]
    · funext host
      unfold ConfigFile.resolveSession ConfigFile.resolveSessionInner
      rw [get, defaults]
    · funext host
      unfold ConfigFile.resolveTunnel ConfigFile.resolveSessionInner
      rw [get, defaults]

end

end Gritty
