import Gritty.Config.Settings

/-! What the configuration says of a host is laid over what it says by default, whole. -/

namespace Gritty

/-- A value that is used, of two layers. -/
def overParsed {α : Type} (parse : String → Except LayerError α) (host default : Option String) :
    Option String :=
  match host.map parse with
  | some (.ok _) => host
  | _ => default

/-- The settings of a tunnel, laid over others. All options for ssh count, the nearer ones first. -/
def TunnelDefaults.over (host default : TunnelDefaults) : TunnelDefaults where
  sshOptions := some (host.sshOptions.getD [] ++ default.sshOptions.getD [])
  noServerStart := host.noServerStart.or default.noServerStart
  isolateControlPath := host.isolateControlPath.or default.isolateControlPath
  connectTimeout := host.connectTimeout.or default.connectTimeout

/-- One layer with the two of them in it: what is said of the host, and the defaults for the rest. -/
def Defaults.over (host default : Defaults) : Defaults where
  forwardAgent := host.forwardAgent.or default.forwardAgent
  agentIdleTimeout := overParsed parseAgentIdleTimeout host.agentIdleTimeout default.agentIdleTimeout
  forwardOpen := host.forwardOpen.or default.forwardOpen
  noEscape := host.noEscape.or default.noEscape
  oauthRedirect := host.oauthRedirect.or default.oauthRedirect
  oauthTimeout := host.oauthTimeout.or default.oauthTimeout
  heartbeatInterval := host.heartbeatInterval.or default.heartbeatInterval
  heartbeatTimeout := host.heartbeatTimeout.or default.heartbeatTimeout
  ringBufferSize := host.ringBufferSize.or default.ringBufferSize
  oauthTunnelIdleTimeout := host.oauthTunnelIdleTimeout.or default.oauthTunnelIdleTimeout
  clientName := host.clientName.or default.clientName
  linger := overParsed parseLinger host.linger default.linger
  -- A host that says how long its sessions are kept says so of the unnamed ones, too.
  lingerUnnamed :=
    overParsed parseLinger host.lingerUnnamed
      (overParsed parseLinger host.linger default.lingerUnnamed)
  aliases := host.aliases
  tunnel :=
    match host.tunnel, default.tunnel with
    | some host, some default => some (host.over default)
    | some host, none => some host
    | none, default => default

/-- All texts of a layer can be read. -/
structure Defaults.Readable (layer : Defaults) : Prop where
  linger : ∀ raw, layer.linger = some raw → ∃ secs, parseLinger raw = .ok secs
  lingerUnnamed : ∀ raw, layer.lingerUnnamed = some raw → ∃ secs, parseLinger raw = .ok secs
  agentIdle :
    ∀ raw, layer.agentIdleTimeout = some raw → ∃ limit, parseAgentIdleTimeout raw = .ok limit

/-- A configuration that says of everything what it says of one host. -/
def ConfigFile.flat (config : ConfigFile) (host : Defaults) : ConfigFile where
  defaults := host.over config.defaults
  host := []
  once := List.nodup_nil

section

variable {α : Type} {config : ConfigFile} {hostname : String}

theorem pick_over (host default : Option α) (builtIn : α) :
    ConfigFile.pick host default builtIn = ConfigFile.pick none (host.or default) builtIn := rfl

/-- What is used of a layer is what can be read of it. -/
theorem parseLayer_fst (key : String) (raw : Option String) (parse : String → Except LayerError α) :
    (parseLayer key raw parse).1 = raw.bind fun raw => (parse raw).toOption := by
  unfold parseLayer
  cases raw with
  | none => rfl
  | some raw =>
    simp only [Option.bind_some]
    cases parse raw <;> rfl

/-- The value that is used of a layer is read the same from the two layers in one. -/
theorem overParsed_read (parse : String → Except LayerError α) (host default : Option String) :
    ((overParsed parse host default).bind fun raw => (parse raw).toOption) =
      (host.bind fun raw => (parse raw).toOption).or
        (default.bind fun raw => (parse raw).toOption) := by
  unfold overParsed
  cases host with
  | none => rfl
  | some raw =>
    rw [Option.map_some, Option.bind_some]
    cases parsed : parse raw with
    | ok value =>
      simp only [Option.bind_some, parsed]
      rfl
    | error error => rfl

/-- A layer is warned of exactly when its text cannot be read. -/
theorem parseLayer_silent (key : String) (raw : Option String)
    (parse : String → Except LayerError α) :
    (parseLayer key raw parse).2 = [] ↔ ∀ text, raw = some text → ∃ value, parse text = .ok value := by
  unfold parseLayer
  cases raw with
  | none => exact ⟨fun _ text said => (nomatch said), fun _ => rfl⟩
  | some raw =>
    simp only [Option.some.injEq, forall_eq']
    cases parse raw with
    | ok value => exact ⟨fun _ => ⟨value, rfl⟩, fun _ => rfl⟩
    | error error =>
      refine ⟨fun silent => (nomatch silent), fun readable => ?_⟩
      obtain ⟨value, read⟩ := readable
      exact nomatch read

theorem warning_silent {wrong : Prop} [Decidable wrong] (message : String) :
    (if wrong then [message] else []) = [] ↔ ¬ wrong := by
  split
  · next wrong => exact ⟨fun silent => (nomatch silent), fun right => absurd wrong right⟩
  · next right => exact ⟨fun _ => right, fun _ => rfl⟩

/-- The client is not warned of a heartbeat exactly when it is the configured one. -/
theorem clampHeartbeat_silent (rawInterval rawTimeout : Nat) :
    (clampHeartbeat rawInterval rawTimeout).2.2 = [] ↔
      (clampHeartbeat rawInterval rawTimeout).1 = rawInterval ∧
        (clampHeartbeat rawInterval rawTimeout).2.1 = rawTimeout := by
  simp only [clampHeartbeat, List.append_eq_nil_iff, warning_silent]
  -- A raised timeout is not the configured one, and one that is capped was longer.
  have raised : raiseTimeout (clampInterval rawInterval) rawTimeout = rawTimeout ↔
      ¬ rawTimeout ≤ clampInterval rawInterval := by
    unfold raiseTimeout
    split <;> omega
  have longer : rawTimeout ≤ clampInterval rawInterval →
      raiseTimeout (clampInterval rawInterval) rawTimeout = clampInterval rawInterval + 1 := by
    intro low
    exact if_pos low
  have capped : clampInterval rawInterval ≤ 39 := by
    have ceiling : idleEvictCeilingSecs = 80 := rfl
    unfold clampInterval
    omega
  have ceiling : idleEvictCeilingSecs = 80 := rfl
  by_cases low : rawTimeout ≤ clampInterval rawInterval
  · have higher := longer low
    constructor
    · intro silent
      exact absurd low silent.1.2
    · intro same
      obtain ⟨-, timeout⟩ := same
      split at timeout <;> omega
  · have kept := raised.mpr low
    rw [kept]
    constructor
    · intro silent
      obtain ⟨⟨interval, -⟩, uncapped⟩ := silent
      exact ⟨not_not.mp interval, if_neg uncapped⟩
    · intro same
      obtain ⟨interval, timeout⟩ := same
      refine ⟨⟨not_not.mpr interval, low⟩, ?_⟩
      split at timeout <;> omega

/-- A name made fit to be a prefix is. -/
theorem sanitizeClientName_valid (candidate : String) :
    validateClientName (sanitizeClientName candidate).1 = .ok () := by
  unfold sanitizeClientName
  cases valid : validateClientName candidate with
  | ok done => exact valid
  | error message =>
    change validateClientName "unknown" = .ok ()
    decide

/-- It is told of exactly when it was not fit before. -/
theorem sanitizeClientName_silent (candidate : String) :
    (sanitizeClientName candidate).2 = [] ↔ validateClientName candidate = .ok () := by
  unfold sanitizeClientName
  cases valid : validateClientName candidate with
  | ok done => exact ⟨fun _ => rfl, fun _ => rfl⟩
  | error message => exact ⟨fun silent => (nomatch silent), fun fit => (nomatch fit)⟩

/-- Nothing is warned of exactly when all that is said counts. -/
theorem resolveSession_silent (host : Option String) :
    (config.resolveSession hostname host).2 = [] ↔
      (config.resolveSession hostname host).1.heartbeat.interval =
          ConfigFile.pick ((host.bind config.get).bind (·.heartbeatInterval))
            config.defaults.heartbeatInterval 10 ∧
        (config.resolveSession hostname host).1.heartbeat.timeout =
          ConfigFile.pick ((host.bind config.get).bind (·.heartbeatTimeout))
            config.defaults.heartbeatTimeout 60 ∧
        config.defaults.Readable ∧
        (∀ layer, host.bind config.get = some layer → layer.Readable) ∧
        validateClientName (ConfigFile.pick ((host.bind config.get).bind (·.clientName))
          config.defaults.clientName hostname) = .ok () := by
  have clamped := clampHeartbeat_silent
    (ConfigFile.pick ((host.bind config.get).bind (·.heartbeatInterval))
      config.defaults.heartbeatInterval 10)
    (ConfigFile.pick ((host.bind config.get).bind (·.heartbeatTimeout))
      config.defaults.heartbeatTimeout 60)
  simp only [ConfigFile.resolveSession, ConfigFile.resolveSessionInner, if_true,
    List.append_eq_nil_iff, List.map_eq_nil_iff, clamped, parseLayer_silent,
    sanitizeClientName_silent, resolveHeartbeat]
  constructor
  · intro silent
    obtain ⟨⟨⟨⟨⟨⟨⟨⟨interval, timeout⟩, hLinger⟩, hUnnamed⟩, dLinger⟩, dUnnamed⟩, hAgent⟩, dAgent⟩,
      valid⟩ := silent
    refine ⟨interval, timeout, ⟨dLinger, dUnnamed, dAgent⟩, fun layer found => ?_, valid⟩
    rw [found] at hLinger hUnnamed hAgent
    exact ⟨hLinger, hUnnamed, hAgent⟩
  · intro all
    obtain ⟨interval, timeout, readable, nearer, valid⟩ := all
    refine ⟨⟨⟨⟨⟨⟨⟨⟨interval, timeout⟩, ?_⟩, ?_⟩, readable.linger⟩, readable.lingerUnnamed⟩, ?_⟩,
      readable.agentIdle⟩, valid⟩
    all_goals
      intro text said
      obtain ⟨layer, found, said⟩ := Option.bind_eq_some_iff.mp said
    · exact (nearer layer found).linger text said
    · exact (nearer layer found).lingerUnnamed text said
    · exact (nearer layer found).agentIdle text said

/-- Sessions are set up the same when only the name is told of. -/
theorem resolveSessionInner_quiet (host : Option String) :
    config.resolveSessionInner hostname host false =
      ((config.resolveSession hostname host).1,
        (sanitizeClientName (ConfigFile.pick ((host.bind config.get).bind (·.clientName))
          config.defaults.clientName hostname)).2) := rfl

/-- Of what is said of sessions, a tunnel's settings tell only a name that is not used. -/
theorem resolveTunnel_quiet (host : String) :
    (config.resolveTunnel hostname host).2 = [] ↔
      validateClientName (ConfigFile.pick ((config.get host).bind (·.clientName))
        config.defaults.clientName hostname) = .ok () := by
  unfold ConfigFile.resolveTunnel
  rw [resolveSessionInner_quiet]
  exact sanitizeClientName_silent _

/-- A limit for requests to the agent lets some through. -/
theorem parseAgentIdleTimeout_pos {raw : String} {limit : Option Nat}
    (parsed : parseAgentIdleTimeout raw = .ok limit) : limit ≠ some 0 := by
  unfold parseAgentIdleTimeout at parsed
  split at parsed
  · cases parsed
    exact fun limited => (nomatch limited)
  · split at parsed
    · cases parsed
    · cases parsed
    · next secs zero _ =>
      cases parsed
      exact fun none_ => zero (Option.some.inj none_)

/-- The limit of a session lets some requests through, if there is one. -/
theorem resolveSession_agentIdle (host : Option String) :
    (config.resolveSession hostname host).1.agentIdleTimeout ≠ some 0 := by
  unfold ConfigFile.resolveSession ConfigFile.resolveSessionInner
  simp only [parseLayer_fst, ConfigFile.pick]
  -- It is what a layer says, or nothing at all.
  have read : ∀ (raw : Option String) limit,
      (raw.bind fun raw => (parseAgentIdleTimeout raw).toOption) = some limit → limit ≠ some 0 := by
    intro raw limit said
    obtain ⟨text, -, said⟩ := Option.bind_eq_some_iff.mp said
    cases parsed : parseAgentIdleTimeout text with
    | error error =>
      rw [parsed] at said
      exact nomatch said
    | ok value =>
      rw [parsed] at said
      exact Option.some.inj said ▸ parseAgentIdleTimeout_pos parsed
  intro zero
  cases nearer : ((host.bind config.get).bind (·.agentIdleTimeout)).bind fun raw =>
      (parseAgentIdleTimeout raw).toOption with
  | some limit =>
    rw [nearer] at zero
    exact read _ _ nearer zero
  | none =>
    cases general : config.defaults.agentIdleTimeout.bind fun raw =>
        (parseAgentIdleTimeout raw).toOption with
    | some limit =>
      rw [nearer, general] at zero
      exact read _ _ general zero
    | none =>
      rw [nearer, general] at zero
      exact nomatch zero

/-- Four layers, as the session of an unnamed sort looks them through and as two layers hold them. -/
theorem or_interleaved (hostOwn hostAll defaultOwn defaultAll : Option α) :
    (hostOwn.or hostAll).or (defaultOwn.or defaultAll) =
      (hostOwn.or (hostAll.or defaultOwn)).or (hostAll.or defaultAll) := by
  cases hostOwn with
  | some value => rfl
  | none => cases hostAll <;> cases defaultOwn <;> rfl

/-- The sessions of a host are those of a configuration that says its values by default. -/
theorem resolveSession_flat {name : String} {host : Defaults} (found : config.get name = some host) :
    (config.resolveSession hostname (some name)).1 =
      ((config.flat host).resolveSession hostname none).1 := by
  unfold ConfigFile.resolveSession ConfigFile.resolveSessionInner
  simp only [Option.bind_some, found, Option.bind_none, parseLayer_fst, ConfigFile.flat,
    Defaults.over, overParsed_read, ← pick_over]
  -- Only what is said of unnamed sessions is looked up in another order.
  unfold ConfigFile.pick
  rw [Option.none_or, Option.none_or, ← or_interleaved]

/-- What is said of one host alone is not looked at for others. -/
theorem resolveSession_unknown {name : String} (unknown : config.get name = none) :
    config.resolveSession hostname (some name) = config.resolveSession hostname none := by
  unfold ConfigFile.resolveSession ConfigFile.resolveSessionInner
  simp only [Option.bind_some, unknown, Option.bind_none]

/-- A tunnel's settings are read the same from the two layers in one. -/
theorem resolveTunnel_flat {name : String} {host : Defaults} (found : config.get name = some host) :
    config.resolveTunnel hostname name = (config.flat host).resolveTunnel hostname name := by
  have alone : (config.flat host).get name = none := rfl
  unfold ConfigFile.resolveTunnel
  simp only [resolveSessionInner_quiet]
  rw [resolveSession_flat found, resolveSession_unknown alone]
  -- Its sessions are settled, and what it says of itself is left.
  generalize ((config.flat host).resolveSession hostname none).1 = session
  rw [Option.bind_some, Option.bind_some, found, alone]
  simp only [Option.bind_some, Option.bind_none, ConfigFile.flat, Defaults.over]
  cases host.tunnel with
  | none => cases config.defaults.tunnel <;> rfl
  | some nearer =>
    cases config.defaults.tunnel with
    | none =>
      simp only [Option.bind_some, Option.bind_none, Option.getD_none, List.append_nil,
        List.nil_append, ConfigFile.pick, Option.or_none, Option.none_or]
    | some default =>
      simp only [Option.bind_some, Option.getD_none, Option.getD_some,
        List.nil_append, TunnelDefaults.over, ConfigFile.pick, Option.none_or]

end

end Gritty
