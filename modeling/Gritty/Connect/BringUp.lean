import Gritty.Connect.RemoteReady
import Gritty.Daemon.Dispatch
import Gritty.Lib.Transition

/-! How a tunnel comes up: where it is aimed, by what was kept of the last one or by asking. -/

namespace Gritty

/-- Why a tunnel did not come up. -/
inductive StartError where
  | ensure (error : EnsureError)
  | version (message : Text)
  | spawn
  | neverBound
  | stale (cached fresh : Text)
  | unreachable (why : Text)
  | notResponding (why : Text)
  deriving DecidableEq

/-- What is said of a remote of another version, that is ignored or not. -/
def mismatchMessage (remote : UInt16) (ignoring : Bool) : Option Text :=
  let versions := s!"remote speaks protocol v{remote}, this gritty speaks v{protocolVersion}"
  if remote = protocolVersion then none
  else some (if ignoring then
      versions.toList ++ (" -- tunnel started anyway (--ignore-version-mismatch); session commands " ++
        "will be refused until the versions match").toList
    else
      versions.toList ++ ("; upgrade one side (gritty bootstrap <host>), or pass " ++
        "--ignore-version-mismatch to start the tunnel anyway").toList)

/-- The version gate. What is ignored is warned of. -/
def checkRemoteProtocolVersion (remote : UInt16) (ignore : Bool) : Except StartError (List Text) :=
  match mismatchMessage remote ignore with
  | none => .ok []
  | some message => if ignore then .ok [message] else .error (.version message)

/-- What comes back while a tunnel is started. -/
structure StartAnswers where
  asked : Except Text Text
  spawned : Bool
  bound : Bool
  probed : Except Text UInt16
  askedAgain : Except Text Text
  probedAgain : Except Text UInt16

/-- What became of a start: the path that is kept, the one that ssh was aimed at, and the warnings of a
tunnel that is ready. -/
structure Started where
  cache : Option Text
  forward : Option Text
  result : Except StartError (List Text)

/-- The path that was kept. -/
def cachedRemoteSock (cache : Option Text) : Option Text :=
  (cache.map trim).filter fun sock => sock ≠ []

/-- What was kept, if a tunnel can be aimed at it. -/
def usableRemoteSock (cache : Option Text) : Option Text :=
  (cachedRemoteSock cache).filter fun sock => sock.head? = some '/'

/-- What cannot be used is discarded. -/
def keptCache (cache : Option Text) : Option Text :=
  if (cachedRemoteSock cache).isSome ∧ usableRemoteSock cache = none then none else cache

/-- Whether the daemon answers through the tunnel, or does once it is started. -/
def probeTunnel (usedCache : Bool) (remoteSock : Text) (answers : StartAnswers) :
    Except StartError UInt16 :=
  match answers.probed with
  | .ok version => .ok version
  | .error why =>
    if usedCache then
      match ensureRemoteReady answers.askedAgain with
      | .error error => .error (.ensure error)
      | .ok (freshSock, _) =>
        if freshSock ≠ remoteSock then .error (.stale remoteSock freshSock)
        else match answers.probedAgain with
          | .ok version => .ok version
          | .error why => .error (.unreachable why)
    else .error (.notResponding why)

/-- Where the tunnel is to be aimed, and the version that the remote told. -/
def aim (cache : Option Text) (answers : StartAnswers) : Except StartError (Text × Option UInt16) :=
  match usableRemoteSock cache with
  | some sock => .ok (sock, none)
  | none =>
    match ensureRemoteReady answers.asked with
    | .ok told => .ok told
    | .error error => .error (.ensure error)

/-- The start of a tunnel, with the lock held. -/
def startTunnel (ignore : Bool) (cache : Option Text) (answers : StartAnswers) : Started :=
  let kept := keptCache cache
  let usedCache := (usableRemoteSock cache).isSome
  match aim cache answers with
  | .error error => { cache := kept, forward := none, result := .error error }
  | .ok (remoteSock, remoteVersion) =>
    match remoteVersion.elim (.ok []) (checkRemoteProtocolVersion · ignore) with
    | .error error => { cache := kept, forward := none, result := .error error }
    | .ok early =>
      if !answers.spawned then { cache := kept, forward := none, result := .error .spawn }
      else if !answers.bound then
        { cache := kept, forward := some remoteSock, result := .error .neverBound }
      else
        match probeTunnel usedCache remoteSock answers with
        | .error (.stale cached fresh) =>
          { cache := none, forward := some remoteSock, result := .error (.stale cached fresh) }
        | .error error => { cache := kept, forward := some remoteSock, result := .error error }
        | .ok probedVersion =>
          -- What was kept says nothing about the version, so the probe does.
          match if usedCache then checkRemoteProtocolVersion probedVersion ignore else .ok [] with
          | .error error => { cache := kept, forward := some remoteSock, result := .error error }
          | .ok late =>
            { cache := some remoteSock, forward := some remoteSock, result := .ok (early ++ late) }

/-! ### Tunnels over time -/

/-- A tunnel under one name. Beside it stand the paths that ssh was aimed at, those the remote told, and
what others left where a path is kept. -/
structure TunnelLife where
  cache : Option Text
  supervisor : Option Text
  aimed : List Text
  told : List Text
  found : List Text
  /-- The last start found that what was kept is of no use, and nobody has left anything since. -/
  refuted : Bool

inductive LifeEvent where
  | start (ignore : Bool) (answers : StartAnswers)
  | respawn (asked : Option (Except Text Text)) (spawned : Bool)
  | dies
  | left (content : Option Text)

/-- The answers that a start takes notice of: the first one if nothing usable was kept, and else the
one that was asked for when no daemon answered. -/
def consulted (cache : Option Text) (answers : StartAnswers) : List (Except Text Text) :=
  if usableRemoteSock cache = none then [answers.asked]
  else if answers.spawned ∧ answers.bound ∧ answers.probed.toOption = none then [answers.askedAgain]
  else []

/-- The paths in answers. -/
def toldPaths (asked : List (Except Text Text)) : List Text :=
  asked.filterMap fun got => (ensureRemoteReady got).toOption.map Prod.fst

namespace TunnelLife

/-- A supervisor starts a tunnel while there is none. -/
def start (life : TunnelLife) (ignore : Bool) (answers : StartAnswers) : TunnelLife :=
  let started := startTunnel ignore life.cache answers
  { cache := started.cache
    supervisor := match started.result with
      | .ok _ => started.forward
      | .error _ => none
    aimed := life.aimed ++ started.forward.toList
    told := life.told ++ toldPaths (consulted life.cache answers)
    found := life.found
    refuted := match started.result with
      | .error (.stale _ _) => true
      | _ => false }

/-- A supervisor starts ssh again, after asking unless the tunnel was healthy just before. -/
def respawn (life : TunnelLife) (remoteSock : Text) (asked : Option (Except Text Text))
    (spawned : Bool) : TunnelLife :=
  match asked with
  | none => { life with aimed := life.aimed ++ if spawned then [remoteSock] else [] }
  | some got =>
    match ensureRemoteReady got with
    | .error _ => life
    | .ok (sock, _) =>
      { life with
        supervisor := some sock
        told := life.told ++ [sock]
        aimed := life.aimed ++ if spawned then [sock] else [] }

def step (life : TunnelLife) : LifeEvent → Option TunnelLife
  | .start ignore answers =>
    if life.supervisor = none then some (life.start ignore answers) else none
  | .respawn asked spawned =>
    life.supervisor.map fun remoteSock => life.respawn remoteSock asked spawned
  | .dies => some { life with supervisor := none }
  | .left content =>
    some { life with cache := content, found := life.found ++ content.toList, refuted := false }

end TunnelLife

/-- A tunnel that was never started here, with what there is where a path is kept. -/
def tunnelLife (cache : Option Text) : Machine TunnelLife LifeEvent where
  init := { cache, supervisor := none, aimed := [], told := [], found := cache.toList, refuted := false }
  step := TunnelLife.step

/-- A path that ssh may be aimed at: absolute, and told by the remote or left by somebody. -/
structure Accounted (life : TunnelLife) (path : Text) : Prop where
  absolute : path.head? = some '/'
  trimmed : trim path = path
  known : path ∈ life.told ∨ ∃ content ∈ life.found, trim content = path

/-- What holds of a tunnel at all times. -/
structure WellAimed (life : TunnelLife) : Prop where
  /-- ssh was never aimed at anything but a path, least of all at an error. -/
  aimed : ∀ path ∈ life.aimed, Accounted life path
  keeps : ∀ path, life.supervisor = some path → Accounted life path
  cached : ∀ content, life.cache = some content → content ∈ life.found ∨ Accounted life content
  /-- After what was kept was found to be of no use, the remote is asked. -/
  asks : life.refuted = true → life.cache = none

/-- What a tunnel that came up has gone through. -/
structure CameUp (ignore : Bool) (cache : Option Text) (answers : StartAnswers)
    (warnings : List Text) : Prop where
  /-- The path it is aimed at is the one that is kept. -/
  kept : (startTunnel ignore cache answers).forward.isSome ∧
    (startTunnel ignore cache answers).cache = (startTunnel ignore cache answers).forward
  /-- A daemon answered through it. -/
  answered : ∃ version, answers.probed = .ok version ∨ answers.probedAgain = .ok version
  /-- A daemon of another version is let through only on demand, and with a warning, if the remote told
  the version when it was asked, or if what was kept was used. -/
  gated : ∀ path version, (startTunnel ignore cache answers).forward = some path →
    (usableRemoteSock cache = none ∧ ensureRemoteReady answers.asked = .ok (path, some version) ∨
      (usableRemoteSock cache).isSome ∧ probeTunnel true path answers = .ok version) →
    version ≠ protocolVersion → ignore = true ∧ warnings ≠ []
  /-- Where the remote told a path and no version, as it does if no server is to be started there, a
  daemon of any version is let through. -/
  ungated : usableRemoteSock cache = none → ∀ path,
    ensureRemoteReady answers.asked = .ok (path, none) → ∀ version,
      (startTunnel ignore cache { answers with probed := .ok version }).result = .ok []

/-! ### One start -/

section

variable {ignore : Bool} {cache : Option Text} {answers : StartAnswers}

/-- A cached path is used only if it is absolute, and it is what the cache holds. -/
theorem usable_absolute {path : Text} (usable : usableRemoteSock cache = some path) :
    path.head? = some '/' ∧ ∃ content, cache = some content ∧ trim content = path := by
  unfold usableRemoteSock cachedRemoteSock at usable
  obtain ⟨some_, absolute⟩ := Option.filter_eq_some_iff.mp usable
  obtain ⟨mapped, -⟩ := Option.filter_eq_some_iff.mp some_
  obtain ⟨content, there, same⟩ := Option.map_eq_some_iff.mp mapped
  exact ⟨of_decide_eq_true absolute, content, there, same⟩

/-- A tunnel is aimed at what was kept, or at what the remote tells. -/
theorem aim_ok {path : Text} {version : Option UInt16} (aimed : aim cache answers = .ok (path, version)) :
    usableRemoteSock cache = some path ∧ version = none ∨
      usableRemoteSock cache = none ∧ ensureRemoteReady answers.asked = .ok (path, version) := by
  unfold aim at aimed
  split at aimed
  · next sock usable =>
    obtain ⟨rfl, rfl⟩ := Prod.mk.inj (Except.ok.inj aimed)
    exact .inl ⟨usable, rfl⟩
  · next unusable =>
    right
    split at aimed
    · next told same =>
      obtain rfl := Except.ok.inj aimed
      exact ⟨unusable, same⟩
    · exact nomatch aimed

/-- What can become of a start. -/
inductive StartOutcome (ignore : Bool) (cache : Option Text) (answers : StartAnswers) : Started → Prop
  | early (error : StartError) (notStale : ∀ cached fresh, error ≠ .stale cached fresh) :
    StartOutcome ignore cache answers
      { cache := keptCache cache, forward := none, result := .error error }
  | late (path : Text) (version : Option UInt16) (error : StartError)
    (aimed : aim cache answers = .ok (path, version))
    (notStale : ∀ cached fresh, error ≠ .stale cached fresh) :
    StartOutcome ignore cache answers
      { cache := keptCache cache, forward := some path, result := .error error }
  | stale (path : Text) (version : Option UInt16) (cached fresh : Text)
    (aimed : aim cache answers = .ok (path, version)) (used : (usableRemoteSock cache).isSome = true) :
    StartOutcome ignore cache answers
      { cache := none, forward := some path, result := .error (.stale cached fresh) }
  | up (path : Text) (version : Option UInt16) (probed : UInt16) (before after : List Text)
    (aimed : aim cache answers = .ok (path, version))
    (first : version.elim (.ok []) (checkRemoteProtocolVersion · ignore) = .ok before)
    (answered : probeTunnel (usableRemoteSock cache).isSome path answers = .ok probed)
    (second : (if (usableRemoteSock cache).isSome then checkRemoteProtocolVersion probed ignore
      else .ok []) = .ok after) :
    StartOutcome ignore cache answers
      { cache := some path, forward := some path, result := .ok (before ++ after) }

/-- The check of the version never finds the cache stale. -/
theorem check_notStale {remote : UInt16} {error : StartError}
    (refused : checkRemoteProtocolVersion remote ignore = .error error) (cached fresh : Text) :
    error ≠ .stale cached fresh := by
  unfold checkRemoteProtocolVersion at refused
  split at refused
  · exact nomatch refused
  · split at refused
    · exact nomatch refused
    · obtain rfl := Except.error.inj refused
      exact fun same => nomatch same

/-- Aiming never finds the cache stale. -/
theorem aim_notStale {error : StartError} (failed : aim cache answers = .error error)
    (cached fresh : Text) : error ≠ .stale cached fresh := by
  unfold aim at failed
  split at failed
  · exact nomatch failed
  · split at failed
    · exact nomatch failed
    · obtain rfl := Except.error.inj failed
      exact fun same => nomatch same

/-- How a start ends, by what it was given. -/
theorem startTunnel_outcome (ignore : Bool) (cache : Option Text) (answers : StartAnswers) :
    StartOutcome ignore cache answers (startTunnel ignore cache answers) := by
  unfold startTunnel
  cases aimed : aim cache answers with
  | error error => exact .early error (aim_notStale aimed)
  | ok told =>
    obtain ⟨path, version⟩ := told
    simp only
    cases first : version.elim (Except.ok []) (checkRemoteProtocolVersion · ignore) with
    | error error =>
      refine .early error ?_
      cases version with
      | none => exact nomatch first
      | some remote => exact check_notStale first
    | ok before =>
      simp only
      cases spawned : answers.spawned with
      | false => exact .early _ fun _ _ same => nomatch same
      | true =>
        cases bound : answers.bound with
        | false => exact .late path version _ aimed fun _ _ same => nomatch same
        | true =>
          simp only [Bool.not_true, Bool.false_eq_true, if_false]
          cases answered : probeTunnel (usableRemoteSock cache).isSome path answers with
          | error error =>
            cases error with
            | stale cached fresh =>
              refine .stale path version cached fresh aimed ?_
              -- Only what was kept can be out of date.
              cases used : (usableRemoteSock cache).isSome with
              | true => rfl
              | false =>
                unfold probeTunnel at answered
                rw [used] at answered
                split at answered
                · exact nomatch answered
                · exact nomatch answered
            | ensure error => exact .late path version _ aimed fun _ _ same => nomatch same
            | version message => exact .late path version _ aimed fun _ _ same => nomatch same
            | spawn => exact .late path version _ aimed fun _ _ same => nomatch same
            | neverBound => exact .late path version _ aimed fun _ _ same => nomatch same
            | unreachable why => exact .late path version _ aimed fun _ _ same => nomatch same
            | notResponding why => exact .late path version _ aimed fun _ _ same => nomatch same
          | ok probed =>
            simp only
            cases second : if (usableRemoteSock cache).isSome then
                checkRemoteProtocolVersion probed ignore else .ok [] with
            | error error =>
              refine .late path version error aimed ?_
              split at second
              · exact check_notStale second
              · exact nomatch second
            | ok after => exact .up path version probed before after aimed first answered second

/-- Only a tunnel that was started and bound comes up. -/
theorem startTunnel_through {warnings : List Text}
    (up : (startTunnel ignore cache answers).result = .ok warnings) :
    answers.spawned = true ∧ answers.bound = true := by
  unfold startTunnel at up
  cases aimed : aim cache answers with
  | error error =>
    rw [aimed] at up
    exact nomatch up
  | ok told =>
    simp only [aimed] at up
    split at up
    · exact nomatch up
    · cases spawned : answers.spawned with
      | false =>
        rw [spawned] at up
        exact nomatch up
      | true =>
        cases bound : answers.bound with
        | false =>
          rw [spawned, bound] at up
          exact nomatch up
        | true => exact ⟨rfl, rfl⟩

/-- Without a version told, what answers through a new path is let through. -/
theorem startTunnel_ungated (unusable : usableRemoteSock cache = none) {path : Text}
    (told : ensureRemoteReady answers.asked = .ok (path, none)) (spawned : answers.spawned = true)
    (bound : answers.bound = true) {version : UInt16} (probed : answers.probed = .ok version) :
    (startTunnel ignore cache answers).result = .ok [] := by
  have aimed : aim cache answers = .ok (path, none) := by
    unfold aim
    rw [unusable, told]
  unfold startTunnel probeTunnel
  simp only [aimed, Option.elim_none, spawned, bound, Bool.not_true, Bool.false_eq_true, if_false,
    probed, unusable, Option.isSome_none, List.nil_append]

/-- A tunnel comes up with its path kept, a daemon behind it, and the version looked at. -/
theorem cameUp {warnings : List Text} (up : (startTunnel ignore cache answers).result = .ok warnings) :
    CameUp ignore cache answers warnings := by
  have outcome := startTunnel_outcome ignore cache answers
  generalize started : startTunnel ignore cache answers = result at outcome up
  cases outcome with
  | early error => exact nomatch up
  | late path version error => exact nomatch up
  | stale path version cached fresh => exact nomatch up
  | up path version probed before after aimed first answered second =>
    obtain rfl := Except.ok.inj up
    refine ⟨by rw [started]; exact ⟨rfl, rfl⟩, ⟨probed, ?_⟩, ?_, ?_⟩
    · unfold probeTunnel at answered
      split at answered
      · next direct =>
        obtain rfl := Except.ok.inj answered
        exact .inl direct
      · split at answered
        · split at answered
          · exact nomatch answered
          · split at answered
            · exact nomatch answered
            · split at answered
              · next again =>
                obtain rfl := Except.ok.inj answered
                exact .inr again
              · exact nomatch answered
        · exact nomatch answered
    · intro shown remote same seen other
      rw [started] at same
      cases same
      -- The version went through the gate, at one end of the start or at the other.
      have gate : ∀ warnings : List Text, checkRemoteProtocolVersion remote ignore = .ok warnings →
          ignore = true ∧ warnings ≠ [] := by
        intro warnings passed
        unfold checkRemoteProtocolVersion mismatchMessage at passed
        rw [if_neg other] at passed
        cases ignore with
        | true =>
          obtain rfl := Except.ok.inj passed
          exact ⟨rfl, List.cons_ne_nil _ _⟩
        | false => exact nomatch passed
      rcases seen with ⟨unusable, told⟩ | ⟨used, probedVersion⟩
      · rcases aim_ok aimed with ⟨usable, -⟩ | ⟨-, asked⟩
        · rw [unusable] at usable
          exact nomatch usable
        · obtain ⟨-, rfl⟩ := Prod.mk.inj (Except.ok.inj (asked.symm.trans told))
          obtain ⟨ignored, warned⟩ := gate before first
          exact ⟨ignored, List.append_ne_nil_of_left_ne_nil warned _⟩
      · rw [used] at answered second
        obtain rfl := Except.ok.inj (answered.symm.trans probedVersion)
        obtain ⟨ignored, warned⟩ := gate after second
        exact ⟨ignored, List.append_ne_nil_of_right_ne_nil _ warned⟩
    · intro unusable asked told version
      have comesUp : (startTunnel ignore cache answers).result = .ok (before ++ after) := by
        rw [started]
      obtain ⟨spawned, bound⟩ := startTunnel_through comesUp
      exact startTunnel_ungated unusable told spawned bound rfl

end

/-! ### All starts -/

section

variable {life next : TunnelLife} {path : Text}

/-- What accounts for a path does so when more was told and found. -/
theorem Accounted.mono (accounted : Accounted life path) (told : life.told ⊆ next.told)
    (found : life.found ⊆ next.found) : Accounted next path where
  absolute := accounted.absolute
  trimmed := accounted.trimmed
  known := by
    rcases accounted.known with isTold | ⟨content, isFound, same⟩
    · exact .inl (told isTold)
    · exact .inr ⟨content, found isFound, same⟩

/-- What the remote tells is a path. -/
theorem ensureRemoteReady_sound {got : Except Text Text} {version : Option UInt16}
    (told : ensureRemoteReady got = .ok (path, version)) : AimablePath path := by
  unfold ensureRemoteReady at told
  split at told
  · exact nomatch told
  · exact (parseEnsureRemoteOutput_sound told).1

/-- Where a start aims is accounted for. -/
theorem aim_accounted (well : WellAimed life) {answers : StartAnswers} {version : Option UInt16}
    (aimed : aim life.cache answers = .ok (path, version)) (told : life.told ⊆ next.told)
    (found : life.found ⊆ next.found)
    (heard : toldPaths (consulted life.cache answers) ⊆ next.told) : Accounted next path := by
  rcases aim_ok aimed with ⟨usable, -⟩ | ⟨unusable, asked⟩
  · obtain ⟨absolute, content, there, same⟩ := usable_absolute usable
    refine ⟨absolute, by rw [← same, trim_trim], ?_⟩
    rcases well.cached content there with isFound | accounted
    · exact .inr ⟨content, found isFound, same⟩
    · rw [← same, accounted.trimmed]
      exact (accounted.mono told found).known
  · have aimable := ensureRemoteReady_sound asked
    refine ⟨aimable.absolute, aimable.trimmed, .inl (heard ?_)⟩
    unfold toldPaths consulted
    rw [if_pos unusable]
    exact List.mem_filterMap.mpr ⟨_, List.mem_singleton_self _, by rw [asked]; rfl⟩

/-- A start leaves the tunnel well aimed. -/
theorem WellAimed.start (well : WellAimed life) (ignore : Bool) (answers : StartAnswers) :
    WellAimed (life.start ignore answers) := by
  have outcome := startTunnel_outcome ignore life.cache answers
  have told : life.told ⊆ (life.start ignore answers).told := List.subset_append_left _ _
  have found : life.found ⊆ (life.start ignore answers).found := List.Subset.refl _
  have heard : toldPaths (consulted life.cache answers) ⊆ (life.start ignore answers).told :=
    List.subset_append_right _ _
  have aimedAt : ∀ path version, aim life.cache answers = .ok (path, version) →
      Accounted (life.start ignore answers) path := fun path version aimed =>
    aim_accounted well aimed told found heard
  have kept : ∀ content, keptCache life.cache = some content →
      content ∈ (life.start ignore answers).found ∨ Accounted (life.start ignore answers) content := by
    intro content there
    unfold keptCache at there
    split at there
    · exact nomatch there
    · exact (well.cached content there).imp (fun isFound => found isFound) fun accounted =>
        accounted.mono told found
  have before : ∀ path ∈ life.aimed, Accounted (life.start ignore answers) path :=
    fun path among => (well.aimed path among).mono told found
  -- The last of those that ssh was aimed at is where this start aims.
  have forwards : ∀ (forward : Option Text), (∀ path, forward = some path →
      Accounted (life.start ignore answers) path) → ∀ path ∈ life.aimed ++ forward.toList,
        Accounted (life.start ignore answers) path := by
    intro forward last path among
    rcases List.mem_append.mp among with old | new
    · exact before path old
    · exact last path (Option.mem_toList.mp new)
  generalize goal : life.start ignore answers = next at *
  unfold TunnelLife.start at goal
  generalize startTunnel ignore life.cache answers = started at outcome goal
  subst goal
  cases outcome with
  | early error notStale =>
    refine ⟨forwards none fun _ same => (nomatch same), fun _ same => (nomatch same), kept, ?_⟩
    intro refuted
    cases error with
    | stale cached fresh => exact absurd rfl (notStale cached fresh)
    | _ => exact absurd refuted Bool.false_ne_true
  | late path version error aimed notStale =>
    refine ⟨forwards (some path) fun _ same => Option.some.inj same ▸ aimedAt path version aimed,
      fun _ same => (nomatch same), kept, ?_⟩
    intro refuted
    cases error with
    | stale cached fresh => exact absurd rfl (notStale cached fresh)
    | _ => exact absurd refuted Bool.false_ne_true
  | stale path version cached fresh aimed used =>
    exact ⟨forwards (some path) fun _ same => Option.some.inj same ▸ aimedAt path version aimed,
      fun _ same => (nomatch same), fun _ same => (nomatch same), fun _ => rfl⟩
  | up path version probed before_ after aimed first answered second =>
    have here := aimedAt path version aimed
    exact ⟨forwards (some path) fun _ same => Option.some.inj same ▸ here,
      fun _ same => Option.some.inj same ▸ here, fun _ same => .inr (Option.some.inj same ▸ here),
      fun refuted => nomatch refuted⟩

/-- A respawn leaves the tunnel well aimed. -/
theorem WellAimed.respawn (well : WellAimed life) {remoteSock : Text}
    (supervised : life.supervisor = some remoteSock) (asked : Option (Except Text Text))
    (spawned : Bool) : WellAimed (life.respawn remoteSock asked spawned) := by
  have added : ∀ (next : TunnelLife) (path : Text), (∀ old ∈ life.aimed, Accounted next old) →
      Accounted next path → ∀ each ∈ life.aimed ++ (if spawned then [path] else []),
        Accounted next each := by
    intro next path old here each among
    rcases List.mem_append.mp among with before | new
    · exact old each before
    · split at new
      · rw [List.mem_singleton.mp new]
        exact here
      · exact absurd new List.not_mem_nil
  unfold TunnelLife.respawn
  -- The path that the supervisor has is used again, or the remote is asked for one.
  split
  · have same : ∀ path, Accounted life path → Accounted
        { life with aimed := life.aimed ++ if spawned then [remoteSock] else [] } path :=
      fun path accounted => accounted.mono (List.Subset.refl _) (List.Subset.refl _)
    exact ⟨added _ remoteSock (fun path among => same path (well.aimed path among))
      (same _ (well.keeps _ supervised)), fun path kept => same path (well.keeps path kept),
      fun content there => (well.cached content there).imp id (same content), well.asks⟩
  · next got =>
    split
    · exact well
    · next sock version told =>
      have aimable := ensureRemoteReady_sound told
      have later : ∀ path, Accounted life path → Accounted
          { life with supervisor := some sock, told := life.told ++ [sock],
                      aimed := life.aimed ++ if spawned then [sock] else [] } path :=
        fun path accounted => accounted.mono (List.subset_append_left _ _) (List.Subset.refl _)
      have here : Accounted
          { life with supervisor := some sock, told := life.told ++ [sock],
                      aimed := life.aimed ++ if spawned then [sock] else [] } sock :=
        ⟨aimable.absolute, aimable.trimmed, .inl (List.mem_append_right _ (List.mem_singleton_self _))⟩
      exact ⟨added _ sock (fun path among => later path (well.aimed path among)) here,
        fun path kept => Option.some.inj kept ▸ here,
        fun content there => (well.cached content there).imp id (later content), well.asks⟩

/-- Every event leaves the tunnel well aimed. -/
theorem WellAimed.step (well : WellAimed life) {event : LifeEvent}
    (stepped : life.step event = some next) : WellAimed next := by
  cases event with
  | start ignore answers =>
    simp only [TunnelLife.step] at stepped
    split at stepped
    · cases stepped
      exact well.start ignore answers
    · exact nomatch stepped
  | respawn asked spawned =>
    obtain ⟨remoteSock, supervised, rfl⟩ := Option.map_eq_some_iff.mp stepped
    exact well.respawn supervised asked spawned
  | dies =>
    cases stepped
    -- A supervisor that died is missed by nothing that is kept.
    have same : ∀ path, Accounted life path → Accounted { life with supervisor := none } path :=
      fun path accounted => accounted.mono (List.Subset.refl _) (List.Subset.refl _)
    exact ⟨fun path among => same path (well.aimed path among), fun _ kept => (nomatch kept),
      fun content there => (well.cached content there).imp id (same content), well.asks⟩
  | left content =>
    cases stepped
    have later : ∀ path, Accounted life path → Accounted
        { life with cache := content, found := life.found ++ content.toList, refuted := false } path :=
      -- What others left counts as found.
      fun path accounted => accounted.mono (List.Subset.refl _) (List.subset_append_left _ _)
    exact ⟨fun path among => later path (well.aimed path among),
      fun path kept => later path (well.keeps path kept),
      fun left there => .inl (List.mem_append_right _ (Option.mem_toList.mpr there)),
      fun refuted => nomatch refuted⟩

end

/-- Where tunnels are aimed, from any beginning and whatever comes back. -/
structure TunnelAims : Prop where
  remote : AsksRemote
  always : ∀ cache events life,
    (tunnelLife cache).run (tunnelLife cache).init events = some life → WellAimed life
  up : ∀ ignore cache answers warnings, (startTunnel ignore cache answers).result = .ok warnings →
    CameUp ignore cache answers warnings

end Gritty
