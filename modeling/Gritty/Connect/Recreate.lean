import Gritty.Config.HostNames
import Gritty.Connect.Destination
import Gritty.Lib.TextLines
import Gritty.Lib.Transition
import Gritty.Procscan.ProcNetUnix

/-! How a tunnel is made again, from what was kept of the command line that it was made with. -/

namespace Gritty

/-- What a command line says of a tunnel that is to be made. -/
structure TunnelCreate where
  destination : String
  name : Option String := none
  noServerStart : Bool := false
  sshOptions : List String := []
  dryRun : Bool := false
  foreground : Bool := false
  ignoreVersionMismatch : Bool := false
  deriving DecidableEq

structure ConnectOpts where
  destination : String
  noServerStart : Bool
  sshOptions : List String
  /-- The options of the command line alone. -/
  cliSshOptions : List String
  name : String
  dryRun : Bool
  foreground : Bool
  ignoreVersionMismatch : Bool
  isolateControlPath : Bool
  connectTimeout : Nat
  deriving DecidableEq

/-- Of two values for an option, ssh takes the first. -/
def mergeSshOptions (cli configured : List String) : List String := cli ++ configured

/-- What a tunnel of a name is started with. -/
def TunnelCreate.optsUnder (config : ConfigFile) (hostname : String) (create : TunnelCreate)
    (connectionName : String) : ConnectOpts :=
  let resolved := (config.resolveTunnel hostname connectionName).1
  { destination := create.destination
    noServerStart := create.noServerStart || resolved.noServerStart
    sshOptions := mergeSshOptions create.sshOptions resolved.sshOptions
    cliSshOptions := create.sshOptions
    name := connectionName
    dryRun := create.dryRun
    foreground := create.foreground
    ignoreVersionMismatch := create.ignoreVersionMismatch
    isolateControlPath := resolved.isolateControlPath
    connectTimeout := resolved.connectTimeout }

/-- The name of a tunnel, as it was given or by the host of the destination. -/
def TunnelCreate.givenName (create : TunnelCreate) : Except String String :=
  match create.name with
  | some name => .ok name
  | none => (Destination.parse create.destination.toList).map fun dest => String.ofList dest.host

def TunnelCreate.connectOpts (config : ConfigFile) (hostname : String) (create : TunnelCreate) :
    Except String ConnectOpts :=
  match create.givenName with
  | .error reason => .error reason
  | .ok given =>
    if config.canonicalHost given = "local" then
      .error "'local' is reserved for the local server; use 'localhost.' to SSH to this machine"
    else .ok (create.optsUnder config hostname (config.canonicalHost given))

/-! ### What is kept -/

/-- The files that are kept of a tunnel, its destination and its options. -/
structure KeptTunnel where
  dest : Option Text := none
  sshOpts : Option Text := none

/-- What a tunnel that is ready leaves for the next time. -/
def ConnectOpts.kept (opts : ConnectOpts) : KeptTunnel where
  dest := some opts.destination.toList
  sshOpts :=
    if opts.cliSshOptions = [] then none
    else some (['\n'].intercalate (opts.cliSshOptions.map String.toList))

def destinationFromSidecar (contents : Option Text) (configDest : Option String)
    (connectionName : String) : String :=
  match (contents.map trim).filter (· ≠ []) with
  | some destination => String.ofList destination
  | none => configDest.getD connectionName

def readPersistedSshOptions (contents : Option Text) : List String :=
  (((contents.map textLines).getD []).filter (· ≠ [])).map String.ofList

def buildTunnelRecreateArgs (connectionName destination : String) (sshOptions : List String) :
    List String :=
  ["tunnel-create", "--name", connectionName] ++ sshOptions.flatMap (["-o", ·]) ++ [destination]

def tunnelRecreateArgs (config : ConfigFile) (kept : KeptTunnel) (connectionName : String) :
    List String :=
  buildTunnelRecreateArgs connectionName
    (destinationFromSidecar kept.dest (config.aliasDestination connectionName) connectionName)
    (readPersistedSshOptions kept.sshOpts)

/-! ### Command lines -/

/-- An argument that is not taken for an option. -/
def IsOperand (arg : String) : Prop := arg = "-" ∨ arg.toList.head? ≠ some '-'

instance (arg : String) : Decidable (IsOperand arg) := inferInstanceAs (Decidable (_ ∨ _))

/-- How command lines are read. Of an option or a value that is missing, nothing is made. -/
structure ArgReader where
  read : List String → Option TunnelCreate
  recreates : ∀ connectionName destination sshOptions,
    read (buildTunnelRecreateArgs connectionName destination sshOptions) =
      if IsOperand connectionName ∧ IsOperand destination ∧ ∀ option ∈ sshOptions, IsOperand option then
        some { destination, name := some connectionName, sshOptions }
      else none

/-- Options with their values, and a destination behind them. -/
def replayedOptions : List String → Option (List String × String)
  | [destination] => some ([], destination)
  | "-o" :: option :: rest => (replayedOptions rest).map fun read => (option :: read.1, read.2)
  | _ => none

/-- The options of a record are read back, with the destination behind them. -/
theorem replayedOptions_flatMap (sshOptions : List String) (destination : String) :
    replayedOptions (sshOptions.flatMap (["-o", ·]) ++ [destination]) = some (sshOptions, destination) := by
  induction sshOptions with
  | nil => rfl
  | cons option others ih =>
    rw [List.flatMap_cons, List.append_assoc]
    show (replayedOptions (others.flatMap (["-o", ·]) ++ [destination])).map _ = _
    rw [ih]
    rfl

/-- A reader that knows no other command lines. -/
def recreateReader : ArgReader where
  read
    | "tunnel-create" :: "--name" :: connectionName :: rest =>
      (replayedOptions rest).bind fun (sshOptions, destination) =>
        if IsOperand connectionName ∧ IsOperand destination ∧ ∀ option ∈ sshOptions, IsOperand option then
          some { destination, name := some connectionName, sshOptions }
        else none
    | _ => none
  recreates connectionName destination sshOptions := by
    show (replayedOptions (sshOptions.flatMap (["-o", ·]) ++ [destination])).bind _ = _
    rw [replayedOptions_flatMap]
    rfl

/-! ### Tunnels over time -/

/-- Tunnels by their names: what is kept of each, and the command line that it was last made with by
hand. -/
structure KeptTunnels where
  kept : String → KeptTunnel
  asked : String → Option TunnelCreate

inductive RecreateEvent where
  /-- Somebody makes a tunnel, which comes up or not. -/
  | create (create : TunnelCreate) (up : Bool)
  /-- A tunnel is made again under a name that was typed, by a restart or as it is needed. -/
  | recreate (typed : String) (up : Bool)
  | disturbed (host : String) (left : KeptTunnel)

namespace KeptTunnels

variable (reader : ArgReader) (config : ConfigFile) (hostname : String)

/-- What a tunnel is made with when it is made again. -/
def again (kept : KeptTunnel) (host : String) : Except String ConnectOpts :=
  match reader.read (tunnelRecreateArgs config kept host) with
  | some create => create.connectOpts config hostname
  | none => .error "no such command line"

/-- A tunnel that is ready leaves what is kept of it. -/
def ready (tunnels : KeptTunnels) (opts : ConnectOpts) : KeptTunnels :=
  if opts.dryRun then tunnels
  else { tunnels with kept := Function.update tunnels.kept opts.name opts.kept }

def step (tunnels : KeptTunnels) : RecreateEvent → Option KeptTunnels
  | .create create up =>
    match create.connectOpts config hostname with
    | .ok opts =>
      if up ∧ ¬ create.dryRun then
        some { tunnels.ready opts with asked := Function.update tunnels.asked opts.name (some create) }
      else some tunnels
    | .error _ => some tunnels
  | .recreate typed up =>
    match again reader config hostname (tunnels.kept (config.canonicalHost typed))
        (config.canonicalHost typed) with
    | .ok opts => some (if up then tunnels.ready opts else tunnels)
    | .error _ => some tunnels
  | .disturbed host left =>
    some {
      kept := Function.update tunnels.kept host left
      asked := Function.update tunnels.asked host none }

end KeptTunnels

def keptTunnels (reader : ArgReader) (config : ConfigFile) (hostname : String) :
    Machine KeptTunnels RecreateEvent where
  init := { kept := fun _ => {}, asked := fun _ => none }
  step := KeptTunnels.step reader config hostname

/-! ### What comes back -/

/-- A command line that can be kept: a destination without blanks around it and options of one line,
none of which is taken for an option of its own. -/
structure TunnelCreate.Replayable (create : TunnelCreate) : Prop where
  destination : create.destination.toList ≠ []
  trimmed : trim create.destination.toList = create.destination.toList
  operand : IsOperand create.destination
  operands : ∀ option ∈ create.sshOptions, IsOperand option
  filled : ∀ option ∈ create.sshOptions, option.toList ≠ []
  unbroken : ∀ option ∈ create.sshOptions, '\n' ∉ option.toList
  solid : ∀ option ∈ create.sshOptions, option.toList.getLast? ≠ some '\r'

/-- The command line that a tunnel is made again by: the same, without what is for one time only. -/
def TunnelCreate.replayed (create : TunnelCreate) (connectionName : String) : TunnelCreate where
  destination := create.destination
  name := some connectionName
  sshOptions := create.sshOptions

section

variable {reader : ArgReader} {config : ConfigFile} {hostname host : String} {create : TunnelCreate}
  {opts : ConnectOpts} {kept : KeptTunnel}

/-- A destination is read as it was written. -/
theorem destinationFromSidecar_kept (replayable : create.Replayable) (configDest : Option String) :
    destinationFromSidecar (create.optsUnder config hostname host).kept.dest configDest host =
      create.destination := by
  have found : (some create.destination.toList).filter (· ≠ []) = some create.destination.toList := by
    simpa using replayable.destination
  unfold destinationFromSidecar ConnectOpts.kept TunnelCreate.optsUnder
  rw [Option.map_some, replayable.trimmed, found]
  exact String.ofList_toList

/-- So are the options, each on its line. -/
theorem readPersistedSshOptions_kept (replayable : create.Replayable) :
    readPersistedSshOptions (create.optsUnder config hostname host).kept.sshOpts =
      create.sshOptions := by
  have lines (check : List Char → Prop) (each : ∀ option ∈ create.sshOptions, check option.toList) :
      ∀ line ∈ create.sshOptions.map String.toList, check line := by
    intro line among
    obtain ⟨option, there, rfl⟩ := List.mem_map.mp among
    exact each option there
  unfold readPersistedSshOptions ConnectOpts.kept TunnelCreate.optsUnder
  by_cases none : create.sshOptions = []
  · -- Without options there is no file.
    rw [if_pos none, none]
    rfl
  · rw [if_neg none, Option.map_some, Option.getD_some,
      textLines_intercalate (lines _ replayable.unbroken) (lines _ replayable.solid)
        (lines _ replayable.filled),
      List.filter_eq_self.mpr (by simpa using replayable.filled), List.map_map]
    have same : String.ofList ∘ String.toList = id := funext fun option => String.ofList_toList
    rw [same, List.map_id]

/-- Only a tunnel of the name it is to have is made again, of what is kept. -/
theorem again_eq_ok (made : KeptTunnels.again reader config hostname kept host = .ok opts) :
    IsOperand host ∧ config.canonicalHost host ≠ "local" ∧
      opts = ({ destination :=
                  destinationFromSidecar kept.dest (config.aliasDestination host) host
                sshOptions := readPersistedSshOptions kept.sshOpts : TunnelCreate }.replayed
              host).optsUnder config hostname (config.canonicalHost host) := by
  unfold KeptTunnels.again tunnelRecreateArgs at made
  rw [reader.recreates] at made
  split_ifs at made with operands
  simp only [TunnelCreate.connectOpts, TunnelCreate.givenName] at made
  split_ifs at made with reserved
  exact ⟨operands.1, reserved, (Except.ok.inj made).symm⟩

/-- What was kept of a command line makes the same tunnel again. -/
theorem again_kept (replayable : create.Replayable) (operand : IsOperand host)
    (canonical : config.canonicalHost host = host) (remote : host ≠ "local") :
    KeptTunnels.again reader config hostname (create.optsUnder config hostname host).kept host =
      .ok ((create.replayed host).optsUnder config hostname host) := by
  unfold KeptTunnels.again tunnelRecreateArgs
  rw [destinationFromSidecar_kept replayable, readPersistedSshOptions_kept replayable,
    reader.recreates, if_pos ⟨operand, replayable.operand, replayable.operands⟩]
  simp only [TunnelCreate.connectOpts, TunnelCreate.givenName, canonical, if_neg remote]
  rfl

end

/-- What is kept is of the command line that the tunnel was last made with by hand. -/
def KeptTunnels.Kept (config : ConfigFile) (hostname : String) (tunnels : KeptTunnels) : Prop :=
  ∀ host create, tunnels.asked host = some create →
    config.canonicalHost host = host ∧ host ≠ "local" ∧ (create.Replayable →
      tunnels.kept host = (create.optsUnder config hostname host).kept)

section

variable {reader : ArgReader} {config : ConfigFile} {hostname : String} {tunnels next : KeptTunnels}

/-- What resolves is a host's own name, and the options are made under it. -/
theorem TunnelCreate.connectOpts_eq_ok {create : TunnelCreate} {opts : ConnectOpts}
    (resolved : create.connectOpts config hostname = .ok opts) :
    config.canonicalHost opts.name = opts.name ∧ opts.name ≠ "local" ∧
      opts = create.optsUnder config hostname opts.name := by
  unfold TunnelCreate.connectOpts at resolved
  cases given : create.givenName with
  | error reason =>
    rw [given] at resolved
    cases resolved
  | ok typed =>
    rw [given] at resolved
    dsimp only at resolved
    split_ifs at resolved with reserved
    obtain rfl := Except.ok.inj resolved
    exact ⟨config.canonicalHost_settles typed, reserved, rfl⟩

theorem KeptTunnels.ready_of_writes {opts : ConnectOpts} (writes : opts.dryRun = false) :
    tunnels.ready opts =
      { tunnels with kept := Function.update tunnels.kept opts.name opts.kept } := by
  unfold KeptTunnels.ready
  rw [writes]
  rfl

/-- What is kept of a tunnel stays that of its command line, whatever happens to others. -/
theorem KeptTunnels.Kept.step (holds : tunnels.Kept config hostname) {event : RecreateEvent}
    (stepped : tunnels.step reader config hostname event = some next) :
    next.Kept config hostname := by
  cases event with
  | create create up =>
    simp only [KeptTunnels.step] at stepped
    cases resolved : create.connectOpts config hostname with
    | error reason =>
      rw [resolved] at stepped
      cases stepped
      exact holds
    | ok opts =>
      rw [resolved] at stepped
      dsimp only at stepped
      split_ifs at stepped with ready
      · cases stepped
        obtain ⟨canonical, remote, is⟩ := TunnelCreate.connectOpts_eq_ok resolved
        have writes : opts.dryRun = false := by
          rw [is]
          simpa [TunnelCreate.optsUnder] using ready.2
        rw [KeptTunnels.ready_of_writes writes]
        intro host asked found
        dsimp only at found ⊢
        -- The tunnel that is made is kept, and those of other names stay as they are.
        by_cases same : host = opts.name
        · subst same
          rw [Function.update_self] at found
          cases found
          refine ⟨canonical, remote, fun _ => ?_⟩
          rw [Function.update_self, ← is]
        · rw [Function.update_of_ne same] at found
          obtain ⟨settled, away, written⟩ := holds host asked found
          refine ⟨settled, away, fun replayable => ?_⟩
          rw [Function.update_of_ne same]
          exact written replayable
      · cases stepped
        exact holds
  | recreate typed up =>
    simp only [KeptTunnels.step] at stepped
    cases made : KeptTunnels.again reader config hostname
        (tunnels.kept (config.canonicalHost typed)) (config.canonicalHost typed) with
    | error reason =>
      rw [made] at stepped
      cases stepped
      exact holds
    | ok opts =>
      rw [made] at stepped
      cases stepped
      split_ifs with cameUp
      · obtain ⟨-, -, is⟩ := again_eq_ok made
        rw [config.canonicalHost_settles] at is
        have name : opts.name = config.canonicalHost typed := by
          rw [is]
          rfl
        have writes : opts.dryRun = false := by
          rw [is]
          rfl
        rw [KeptTunnels.ready_of_writes writes]
        intro host asked found
        dsimp only at found ⊢
        obtain ⟨settled, away, written⟩ := holds host asked found
        refine ⟨settled, away, fun replayable => ?_⟩
        by_cases same : host = config.canonicalHost typed
        · -- What was kept is read, and written again as it was.
          subst same
          rw [name, Function.update_self]
          rw [written replayable, destinationFromSidecar_kept replayable,
            readPersistedSshOptions_kept replayable] at is
          rw [is]
          rfl
        · rw [name, Function.update_of_ne same]
          exact written replayable
      · exact holds
  | disturbed host left =>
    cases stepped
    intro other create found
    dsimp only at found ⊢
    by_cases same : other = host
    · -- Nothing is said any more of a tunnel whose files others changed.
      subst same
      rw [Function.update_self] at found
      cases found
    · rw [Function.update_of_ne same] at found ⊢
      exact holds other create found

variable (reader config hostname)

/-- How a tunnel is made again, at any time. -/
structure Recreates : Prop where
  /-- However often a tunnel was made again since it was made by hand, it is made again to the same
  destination with the same options, none of them lost or given twice. -/
  same : ∀ events tunnels, (keptTunnels reader config hostname).run
      (keptTunnels reader config hostname).init events = some tunnels →
    ∀ host create, tunnels.asked host = some create → create.Replayable → IsOperand host →
      KeptTunnels.again reader config hostname (tunnels.kept host) host =
        .ok ((create.replayed host).optsUnder config hostname host)
  /-- Whatever is kept, another time is like the first. -/
  settles : ∀ kept host opts, KeptTunnels.again reader config hostname kept host = .ok opts →
    { destination := opts.destination, sshOptions := opts.cliSshOptions : TunnelCreate }.Replayable →
      IsOperand opts.name →
      KeptTunnels.again reader config hostname opts.kept opts.name = .ok opts
  /-- No other tunnel comes up instead. -/
  named : ∀ kept host opts, KeptTunnels.again reader config hostname kept host = .ok opts →
    opts.name = config.canonicalHost host ∧ opts.name ≠ "local"
  /-- Where nothing is kept, the configuration says where a host is, or its name does. -/
  cold : ∀ host opts, KeptTunnels.again reader config hostname {} host = .ok opts →
    opts.destination = (config.aliasDestination host).getD host ∧ opts.cliSshOptions = [] ∧
      opts.sshOptions = (config.resolveTunnel hostname (config.canonicalHost host)).1.sshOptions

end

/-- A configuration that says nothing. -/
def unconfigured : ConfigFile where
  defaults := ⟨none, none, none, none, none, none, none, none, none, none, none, none, none, none, none⟩
  host := []
  once := List.nodup_nil

/-- A tunnel is made through another host. -/
def farTunnel : TunnelCreate where
  destination := "me@far.example.com:2222"
  name := some "far"
  sshOptions := ["ProxyJump=hop", "Compression=yes"]

end Gritty
