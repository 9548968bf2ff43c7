import Gritty.Connect.Destination
import Gritty.Transfer.WireNames

/-! The command lines that are handed to ssh, and what ssh reads in them. -/

namespace Gritty

/-! ### Building the command lines -/

/-- What is wrong with a connection name. The error about a bad name shows it. -/
inductive ConnectionNameError where
  | empty
  | invalid (name : Text)
  deriving DecidableEq

/-- Names that would leave the socket directory, or cut its paths short, are refused. -/
def validateConnectionName (name : Text) : Except ConnectionNameError Unit :=
  if name = [] then .error .empty
  else if '/' ∈ name ∨ '\x00' ∈ name ∨ ['.', '.'] <:+: name then .error (.invalid name)
  else .ok ()

/-- The path of a connection's socket. -/
def localSocketPath (socketDir : Bytes) (name : Text) : Bytes :=
  joinPath socketDir (utf8 (String.ofList ("connect-".toList ++ name ++ ".sock".toList)))

/-- Options of every tunnel. The last two keep forwarding of the user's own out of it. -/
def tunnelSshOpts : List String :=
  ["ServerAliveInterval=3", "ServerAliveCountMax=2", "StreamLocalBindUnlink=yes",
    "ExitOnForwardFailure=yes", "ForwardAgent=no", "ForwardX11=no"]

/-- Where programs are looked for on the other side. -/
def remotePathPrefix : String :=
  "$HOME/bin:$HOME/.local/bin:$HOME/.cargo/bin:$HOME/.nix-profile/bin:/usr/local/bin:/opt/homebrew/bin:/snap/bin:$PATH"

/-- An option of ssh by its long name. -/
def sshOption (option : Text) : List Text := ["-o".toList, option]

/-- What stands in front of the destination in every command line. -/
def baseSshArgs (dest : Destination) (extraSshOpts : List Text) (foreground : Bool)
    (connectTimeout : Nat) : List Text :=
  dest.portArgs ++ extraSshOpts.flatMap sshOption ++
    (if 0 < connectTimeout then
      sshOption ("ConnectTimeout=".toList ++ Nat.toDigits 10 connectTimeout)
    else []) ++
    if foreground then [] else sshOption "BatchMode=yes".toList

/-- The directories that the environment names, if it does. -/
structure RemoteEnv where
  grittyBinDir : Option Text
  grittySocketDir : Option Text

/-- A command on the other side, with the search path set in front of it. -/
def wrappedCommand (env : RemoteEnv) (remoteCmd : Text) : Text :=
  let path := match env.grittyBinDir with
    | some dir => "PATH=\"".toList ++ dir ++ ':' :: remotePathPrefix.toList ++ "\"".toList
    | none => "PATH=\"".toList ++ remotePathPrefix.toList ++ "\"".toList
  let sockets := match env.grittySocketDir with
    | some dir => "; export GRITTY_SOCKET_DIR=\"".toList ++ dir ++ "\"".toList
    | none => []
  path ++ sockets ++ "; ".toList ++ remoteCmd

/-- The arguments of ssh for running a command on the other side. -/
def remoteExecCommand (env : RemoteEnv) (dest : Destination) (remoteCmd : Text)
    (extraSshOpts : List Text) (foreground : Bool) (connectTimeout : Nat) : List Text :=
  baseSshArgs dest extraSshOpts foreground connectTimeout ++
    ["ServerAliveInterval=3", "ServerAliveCountMax=2"].flatMap (fun opt => sshOption opt.toList) ++
    [dest.sshDest, wrappedCommand env remoteCmd]

/-- The arguments of ssh for a tunnel between two sockets. -/
def tunnelCommand (dest : Destination) (localSock : Bytes) (remoteSock : Text)
    (extraSshOpts : List Text) (foreground isolateControlPath : Bool) (connectTimeout : Nat) :
    List Text :=
  baseSshArgs dest extraSshOpts foreground connectTimeout ++
    tunnelSshOpts.flatMap (fun opt => sshOption opt.toList) ++
    (if isolateControlPath then sshOption "ControlPath=none".toList else []) ++
    ["-T".toList, "-L".toList, lossyChars localSock ++ ':' :: remoteSock] ++
    (if isolateControlPath then ["-N".toList] else []) ++
    -- Without its own connection, a command that never ends keeps the forward.
    dest.sshDest :: if isolateControlPath then [] else ["exec sleep 2147483647".toList]

/-! ### Reading them -/

/-- Which letters of ssh take a value, as far as it matters here. -/
structure SshLetters where
  takesValue : Char → Bool
  port : takesValue 'p' = true
  option : takesValue 'o' = true
  localForward : takesValue 'L' = true
  noTerminal : takesValue 'T' = false
  noCommand : takesValue 'N' = false

/-- The arguments lead to the destination: it is no option, and the port goes with it. -/
structure Addresses (letters : SshLetters) (args : List Text) (dest : Destination) : Prop where
  operand : Operand dest.sshDest
  read : ∃ remote, readRemoteCommand letters.takesValue args = some remote ∧
    remote.destination = dest.sshDest ∧
      remote.values 'p' = dest.port.toList.map fun port => Nat.toDigits 10 port.toNat

/-- The arguments ask for one forward, between these two sockets. -/
def Forwards (letters : SshLetters) (args : List Text) (localSock remoteSock : Bytes) : Prop :=
  ∃ remote forward fields, readRemoteCommand letters.takesValue args = some remote ∧
    remote.values 'L' = [forward] ∧ escapedFields forward = some fields ∧
      fields.map (fun field => utf8 (String.ofList field)) = [localSock, remoteSock]

/-- An option with a value, as ssh is to read it. -/
def valued (letter : Char) (value : Text) : GivenOption := { letter, value := some value }

/-- The options in front of every destination. -/
def baseOptions (dest : Destination) (extraSshOpts : List Text) (foreground : Bool)
    (connectTimeout : Nat) : List GivenOption :=
  (dest.port.toList.map fun port => valued 'p' (Nat.toDigits 10 port.toNat)) ++
    extraSshOpts.map (valued 'o') ++
    (if 0 < connectTimeout then
      [valued 'o' ("ConnectTimeout=".toList ++ Nat.toDigits 10 connectTimeout)]
    else []) ++
    if foreground then [] else [valued 'o' "BatchMode=yes".toList]

theorem flatMap_sshOption (options : List Text) :
    options.flatMap sshOption = (options.map (valued 'o')).flatMap GivenOption.args := by
  rw [List.flatMap_map]
  rfl

/-- The arguments that every command begins with are options, given one after another. -/
theorem baseSshArgs_eq (dest : Destination) (extraSshOpts : List Text) (foreground : Bool)
    (connectTimeout : Nat) :
    baseSshArgs dest extraSshOpts foreground connectTimeout =
      (baseOptions dest extraSshOpts foreground connectTimeout).flatMap GivenOption.args := by
  have port : dest.portArgs = (dest.port.toList.map fun port =>
      valued 'p' (Nat.toDigits 10 port.toNat)).flatMap GivenOption.args := by
    -- Without a port there is no option, and with one it is the only one.
    unfold Destination.portArgs
    cases dest.port <;> rfl
  rw [baseSshArgs, baseOptions, List.flatMap_append, List.flatMap_append, List.flatMap_append,
    ← port, ← flatMap_sshOption]
  split_ifs <;> rfl

theorem valued_fits {takesValue : Char → Bool} {letter : Char} (takes : takesValue letter = true)
    (notDash : letter ≠ '-') (value : Text) : (valued letter value).Fits takesValue :=
  ⟨takes.symm, notDash⟩

variable (letters : SshLetters)

/-- The options that every command begins with are all ones that ssh takes. -/
theorem baseOptions_fit {dest : Destination} {extraSshOpts : List Text} {foreground : Bool}
    {connectTimeout : Nat} :
    ∀ option ∈ baseOptions dest extraSshOpts foreground connectTimeout,
      option.Fits letters.takesValue := by
  -- Every long name goes through the one letter that takes such values.
  have long := fun value => valued_fits letters.option (by decide) value
  intro option among
  rw [baseOptions, List.mem_append, List.mem_append, List.mem_append] at among
  -- There are four groups of options, and each is made in one way.
  rcases among with ((port | extra) | timeout) | batch
  · obtain ⟨number, -, rfl⟩ := List.mem_map.mp port
    exact valued_fits letters.port (by decide) _
  · obtain ⟨value, -, rfl⟩ := List.mem_map.mp extra
    exact long value
  · split_ifs at timeout
    · rw [List.mem_singleton.mp timeout]
      exact long _
    · exact absurd timeout List.not_mem_nil
  · split_ifs at batch
    · exact absurd batch List.not_mem_nil
    · rw [List.mem_singleton.mp batch]
      exact long _

/-- The options of a tunnel behind those of every command line. -/
def tunnelOptions (isolateControlPath : Bool) (forward : Text) : List GivenOption :=
  tunnelSshOpts.map (fun opt => valued 'o' opt.toList) ++
    (if isolateControlPath then [valued 'o' "ControlPath=none".toList] else []) ++
    [{ letter := 'T', value := none }, valued 'L' forward] ++
    if isolateControlPath then [{ letter := 'N', value := none }] else []

/-- The options of a tunnel are all ones that ssh takes. -/
theorem tunnelOptions_fit (isolateControlPath : Bool) (forward : Text) :
    ∀ option ∈ tunnelOptions isolateControlPath forward, option.Fits letters.takesValue := by
  have long := fun value => valued_fits letters.option (by decide) value
  intro option among
  rw [tunnelOptions, List.mem_append, List.mem_append, List.mem_append] at among
  rcases among with ((fixed | isolated) | forwarding) | alone
  · obtain ⟨value, -, rfl⟩ := List.mem_map.mp fixed
    exact long _
  · split_ifs at isolated
    · rw [List.mem_singleton.mp isolated]
      exact long _
    · exact absurd isolated List.not_mem_nil
  · rcases List.mem_cons.mp forwarding with rfl | last
    · exact ⟨letters.noTerminal.symm, by decide⟩
    · rw [List.mem_singleton.mp last]
      exact valued_fits letters.localForward (by decide) _
  · split_ifs at alone
    · rw [List.mem_singleton.mp alone]
      exact ⟨letters.noCommand.symm, by decide⟩
    · exact absurd alone List.not_mem_nil

/-- The arguments of a tunnel are its options, its destination and maybe a command. -/
theorem tunnelCommand_eq (dest : Destination) (localSock : Bytes) (remoteSock : Text)
    (extraSshOpts : List Text) (foreground isolateControlPath : Bool) (connectTimeout : Nat) :
    tunnelCommand dest localSock remoteSock extraSshOpts foreground isolateControlPath
        connectTimeout =
      (baseOptions dest extraSshOpts foreground connectTimeout ++
        tunnelOptions isolateControlPath (lossyChars localSock ++ ':' :: remoteSock)).flatMap
          GivenOption.args ++
      dest.sshDest :: if isolateControlPath then [] else ["exec sleep 2147483647".toList] := by
  -- The tunnel's options are written one after the other, and a list of them reads the same.
  rw [tunnelCommand, baseSshArgs_eq, List.flatMap_append]
  cases isolateControlPath
  all_goals
    simp only [tunnelOptions, tunnelSshOpts, List.flatMap_append, List.append_assoc]
    rfl

/-- What ssh makes of a tunnel's command. -/
theorem read_tunnelCommand {dest : Destination} (operand : Operand dest.sshDest)
    (localSock : Bytes) (remoteSock : Text) (extraSshOpts : List Text)
    (foreground isolateControlPath : Bool) (connectTimeout : Nat) :
    readRemoteCommand letters.takesValue (tunnelCommand dest localSock remoteSock extraSshOpts
        foreground isolateControlPath connectTimeout) =
      some {
        options := baseOptions dest extraSshOpts foreground connectTimeout ++
          tunnelOptions isolateControlPath (lossyChars localSock ++ ':' :: remoteSock)
        destination := dest.sshDest
        command := if isolateControlPath then [] else ["exec sleep 2147483647".toList] } := by
  rw [tunnelCommand_eq]
  -- Each option is one that ssh reads as it is meant, and the command starts with no dash.
  refine readRemoteCommand_flatMap (fun option among => ?_) operand ?_
  · rcases List.mem_append.mp among with base | own
    · exact baseOptions_fit letters option base
    · exact tunnelOptions_fit letters _ _ option own
  · cases isolateControlPath
    · intro arg among
      cases among
      unfold Operand
      decide
    -- With a control path of its own, the tunnel runs no command at all.
    · exact fun _ none_ => nomatch none_

/-- The options of a command behind those of every command line. -/
def remoteExecOptions : List GivenOption :=
  ["ServerAliveInterval=3", "ServerAliveCountMax=2"].map fun opt => valued 'o' opt.toList

theorem head?_wrappedCommand (env : RemoteEnv) (remoteCmd : Text) :
    (wrappedCommand env remoteCmd).head? = some 'P' := by
  -- The command is a shell line that starts with an assignment, whatever it is told to set.
  obtain ⟨bin, sockets⟩ := env
  cases bin <;> cases sockets <;> rfl

/-- What ssh makes of a command that is run on the remote. -/
theorem read_remoteExecCommand (env : RemoteEnv) {dest : Destination}
    (operand : Operand dest.sshDest) (remoteCmd : Text) (extraSshOpts : List Text)
    (foreground : Bool) (connectTimeout : Nat) :
    readRemoteCommand letters.takesValue (remoteExecCommand env dest remoteCmd extraSshOpts
        foreground connectTimeout) =
      some {
        options := baseOptions dest extraSshOpts foreground connectTimeout ++ remoteExecOptions
        destination := dest.sshDest
        command := [wrappedCommand env remoteCmd] } := by
  have shape : remoteExecCommand env dest remoteCmd extraSshOpts foreground connectTimeout =
      (baseOptions dest extraSshOpts foreground connectTimeout ++ remoteExecOptions).flatMap
        GivenOption.args ++ [dest.sshDest, wrappedCommand env remoteCmd] := by
    rw [remoteExecCommand, baseSshArgs_eq, List.flatMap_append]
    rfl
  -- What ssh reads from such a list is settled by what its options are.
  rw [shape]
  refine readRemoteCommand_flatMap (fun option among => ?_) operand ?_
  · rcases List.mem_append.mp among with base | own
    · exact baseOptions_fit letters option base
    · obtain ⟨value, -, rfl⟩ := List.mem_map.mp own
      exact valued_fits letters.option (by decide) _
  · intro arg among
    -- The command is one argument, and its first character is the letter of the assignment.
    rw [← Option.some.inj among, Operand, head?_wrappedCommand]
    decide

/-! ### What is said about the port and the forward -/

/-- The value of an option, if it has this letter. -/
def GivenOption.valueFor (letter : Char) (option : GivenOption) : Option Text :=
  if option.letter = letter then option.value else none

/-- Among the options in front of a destination, the port is the only one without a long name. -/
theorem filterMap_baseOptions (dest : Destination) (extraSshOpts : List Text) (foreground : Bool)
    (connectTimeout : Nat) {letter : Char} (other : letter ≠ 'o') :
    (baseOptions dest extraSshOpts foreground connectTimeout).filterMap
        (GivenOption.valueFor letter) =
      if letter = 'p' then dest.port.toList.map fun port => Nat.toDigits 10 port.toNat else [] := by
  -- The long options all have one letter, and it is another one.
  have long : ∀ value, (valued 'o' value).valueFor letter = none := fun value =>
    if_neg (Ne.symm other)
  have extra : (extraSshOpts.map (valued 'o')).filterMap (GivenOption.valueFor letter) = [] := by
    rw [List.filterMap_map, List.filterMap_eq_nil_iff]
    exact fun value _ => long value
  have timeout : (if 0 < connectTimeout then
      [valued 'o' ("ConnectTimeout=".toList ++ Nat.toDigits 10 connectTimeout)]
      else []).filterMap (GivenOption.valueFor letter) = [] := by
    split_ifs
    · rw [List.filterMap_cons_none (long _), List.filterMap_nil]
    · rfl
  have batch : (if foreground = true then [] else [valued 'o' "BatchMode=yes".toList]).filterMap
      (GivenOption.valueFor letter) = [] := by
    split_ifs
    · rfl
    · rw [List.filterMap_cons_none (long _), List.filterMap_nil]
  rw [baseOptions, List.filterMap_append, List.filterMap_append, List.filterMap_append, extra,
    timeout, batch, List.append_nil, List.append_nil, List.append_nil]
  -- That leaves the port, which is there or not.
  cases dest.port with
  | none => rw [Option.toList_none, List.map_nil, List.filterMap_nil, List.map_nil, ite_self]
  | some port =>
    rw [Option.toList_some, List.map_cons, List.map_nil]
    split_ifs with named
    · rw [named]
      rfl
    · exact List.filterMap_cons_none (if_neg (Ne.symm named))

/-- The port that ssh is given for a remote command is the destination's. -/
theorem values_port_remoteExec (env : RemoteEnv) (dest : Destination) (remoteCmd : Text)
    (extraSshOpts : List Text) (foreground : Bool) (connectTimeout : Nat) :
    RemoteCommand.values {
        options := baseOptions dest extraSshOpts foreground connectTimeout ++ remoteExecOptions
        destination := dest.sshDest
        command := [wrappedCommand env remoteCmd] } 'p' =
      dest.port.toList.map fun port => Nat.toDigits 10 port.toNat := by
  show List.filterMap (GivenOption.valueFor 'p') _ = _
  rw [List.filterMap_append, filterMap_baseOptions _ _ _ _ (by decide), if_pos rfl]
  exact List.append_nil _

/-- What a tunnel's own options say: one forward, and no port. -/
theorem filterMap_tunnelOptions (isolateControlPath : Bool) (forward : Text) :
    (tunnelOptions isolateControlPath forward).filterMap (GivenOption.valueFor 'p') = [] ∧
      (tunnelOptions isolateControlPath forward).filterMap (GivenOption.valueFor 'L') =
        [forward] := by
  cases isolateControlPath <;> exact ⟨rfl, rfl⟩

/-- The port that ssh is given for a tunnel is the destination's. -/
theorem values_tunnel_port (dest : Destination) (forward : Text) (extraSshOpts : List Text)
    (foreground isolateControlPath : Bool) (connectTimeout : Nat) (command : List Text) :
    RemoteCommand.values {
        options := baseOptions dest extraSshOpts foreground connectTimeout ++
          tunnelOptions isolateControlPath forward
        destination := dest.sshDest
        command } 'p' = dest.port.toList.map fun port => Nat.toDigits 10 port.toNat := by
  show List.filterMap (GivenOption.valueFor 'p') _ = _
  rw [List.filterMap_append, filterMap_baseOptions _ _ _ _ (by decide), if_pos rfl,
    (filterMap_tunnelOptions isolateControlPath forward).1, List.append_nil]

/-- The one forward that ssh is given for a tunnel is the one that was asked for. -/
theorem values_tunnel_forward (dest : Destination) (forward : Text) (extraSshOpts : List Text)
    (foreground isolateControlPath : Bool) (connectTimeout : Nat) (command : List Text) :
    RemoteCommand.values {
        options := baseOptions dest extraSshOpts foreground connectTimeout ++
          tunnelOptions isolateControlPath forward
        destination := dest.sshDest
        command } 'L' = [forward] := by
  show List.filterMap (GivenOption.valueFor 'L') _ = _
  rw [List.filterMap_append, filterMap_baseOptions _ _ _ _ (by decide), if_neg (by decide),
    (filterMap_tunnelOptions isolateControlPath forward).2, List.nil_append]

/-! ### What the socket's path reads as -/

/-- The bytes are the encoding of a text. -/
def IsUtf8 (bytes : Bytes) : Prop := ∃ text : Text, utf8 (String.ofList text) = bytes

theorem lossyChars_utf8 (text : Text) : lossyChars (utf8 (String.ofList text)) = text := by
  rw [utf8_eq, String.toList_ofList, lossyChars_flatMap]

theorem isUtf8_iff {bytes : Bytes} :
    IsUtf8 bytes ↔ utf8 (String.ofList (lossyChars bytes)) = bytes := by
  constructor
  -- What is the encoding of a text is read back as that text.
  · rintro ⟨text, rfl⟩
    rw [lossyChars_utf8]
  · exact fun same => ⟨lossyChars bytes, same⟩

theorem utf8_append (first second : Text) : utf8 (String.ofList (first ++ second)) =
    utf8 (String.ofList first) ++ utf8 (String.ofList second) := by
  rw [utf8_eq, utf8_eq, utf8_eq, String.toList_ofList, String.toList_ofList,
    String.toList_ofList, List.flatMap_append]

/-- A separator cuts the encoding of a text where it cuts the text. -/
theorem isUtf8_append_slash (front : Bytes) (back : Text) :
    IsUtf8 (front ++ slash :: utf8 (String.ofList back)) ↔ IsUtf8 front := by
  constructor
  · intro whole
    rw [isUtf8_iff] at whole ⊢
    -- The separator is one byte that no other character's encoding has in it.
    rw [lossyChars_append_ascii _ _ (by decide), lossyChars_utf8, utf8_append] at whole
    have rest : utf8 (String.ofList (Char.ofNat slash.toNat :: back)) =
        slash :: utf8 (String.ofList back) := utf8_append ['/'] back
    rw [rest] at whole
    exact List.append_cancel_right whole
  · rintro ⟨text, rfl⟩
    exact ⟨text ++ '/' :: back, utf8_append text ('/' :: back) |>.trans
      (congrArg _ (utf8_append ['/'] back))⟩

/-- The name of a connection's socket. -/
def socketName (name : Text) : Text := "connect-".toList ++ name ++ ".sock".toList

/-- The path of a connection's socket, cut at the separator in front of its name. -/
theorem localSocketPath_eq {socketDir : Bytes} (absolute : socketDir.head? = some slash)
    (name : Text) : ∃ front, localSocketPath socketDir name =
        front ++ slash :: utf8 (String.ofList (socketName name)) ∧
      (socketDir = front ∨ socketDir = front ++ [slash]) := by
  -- An absolute path is not empty, so the name is joined on to it.
  have some_ : socketDir ≠ [] := by
    rintro rfl
    cases absolute
  rw [localSocketPath, joinPath, if_neg some_]
  split_ifs with ends
  · -- The directory is written with a separator at its end.
    obtain ⟨front, rfl⟩ := List.getLast?_eq_some_iff.mp ends
    exact ⟨front, by rw [List.append_assoc, List.singleton_append]; rfl, Or.inr rfl⟩
  · exact ⟨socketDir, rfl, Or.inl rfl⟩

/-- The path of the local socket is a text exactly if the directory's is. -/
theorem isUtf8_localSocketPath {socketDir : Bytes} (absolute : socketDir.head? = some slash)
    (name : Text) : IsUtf8 (localSocketPath socketDir name) ↔ IsUtf8 socketDir := by
  obtain ⟨front, shape, dir⟩ := localSocketPath_eq absolute name
  rw [shape, isUtf8_append_slash]
  -- A separator at the end of the directory makes no difference to what its bytes encode.
  rcases dir with rfl | rfl
  · rfl
  · exact (isUtf8_append_slash front []).symm

/-- Nothing but the name can put an ASCII character into the path that is not in the directory. -/
theorem mem_localSocketPath {socketDir : Bytes} {byte : UInt8} (ascii : byte.toNat < 0x80)
    (notSlash : byte ≠ slash) (plain : byte ∉ socketDir) {name : Text} :
    Char.ofNat byte.toNat ∈ lossyChars (localSocketPath socketDir name) →
      Char.ofNat byte.toNat ∈ socketName name := by
  intro among
  -- An ASCII character of what is shown is a byte of the path.
  have back : byte ∈ localSocketPath socketDir name :=
    mem_of_mem_toStringLossy ascii (by rwa [toStringLossy, String.toList_ofList])
  have inside : byte ∈ utf8 (String.ofList (socketName name)) := by
    unfold localSocketPath joinPath at back
    -- The byte is in the directory, is a separator, or is in the name.
    split_ifs at back
    · exact back
    · exact (List.mem_append.mp back).resolve_left plain
    · exact ((List.mem_cons.mp ((List.mem_append.mp back).resolve_left plain)).resolve_left notSlash)
  have there := mem_of_mem_utf8 ascii inside
  rwa [String.toList_ofList] at there

/-- The two sockets are the two fields exactly if the name and the directory can be written down. -/
theorem fields_iff {socketDir : Bytes} (absolute : socketDir.head? = some slash)
    (plainDir : 0x3A ∉ socketDir ∧ 0x5C ∉ socketDir) {remoteSock : Text}
    (plainRemote : ':' ∉ remoteSock ∧ '\\' ∉ remoteSock) (name : Text) :
    (∃ fields, escapedFields (lossyChars (localSocketPath socketDir name) ++ ':' :: remoteSock) =
        some fields ∧ fields.map (fun field => utf8 (String.ofList field)) =
          [localSocketPath socketDir name, utf8 (String.ofList remoteSock)]) ↔
      ':' ∉ name ∧ '\\' ∉ name ∧ IsUtf8 socketDir := by
  have utf8Path := isUtf8_localSocketPath absolute name
  constructor
  -- The fields are what the path and the remote socket were written as.
  · rintro ⟨fields, read, shown⟩
    have two : fields.length = 2 := by
      rw [← List.length_map (fun field => utf8 (String.ofList field)), shown]
      rfl
    obtain ⟨first, second, rfl⟩ := List.length_eq_two.mp two
    simp only [List.map_cons, List.map_nil, List.cons.injEq, and_true] at shown
    obtain ⟨path, remote⟩ := shown
    have same : second = remoteSock := by
      have texts := congrArg String.toList (utf8_injective remote)
      rwa [String.toList_ofList, String.toList_ofList] at texts
    -- The path is the encoding of what is shown of it, so no byte of it was replaced.
    have text : lossyChars (localSocketPath socketDir name) = first := by
      rw [← path, lossyChars_utf8]
    rw [same, text] at read
    obtain ⟨⟨noColon, noEscape⟩, -⟩ := escapedFields_pair.mp read
    -- Whatever is in the name is in the first field too, which lets no colon or backslash through.
    have inside : ∀ char ∈ name, char ∈ first := by
      intro char among
      obtain ⟨front, shape, -⟩ := localSocketPath_eq absolute name
      rw [← text, shape, lossyChars_append_ascii _ _ (by decide), lossyChars_utf8]
      refine List.mem_append_right _ (List.mem_cons_of_mem _ ?_)
      exact List.mem_append_left _ (List.mem_append_right _ among)
    exact ⟨fun among => noColon (inside _ among), fun among => noEscape (inside _ among),
      utf8Path.mp ⟨first, path⟩⟩
  · rintro ⟨noColon, noEscape, utf8Dir⟩
    -- The fixed parts of the socket's name have neither a colon nor a backslash.
    have named : ∀ char, char ∉ "connect-".toList → char ∉ ".sock".toList → char ∉ name →
        char ∉ socketName name := by
      intro char front back between among
      rcases List.mem_append.mp among with before | after
      · exact (List.mem_append.mp before).elim front between
      · exact back after
    -- Each field is shown as it is, as nothing in it is cut or escaped.
    refine ⟨[lossyChars (localSocketPath socketDir name), remoteSock],
      escapedFields_pair.mpr ⟨⟨?_, ?_⟩, plainRemote⟩, ?_⟩
    · intro among
      exact named ':' (by decide) (by decide) noColon
        (mem_localSocketPath (by decide) (by decide) plainDir.1 among)
    · intro among
      exact named '\\' (by decide) (by decide) noEscape
        (mem_localSocketPath (by decide) (by decide) plainDir.2 among)
    · simp only [List.map_cons, List.map_nil, isUtf8_iff.mp (utf8Path.mpr utf8Dir)]

/-! ### The command lines mean what they say -/

/-- What ssh is asked to do for a connection, on its command lines. -/
structure Intended (letters : SshLetters) (env : RemoteEnv) (dest : Destination)
    (socketDir : Bytes) (name remoteSock remoteCmd : Text) (extraSshOpts : List Text)
    (foreground isolateControlPath : Bool) (connectTimeout : Nat) : Prop where
  tunnel : Addresses letters (tunnelCommand dest (localSocketPath socketDir name) remoteSock
    extraSshOpts foreground isolateControlPath connectTimeout) dest
  remoteExec : Addresses letters
    (remoteExecCommand env dest remoteCmd extraSshOpts foreground connectTimeout) dest
  forward : Forwards letters (tunnelCommand dest (localSocketPath socketDir name) remoteSock
      extraSshOpts foreground isolateControlPath connectTimeout)
    (localSocketPath socketDir name) (utf8 (String.ofList remoteSock))

/-- For a destination that was accepted, the commands do what is intended exactly if no dash stands in
brackets and the names and directories can be written in a forward. -/
theorem intended_iff_of_parsed (letters : SshLetters) (env : RemoteEnv) {text : Text}
    {dest : Destination} (parsed : Destination.Parsed text dest) (name : Text) {socketDir : Bytes}
    (absolute : socketDir.head? = some slash) (plainDir : 0x3A ∉ socketDir ∧ 0x5C ∉ socketDir)
    {remoteSock : Text} (plainRemote : ':' ∉ remoteSock ∧ '\\' ∉ remoteSock) (remoteCmd : Text)
    (extraSshOpts : List Text) (foreground isolateControlPath : Bool) (connectTimeout : Nat) :
    Intended letters env dest socketDir name remoteSock remoteCmd extraSshOpts foreground
        isolateControlPath connectTimeout ↔
      ¬ DashInBrackets text ∧ ':' ∉ name ∧ '\\' ∉ name ∧ IsUtf8 socketDir := by
  have fields := fields_iff absolute plainDir plainRemote name
  constructor
  · rintro ⟨tunnel, -, forward⟩
    refine ⟨parsed.operand_iff.mp tunnel.operand, fields.mp ?_⟩
    obtain ⟨remote, forwarded, read, line, asked, split, shown⟩ := forward
    -- The forward that ssh reads is the one that was written.
    rw [read_tunnelCommand letters tunnel.operand, Option.some.injEq] at line
    rw [← line, values_tunnel_forward, List.cons.injEq] at asked
    exact ⟨read, by rw [asked.1]; exact split, shown⟩
  · rintro ⟨visible, plainName⟩
    -- A host that does not look like an option is read as the destination.
    have operand := parsed.operand_iff.mpr visible
    obtain ⟨read, split, shown⟩ := fields.mpr plainName
    have line := read_tunnelCommand letters operand (localSocketPath socketDir name) remoteSock
      extraSshOpts foreground isolateControlPath connectTimeout
    constructor
    · exact ⟨operand, _, line, rfl, values_tunnel_port ..⟩
    · exact ⟨operand, _, read_remoteExecCommand letters env operand _ _ _ _, rfl,
        values_port_remoteExec ..⟩
    · exact ⟨_, _, read, line, values_tunnel_forward .., split, shown⟩

/--
The destination is taken apart as it is spelled.

The command lines lead there, with the port and with the two sockets, exactly if no brackets hide a dash in front of the host, the connection name has neither a colon nor a backslash in it, and the socket directory is a text.
-/
theorem intended_iff (letters : SshLetters) (env : RemoteEnv) {text : Text} {dest : Destination}
    (accepted : Destination.parse text = .ok dest) (name : Text) {socketDir : Bytes}
    (absolute : socketDir.head? = some slash) (plainDir : 0x3A ∉ socketDir ∧ 0x5C ∉ socketDir)
    {remoteSock : Text} (plainRemote : ':' ∉ remoteSock ∧ '\\' ∉ remoteSock) (remoteCmd : Text)
    (extraSshOpts : List Text) (foreground isolateControlPath : Bool) (connectTimeout : Nat) :
    Spells text dest ∧
      (Intended letters env dest socketDir name remoteSock remoteCmd extraSshOpts foreground
          isolateControlPath connectTimeout ↔
        ¬ DashInBrackets text ∧ ':' ∉ name ∧ '\\' ∉ name ∧ IsUtf8 socketDir) := by
  have parsed := Destination.parsed_of_parse accepted
  exact ⟨parsed.spells, intended_iff_of_parsed letters env parsed name absolute plainDir plainRemote
    remoteCmd extraSshOpts foreground isolateControlPath connectTimeout⟩

/-- The letters of OpenSSH that take a value. -/
def openSshLetters : SshLetters where
  takesValue letter := letter ∈ "BbcDEeFIiJLlmOoPpQRSWw".toList
  port := rfl
  option := rfl
  localForward := rfl
  noTerminal := rfl
  noCommand := rfl

/-- An address in brackets with a user and a port, and a name of its own for the connection. -/
theorem intended_iff_bracketed :
    Intended openSshLetters ⟨none, none⟩ ⟨some "user".toList, "::1".toList, some 22⟩
      (utf8 "/run/gritty") "box".toList "/tmp/ctl.sock".toList "gritty socket-path".toList
      ["ProxyJump=a".toList] false true 30 := by
  -- The brackets keep the colons of the address apart from the one in front of the port.
  have accepted : Destination.parse "user@[::1]:22".toList =
      .ok ⟨some "user".toList, "::1".toList, some 22⟩ := by rfl
  have visible : ¬ DashInBrackets "user@[::1]:22".toList :=
    fun hidden => absurd hidden.2 (by decide)
  exact (intended_iff openSshLetters ⟨none, none⟩ accepted "box".toList (by decide) (by decide)
    (by decide) "gritty socket-path".toList ["ProxyJump=a".toList] false true 30).2.mpr
      ⟨visible, by decide, by decide, "/run/gritty".toList, rfl⟩

/-- A host in brackets can be an option of ssh, and an address as a name breaks the forward. -/
theorem commandLines_misread :
    (Destination.parse "[-oProxyCommand=sh]".toList = .ok ⟨none, "-oProxyCommand=sh".toList, none⟩ ∧
      validateConnectionName "box".toList = .ok () ∧
        ¬ Intended openSshLetters ⟨none, none⟩ ⟨none, "-oProxyCommand=sh".toList, none⟩
          (utf8 "/run/gritty") "box".toList "/tmp/ctl.sock".toList "gritty socket-path".toList []
          false true 30) ∧
      Destination.parse "::1".toList = .ok ⟨none, "::1".toList, none⟩ ∧
        validateConnectionName "::1".toList = .ok () ∧
          ¬ Intended openSshLetters ⟨none, none⟩ ⟨none, "::1".toList, none⟩
            (utf8 "/run/gritty") "::1".toList "/tmp/ctl.sock".toList "gritty socket-path".toList []
            false true 30 := by
  constructor
  · have accepted : Destination.parse "[-oProxyCommand=sh]".toList =
        .ok ⟨none, "-oProxyCommand=sh".toList, none⟩ := by rfl
    refine ⟨accepted, by rfl, fun intended => ?_⟩
    -- The brackets are dropped, and what was in them goes to ssh as it is.
    have conditions := (intended_iff_of_parsed openSshLetters _
      (Destination.parsed_of_parse accepted) _ (by decide) (by decide) (by decide) _ _ _ _ _).mp
        intended
    exact conditions.1 ⟨by decide, by decide⟩
  · have accepted : Destination.parse "::1".toList = .ok ⟨none, "::1".toList, none⟩ := by rfl
    refine ⟨accepted, by rfl, fun intended => ?_⟩
    -- The name of the connection is the address, with its colons.
    have conditions := (intended_iff_of_parsed openSshLetters _
      (Destination.parsed_of_parse accepted) _ (by decide) (by decide) (by decide) _ _ _ _ _).mp
        intended
    exact conditions.2.1 (by decide)

end Gritty
