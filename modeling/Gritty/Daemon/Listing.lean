import Gritty.Daemon.Naming
import Gritty.Protocol.Faithful

/-! The listing of the sessions, and when those who ask for it can read the answer. -/

namespace Gritty

/-- A listing that fits in a frame, and that a client decodes to what was listed. -/
def Readable (entries : List SessionEntry) : Prop :=
  (Frame.sessionInfo entries).payload.length ≤ maxFrameSize ∧
    FrameCodec.decode (encodeFrame (.sessionInfo entries)) =
      (.ok (some (.sessionInfo entries)), [])

/-- What a listing says of a session in words. -/
def SessionState.listedTexts (session : SessionState) (processes : UInt32 → String × String) :
    List String :=
  match session.metadata with
  | some metadata =>
    [session.name.getD "", metadata.ptyPath, (processes metadata.shellPid).1,
      (processes metadata.shellPid).2, metadata.clientName]
  | none => [session.name.getD "", "", "-", "", ""]

/-- How many bytes a session takes in a listing: those of its texts, and 57 for everything else. -/
def SessionState.listedLen (session : SessionState) (processes : UInt32 → String × String) : Nat :=
  57 + ((session.listedTexts processes).map fun text => (utf8 text).length).sum

/-- Every text of the sessions fits a 16-bit length, and all of them together fit in a frame. -/
structure Sessions.TextsFit (sessions : Sessions) (processes : UInt32 → String × String) :
    Prop where
  each : ∀ id session, sessions.lookup id = some session →
    ∀ text ∈ session.listedTexts processes, (utf8 text).length ≤ 65535
  together : 4 + (sessions.entries.map fun entry => entry.2.listedLen processes).sum ≤ maxFrameSize

/-- A daemon, beside the listings that it sent. -/
structure ListingDaemon where
  daemon : Daemon
  listings : List (List SessionEntry)

/-- The sessions that a frame lists. -/
def Frame.listing : Frame → Option (List SessionEntry)
  | .sessionInfo entries => some entries
  | _ => none

/-- The listings that are sent in answer to what happens. -/
def ListingDaemon.answers (state : ListingDaemon) : DaemonAction → List (List SessionEntry)
  | .control conn frame => (state.daemon.control conn frame).sent.filterMap Frame.listing
  | _ => []

/-- A daemon from its start, which has listed nothing. -/
def listingDaemon : Machine ListingDaemon DaemonAction where
  init := { daemon := .new, listings := [] }
  step state action := (state.daemon.step action).map fun next =>
    { daemon := next, listings := state.listings ++ state.answers action }

namespace ListingDaemon

/-- Every listing that was sent can be read. -/
def AllReadable (state : ListingDaemon) : Prop := ∀ entries ∈ state.listings, Readable entries

/-- If a listing is asked for and answered, the sessions have texts that fit. -/
def ListedTextsFit (state : ListingDaemon) (action : DaemonAction) : Prop :=
  ∀ conn, action = .control conn .listSessions → conn.clientVersion = protocolVersion →
    state.daemon.stopped = false → state.daemon.sessions.reapSessions.TextsFit conn.processes

end ListingDaemon

/-! ### The length of a listing -/

namespace Sessions

variable {processes : UInt32 → String × String} {lastAttached : Option UInt32}

/-- The strings of an entry are the texts of the session it lists. -/
theorem entryFits_sessionEntry {id : UInt32} {session : SessionState} :
    EntryFits (sessionEntry processes lastAttached id session) ↔
      ∀ text ∈ session.listedTexts processes, (utf8 text).length ≤ 65535 := by
  unfold EntryFits sessionEntry SessionState.listedTexts
  cases session.metadata with
  | some metadata => simp [fitsU16_iff]
  | none => simp [fitsU16_iff]

/-- An entry takes as many bytes as its session is said to take. -/
theorem encodeSessionEntry_sessionEntry {id : UInt32} {session : SessionState} :
    (encodeSessionEntry (sessionEntry processes lastAttached id session)).length =
      session.listedLen processes := by
  rw [encodeSessionEntry_length]
  unfold entryEncodedLen sessionEntry SessionState.listedLen SessionState.listedTexts
  cases session.metadata with
  | some metadata =>
    simp only [List.map_cons, List.map_nil, List.sum_cons, List.sum_nil]
    omega
  | none =>
    simp only [List.map_cons, List.map_nil, List.sum_cons, List.sum_nil]
    omega

/-- The entries of a listing are those of the sessions, in some order. -/
theorem buildSessionEntries_perm (sessions : Sessions) :
    (sessions.buildSessionEntries processes lastAttached).Perm
      (sessions.entries.map fun entry => sessionEntry processes lastAttached entry.1 entry.2) :=
  List.mergeSort_perm ..

/-- A listing is as long as its sessions make it, whatever their order. -/
theorem payload_buildSessionEntries (sessions : Sessions) :
    (Frame.sessionInfo (sessions.buildSessionEntries processes lastAttached)).payload.length =
      4 + (sessions.entries.map fun entry => entry.2.listedLen processes).sum := by
  have perm : (sessions.buildSessionEntries processes lastAttached).Perm _ :=
    buildSessionEntries_perm sessions
  have sorted := perm.map fun entry => (encodeSessionEntry entry).length
  have lengths : sessions.entries.map ((fun entry => (encodeSessionEntry entry).length) ∘
      fun entry => sessionEntry processes lastAttached entry.1 entry.2) =
        sessions.entries.map fun entry => entry.2.listedLen processes :=
    List.map_congr_left fun entry _ => encodeSessionEntry_sessionEntry
  rw [Frame.payload, List.length_append, putU32_length, List.length_flatMap, sorted.sum_eq,
    List.map_map, lengths]

/-- The wire can carry a listing exactly when the strings of its entries fit, and all of it does. -/
theorem inRange_sessionInfo {entries : List SessionEntry} :
    (Frame.sessionInfo entries).InRange ↔ (∀ entry ∈ entries, EntryFits entry) ∧
      (Frame.sessionInfo entries).payload.length ≤ maxFrameSize := by
  have strings (entry : SessionEntry) : EntryFits entry ↔ ∀ text ∈ [entry.name, entry.ptyPath,
      entry.foregroundCmd, entry.cwd, entry.clientName], (utf8 text).length ≤ 65535 := by
    simp [EntryFits, fitsU16_iff]
  constructor
  · intro inRange
    refine ⟨fun entry member => (strings entry).mpr fun text part => ?_, inRange.size⟩
    exact inRange.strings text (List.mem_flatMap.mpr ⟨entry, member, part⟩)
  · rintro ⟨fits, size⟩
    refine ⟨fun text inside => ?_, size, fun number message other => absurd other (by simp)⟩
    obtain ⟨entry, member, part⟩ := List.mem_flatMap.mp inside
    exact (strings entry).mp (fits entry member) text part

/-- A listing can be read exactly when the texts of its sessions fit. -/
theorem readable_iff_textsFit (sessions : Sessions) :
    Readable (sessions.buildSessionEntries processes lastAttached) ↔
      sessions.TextsFit processes := by
  have listed (entry : SessionEntry) :
      entry ∈ sessions.buildSessionEntries processes lastAttached ↔
        ∃ id session, sessions.lookup id = some session ∧
          sessionEntry processes lastAttached id session = entry := by
    rw [(buildSessionEntries_perm sessions).mem_iff, List.mem_map]
    constructor
    · rintro ⟨⟨id, session⟩, member, same⟩
      exact ⟨id, session, mem_entries_iff.mp member, same⟩
    · rintro ⟨id, session, found, same⟩
      exact ⟨⟨id, session⟩, mem_entries_iff.mpr found, same⟩
  rw [Readable, ← inRange_iff_decode_encode, inRange_sessionInfo, payload_buildSessionEntries]
  constructor
  · rintro ⟨fits, size⟩
    refine ⟨fun id session found => ?_, size⟩
    exact entryFits_sessionEntry.mp (fits _ ((listed _).mpr ⟨id, session, found, rfl⟩))
  · rintro ⟨each, together⟩
    refine ⟨fun entry member => ?_, together⟩
    obtain ⟨id, session, found, rfl⟩ := (listed entry).mp member
    exact entryFits_sessionEntry.mpr (each id session found)

end Sessions

/-! ### Listings along a run -/

namespace Daemon

variable {daemon : Daemon} {conn : ControlConn}

/-- None of the answers is a listing. -/
def ListsNothing (out : Dispatched) : Prop := ∀ answer ∈ out.sent, answer.listing = none

theorem reply_listsNothing {answer : Frame} (other : answer.listing = none) :
    ListsNothing (daemon.reply answer) := by
  intro sent member
  rw [reply, List.mem_singleton] at member
  exact member ▸ other

/-- Serving a live session lists nothing if what serves it lists nothing. -/
theorem withSession_listsNothing {target : String}
    {serve : Daemon → UInt32 → SessionState → Dispatched}
    (served : ∀ daemon id state, ListsNothing (serve daemon id state)) :
    ListsNothing (daemon.withSession target serve) := by
  unfold withSession
  cases resolved : daemon.sessions.resolveLiveSession target daemon.lastAttached with
  | mk left result =>
    cases result with
    | error answer =>
      obtain ⟨-, rfl⟩ := Sessions.resolveLiveSession_error resolved
      exact reply_listsNothing rfl
    | ok live => exact served _ _ _

theorem handOver_listsNothing {id : UInt32} {client : ClientConn} :
    ListsNothing (daemon.handOver conn id client) := by
  unfold handOver
  split <;> exact reply_listsNothing rfl

/-- The error for a name is not a listing. -/
theorem validateSessionName_listing {sessions : Sessions} {name : String} {answer : Frame}
    (rejected : sessions.validateSessionName name = .error answer) : answer.listing = none := by
  unfold Sessions.validateSessionName at rejected
  -- Each check that fails has its own error.
  split_ifs at rejected <;> cases rejected <;> rfl

/-- Making a session lists nothing. -/
theorem newSession_listsNothing (name clientName : String) (lingerSecs : UInt64) :
    ListsNothing (daemon.newSession conn name clientName lingerSecs) := by
  unfold newSession
  cases validated : (if name = "" then none else some name).elim (.ok ())
      (fun given => Sessions.validateSessionName given daemon.sessions.reapSessions) with
  | error answer =>
    simp only [validated]
    refine reply_listsNothing ?_
    by_cases empty : name = ""
    · simp [empty] at validated
    · rw [if_neg empty] at validated
      exact validateSessionName_listing validated
  | ok valid =>
    simp only [validated]
    have created : ∀ answer ∈ [Frame.sessionCreated daemon.nextId,
        .attachAck conn.deviceId daemon.nextId], answer.listing = none := by simp [Frame.listing]
    split
    · exact fun answer member => created answer (List.mem_of_mem_take member)
    · exact created

/-- An attach lists nothing. -/
theorem attach_listsNothing (session clientName : String) (force noReplay : Bool)
    (cols rows : UInt16) (attachToken renderedOffset : UInt64) (lineDirty : Bool) :
    ListsNothing (daemon.attach conn session clientName force noReplay cols rows attachToken
      renderedOffset lineDirty) := by
  unfold attach
  cases resolved : daemon.sessions.resolveLiveSession session daemon.lastAttached with
  | mk left result =>
    cases result with
    | error answer =>
      obtain ⟨-, rfl⟩ := Sessions.resolveLiveSession_error resolved
      exact reply_listsNothing rfl
    | ok live =>
      simp only
      -- Whatever guard turns the connection away, the answer is an error or an acknowledgement.
      split_ifs
      · exact reply_listsNothing rfl
      · exact reply_listsNothing rfl
      · exact reply_listsNothing rfl
      · split <;> exact reply_listsNothing rfl
      · split <;> exact reply_listsNothing rfl

/-- A rename lists nothing. -/
theorem renameSession_listsNothing (session newName : String) :
    ListsNothing (daemon.renameSession session newName) := by
  refine withSession_listsNothing fun left id state => ?_
  split
  · exact reply_listsNothing rfl
  · split
    · next answer rejected => exact reply_listsNothing (validateSessionName_listing rejected)
    · exact reply_listsNothing rfl

theorem setLinger_listsNothing (session : String) (lingerSecs : UInt64) :
    ListsNothing (daemon.setLinger session lingerSecs) := by
  refine withSession_listsNothing fun left id state => ?_
  split <;> exact reply_listsNothing rfl

/-- Nothing but a request for a listing is answered with one. -/
theorem dispatchControl_listsNothing {frame : Frame} (other : frame ≠ .listSessions) :
    ListsNothing (daemon.dispatchControl conn frame) := by
  cases frame with
  | newSession name command cwd cols rows clientName lingerSecs =>
    exact newSession_listsNothing name clientName lingerSecs
  | attach session clientName force noReplay cols rows attachToken renderedOffset lineDirty =>
    exact attach_listsNothing session clientName force noReplay cols rows attachToken
      renderedOffset lineDirty
  | tail session => exact withSession_listsNothing fun _ _ _ => handOver_listsNothing
  | sendFile session => exact withSession_listsNothing fun _ _ _ => handOver_listsNothing
  | killSession session => exact withSession_listsNothing fun _ _ _ => reply_listsNothing rfl
  | renameSession session newName => exact renameSession_listsNothing session newName
  | setLinger session lingerSecs => exact setLinger_listsNothing session lingerSecs
  | listSessions => exact absurd rfl other
  | killServer =>
    have answered : ListsNothing (daemon.shutdown.reply .ok) := reply_listsNothing rfl
    exact answered
  | _ => exact reply_listsNothing rfl

/-- A request for a listing is answered with one, and no other frame is. -/
theorem control_listings (daemon : Daemon) (conn : ControlConn) (frame : Frame) :
    (daemon.control conn frame).sent.filterMap Frame.listing =
      if frame = .listSessions ∧ conn.clientVersion = protocolVersion then
        [daemon.sessions.reapSessions.buildSessionEntries conn.processes daemon.lastAttached]
      else [] := by
  have none_ {out : Dispatched} (nothing : ListsNothing out) :
      out.sent.filterMap Frame.listing = [] :=
    List.filterMap_eq_nil_iff.mpr nothing
  unfold control
  by_cases listing : frame = .listSessions
  · subst listing
    by_cases version : conn.clientVersion = protocolVersion
    · rw [if_neg (by simp [version]), if_pos ⟨rfl, version⟩]
      rfl
    · rw [if_pos ⟨version, by simp⟩, if_neg (fun both => version both.2)]
      exact none_ (reply_listsNothing rfl)
  · have unasked : ¬ (frame = .listSessions ∧ conn.clientVersion = protocolVersion) :=
      fun both => listing both.1
    rw [if_neg unasked]
    split
    · exact none_ (reply_listsNothing rfl)
    · exact none_ (dispatchControl_listsNothing listing)

end Daemon

/-- In every run, all listings that were sent can be read if and only if, whenever one was asked
for, the texts of the sessions fit. -/
theorem allReadable_along_iff (actions : List DaemonAction) :
    listingDaemon.Along ListingDaemon.AllReadable listingDaemon.init actions ↔
      listingDaemon.Meets ListingDaemon.ListedTextsFit listingDaemon.init actions := by
  -- The only listing that a step adds is the one that it was asked for.
  have preserved : ∀ (state : ListingDaemon) action next, state.AllReadable →
      state.ListedTextsFit action → listingDaemon.step state action = some next →
        next.AllReadable := by
    intro state action next readable fit stepped entries member
    obtain ⟨daemon, went, rfl⟩ := Option.map_eq_some_iff.mp stepped
    rcases List.mem_append.mp member with before | new
    · exact readable entries before
    · cases action with
      | control conn frame =>
        rw [ListingDaemon.answers, Daemon.control_listings] at new
        split at new
        · next asked =>
          obtain ⟨rfl, version⟩ := asked
          obtain rfl := List.mem_singleton.mp new
          have running : state.daemon.stopped = false := by
            by_contra stopped
            rw [Bool.not_eq_false] at stopped
            rw [Daemon.step, if_pos stopped] at went
            simp at went
          exact (Sessions.readable_iff_textsFit _).mpr (fit conn rfl version running)
        · simp at new
      | _ => exact absurd new (by simp [ListingDaemon.answers])
  have broken : ∀ (state : ListingDaemon) action, state.AllReadable →
      ¬ state.ListedTextsFit action → ∃ next, listingDaemon.step state action = some next ∧
        ¬ next.AllReadable := by
    intro state action readable unfit
    simp only [ListingDaemon.ListedTextsFit, not_forall] at unfit
    obtain ⟨conn, rfl, version, running, unfit⟩ := unfit
    have went : state.daemon.step (.control conn .listSessions) =
        some (state.daemon.control conn .listSessions).daemon := by
      simp [Daemon.step, running]
    refine ⟨_, by simp only [listingDaemon, went, Option.map_some]; rfl, fun all => unfit ?_⟩
    have answered : state.daemon.sessions.reapSessions.buildSessionEntries conn.processes
        state.daemon.lastAttached ∈ state.answers (.control conn .listSessions) := by
      rw [ListingDaemon.answers, Daemon.control_listings, if_pos ⟨rfl, version⟩]
      exact List.mem_singleton_self _
    exact (Sessions.readable_iff_textsFit _).mp (all _ (List.mem_append_right _ answered))
  have start : listingDaemon.init.AllReadable := by simp [listingDaemon, ListingDaemon.AllReadable]
  exact Machine.along_iff_meets (fun _ readable => readable) preserved broken start actions

/-! ### A name of 64 KiB -/

/-- At most 32 sessions live, clients send frames that are decoded, and shells are ordinary ones. -/
structure ListingDaemon.Ordinary (state : ListingDaemon) (action : DaemonAction) : Prop where
  live : state.daemon.sessions.keys.length ≤ 32
  decoded : ∀ conn frame, action = .control conn frame →
    ∃ bytes tail, FrameCodec.decode bytes = (.ok (some frame), tail)
  shells : ∀ conn frame, action = .control conn frame → (utf8 conn.ptyPath).length ≤ 256 ∧
    ∀ pid, (utf8 (conn.processes pid).1).length ≤ 256 ∧ (utf8 (conn.processes pid).2).length ≤ 12288
  published : ∀ id ptyPath now, action = .task id (.publishes ptyPath now) →
    (utf8 ptyPath).length ≤ 256
  /-- The name of a client comes from a frame, behind its 16-bit length. -/
  clients : ∀ id shellPid attached lastHeartbeat lastActivity clientName wantsAgent lingerSecs,
    action = .task id (.writes shellPid attached lastHeartbeat lastActivity clientName wantsAgent
      lingerSecs) → FitsU16 clientName

/-- A frame on a steady connection is ordinary if the wire can carry it. -/
theorem ListingDaemon.ordinary_control {state : ListingDaemon} {frame : Frame} {connection : Nat}
    {deviceId : UInt64} (live : state.daemon.sessions.keys.length ≤ 32) (inRange : frame.InRange) :
    state.Ordinary (.control (steadyConn connection deviceId) frame) where
  live
  decoded conn other same := by
    obtain ⟨rfl, rfl⟩ := DaemonAction.control.inj same
    exact ⟨encodeFrame frame, [], (inRange_iff_decode_encode.mp inRange).2⟩
  shells conn other same := by
    obtain ⟨rfl, rfl⟩ := DaemonAction.control.inj same
    have path : (utf8 "/dev/pts/1").length ≤ 256 := by decide
    have command : (utf8 "-").length ≤ 256 := by decide
    have directory : (utf8 "").length ≤ 12288 := by decide
    exact ⟨path, fun pid => ⟨command, directory⟩⟩
  published _ _ _ same := by simp at same
  clients _ _ _ _ _ _ _ _ same := by simp at same

/-- A session is created without a name. -/
def createUnnamed : DaemonAction := .control (steadyConn 0 7) (.newSession "" "" "" 80 24 "" 0)

/-- The daemon's only session, once it has been created and given a name. -/
def onlySession (name : Option String) : SessionState where
  handle := 0
  finished := false
  closed := false
  metadata := some
    { SessionMetadata.publish { initialDeviceId := 7, lingerSecs := 0 } "/dev/pts/1" 1000 with
      attached := true, lastHeartbeat := 1000 }
  config := { initialDeviceId := 7, lingerSecs := 0 }
  inbox := [.active 0 "" 0 0 0 0 false true]
  name

/-- A daemon with that session. -/
def oneSession (name : Option String) : ListingDaemon where
  daemon :=
    { sessions := AList.insert 0 (onlySession name) ∅
      nextId := 1
      lastAttached := some 0
      spawned := 1
      stopped := false }
  listings := []

/-- The name makes no difference to how many sessions live. -/
theorem oneSession_live (name : Option String) :
    (oneSession name).daemon.sessions.keys.length ≤ 32 := by
  have one : (oneSession name).daemon.sessions.keys.length = 1 := rfl
  omega

theorem step_createUnnamed :
    listingDaemon.step listingDaemon.init createUnnamed = some (oneSession none) := rfl

/-- A text of letters is no number. -/
theorem parseU32_repeated {count : Nat} (long : 2 ≤ count) : parseU32 (repeated count) = none := by
  obtain ⟨more, rfl⟩ := Nat.exists_eq_add_of_le' long
  have letters : (repeated (more + 2)).toList = 'a' :: 'a' :: List.replicate more 'a' := by
    rw [repeated, String.toList_ofList, List.replicate_succ, List.replicate_succ]
  have digit : pushDigit 0 'a' = none := by decide
  unfold parseU32
  rw [letters]
  simp [unsigned, List.foldlM_cons, digit]

/-- However long it is, a text of letters is a valid name. -/
theorem validateSessionName_repeated {count : Nat} (long : 2 ≤ count) :
    Sessions.validateSessionName (repeated count) (oneSession none).daemon.sessions = .ok () := by
  have noControl : (utf8 (repeated count)).any isAsciiControl = false := by
    rw [utf8_repeated, List.any_eq_false]
    intro byte member
    rw [List.eq_of_mem_replicate member]
    decide
  have notDash : repeated count ≠ "-" := by
    intro dash
    have same : (utf8 (repeated count)).length = 1 := by
      rw [dash]
      decide
    rw [utf8_repeated, List.length_replicate] at same
    omega
  have unused : ((oneSession none).daemon.sessions.entries.any
      fun entry => entry.2.name = some (repeated count)) = false := rfl
  unfold Sessions.validateSessionName
  rw [noControl, parseU32_repeated long, unused]
  simp [notDash]

/-- The session gets any valid name. -/
theorem step_rename {name : String} (given : name ≠ "")
    (valid : Sessions.validateSessionName name (oneSession none).daemon.sessions = .ok ()) :
    listingDaemon.step (oneSession none) (.control (steadyConn 1 7) (.renameSession "0" name)) =
      some (oneSession (some name)) := by
  have last : (oneSession none).daemon.lastAttached = some 0 := rfl
  have resolved : (oneSession none).daemon.sessions.resolveLiveSession "0" (some 0) =
      ((oneSession none).daemon.sessions, .ok (0, onlySession none)) := rfl
  have renamed : (oneSession none).daemon.control (steadyConn 1 7) (.renameSession "0" name) =
      (oneSession (some name)).daemon.reply .ok := by
    unfold Daemon.control
    rw [if_neg (by simp [steadyConn])]
    simp only [Daemon.dispatchControl, Daemon.renameSession, Daemon.withSession]
    rw [last, resolved]
    simp only
    rw [if_neg given, valid]
    rfl
  simp only [listingDaemon, Daemon.step]
  rw [if_neg (by simp [oneSession]), renamed, Option.map_some]
  simp only [ListingDaemon.answers, renamed]
  rfl

/-- A session is renamed to a text one byte longer than a length field can say, and listed. -/
def listLongName : List DaemonAction :=
  [createUnnamed, .control (steadyConn 1 7) (.renameSession "0" (repeated 65536)),
    .control (steadyConn 2 7) .listSessions]

/-- One such name, and the listing of all sessions cannot be read. -/
theorem unreadable_after_listLongName :
    ¬ ∀ actions, listingDaemon.Meets ListingDaemon.Ordinary listingDaemon.init actions →
      listingDaemon.Along ListingDaemon.AllReadable listingDaemon.init actions := by
  intro always
  have length : (utf8 (repeated 65536)).length = 65536 := by
    rw [utf8_repeated, List.length_replicate]
  have given : repeated 65536 ≠ "" := by
    intro empty
    rw [empty] at length
    exact absurd length (by decide)
  have created := step_createUnnamed
  have renamed := step_rename given (validateSessionName_repeated (by decide : 2 ≤ 65536))
  -- The new name is the rest of its frame, which has room for it.
  have rename : (Frame.renameSession "0" (repeated 65536)).InRange := by
    have target : (utf8 "0").length = 1 := by decide
    refine ⟨fun text inside => ?_, ?_, fun number message other => absurd other (by simp)⟩
    · obtain rfl : text = "0" := by simpa [Frame.prefixedStrings] using inside
      omega
    · rw [Frame.payload, List.length_append, putStr_length, length, target]
      decide
  have ordinary : listingDaemon.Meets ListingDaemon.Ordinary listingDaemon.init listLongName := by
    refine Machine.meets_cons (ListingDaemon.ordinary_control (by decide) ?_) created
      (Machine.meets_cons (ListingDaemon.ordinary_control (oneSession_live none) rename) renamed
        ⟨ListingDaemon.ordinary_control (oneSession_live _) ?_, fun _ _ => trivial⟩)
    · exact ⟨by decide, by decide, fun number message other => absurd other (by simp)⟩
    · exact ⟨by decide, by decide, fun number message other => absurd other (by simp)⟩
  -- The name does not fit, so what lists it is broken.
  have fits := (allReadable_along_iff listLongName).mp (always listLongName ordinary)
  have fit := ((fits.2 _ created).2 _ renamed).1 (steadyConn 2 7) rfl rfl rfl
  have name := fit.each 0 (onlySession (some (repeated 65536))) rfl (repeated 65536)
    (List.mem_cons_self ..)
  omega

end Gritty
