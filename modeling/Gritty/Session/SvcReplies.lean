import Gritty.Session.SvcRequests

/-! What programs are told of their requests is what became of them. -/

namespace Gritty

/-- The address that is opened for a program. -/
def sentUrl (url : String) : String := trimmed (toStringLossy ((utf8 url ++ [10]).take urlMaxLen))

/-! ### Reading an address -/

/-- An address is read to its end, or to the end of the buffer, in whatever pieces it comes. -/
theorem readUrl_eq (shares : Shares) {buf : Bytes} {source : Source UInt8}
    (small : buf.length ≤ urlMaxLen) (open_ : 10 ∉ buf) (oneLine : 10 ∉ source.left.dropLast) :
    readUrl shares buf source = (buf ++ source.left).take urlMaxLen := by
  induction size : source.left.length using Nat.strong_induction_on generalizing buf source with
  | _ left ih =>
    rw [readUrl]
    split_ifs with room
    · have parts := source.read_fst_append shares (urlMaxLen - buf.length)
      have fits := source.read_length_le shares (urlMaxLen - buf.length)
      split
      · next rest taken =>
        have nothing := source.read_eq_nil shares (Nat.sub_ne_zero_of_lt room) (by rw [taken])
        rw [nothing, List.append_nil, List.take_of_length_le small]
      · next first more rest taken =>
        rw [taken] at parts fits
        dsimp only at parts fits ⊢
        rw [List.length_cons] at fits
        -- What is left after a piece begins within what was left before it.
        have within : rest.left ≠ [] →
            source.left.dropLast = (first :: more) ++ rest.left.dropLast := by
          intro some_
          rw [← parts, List.dropLast_append_of_ne_nil some_]
        split_ifs with ends
        · have last : rest.left = [] := by
            by_contra some_
            rw [List.contains_iff_mem, List.mem_append] at ends
            rw [within some_] at oneLine
            exact oneLine (List.mem_append_left _ (ends.resolve_left open_))
          rw [← parts, last, List.append_nil, List.take_of_length_le]
          rw [List.length_append, List.length_cons]
          omega
        · have shorter : rest.left.length < left := by
            rw [← size, ← parts, List.length_append, List.length_cons]
            omega
          have later : 10 ∉ rest.left.dropLast := by
            intro among
            have some_ : rest.left ≠ [] := fun none_ => by rw [none_] at among; cases among
            rw [within some_] at oneLine
            exact oneLine (List.mem_append_right _ among)
          rw [ih _ shorter _ (fun among => ends (List.contains_iff_mem.mpr among)) later rfl,
            List.append_assoc, parts]
          rw [List.length_append, List.length_cons]
          omega
    · rw [List.take_append_of_le_length (by omega), List.take_of_length_le small]

/-- A line end after a text goes with the blanks around it. -/
theorem trim_lineEnd (text : List Char) : trim (text ++ ['\n']) = trim text := by
  have blank : isWhitespace '\n' = true := by decide
  unfold trim
  rw [List.dropWhile_append]
  split_ifs with blanks
  · rw [List.isEmpty_iff.mp blanks, List.dropWhile_cons_of_pos blank]
    rfl
  · rw [List.reverse_append, List.reverse_singleton, List.singleton_append,
      List.dropWhile_cons_of_pos blank]

/-- A line's end after a URL is trimmed with the rest. -/
theorem trimmed_lineEnd (url : String) : trimmed (toStringLossy (utf8 url ++ [10])) = trimmed url := by
  have written : utf8 url ++ [10] = utf8 (url ++ "\n") := by
    rw [utf8_eq, utf8_eq, String.toList_append, List.flatMap_append]
    rfl
  rw [written, trimmed_utf8]
  unfold trimmed
  rw [String.toList_append]
  exact congrArg String.ofList (trim_lineEnd url.toList)

/-- An address that fits is opened as it was given, but for blanks around it. -/
theorem sentUrl_of_fits {url : String} (fits : (utf8 url).length ≤ urlMaxLen) :
    sentUrl url = trimmed url := by
  unfold sentUrl
  rcases Nat.lt_or_ge (utf8 url).length urlMaxLen with room | full
  · rw [List.take_of_length_le, trimmed_lineEnd]
    rw [List.length_append, List.length_singleton]
    omega
  · rw [List.take_append_of_le_length full, List.take_of_length_le fits, trimmed_utf8]

/-! ### One connection -/

/-- What is asked of the session is in what the program wrote. -/
def EventFits (conn : SvcConnection) : SvcEvent → Prop
  | .copy data =>
    conn.eof = true ∧ conn.arrived = 5 :: 1 :: data ∧ data ≠ [] ∧ data.length ≤ clipboardMaxBytes
  | .paste => ∃ rest, conn.arrived = 5 :: 2 :: rest
  | .url url => (∃ rest, conn.arrived = 1 :: rest) ∧
      ∀ given, conn.program = .openUrl given → 10 ∉ utf8 given →
        conn.outcome = some .failed ∨ url = sentUrl given

/-- The task of a connection is where the bytes that came have brought it. -/
def TaskFits (conn : SvcConnection) : SvcTask → Prop
  | .accepted => True
  | .readsUrl => ∃ rest, conn.arrived = 1 :: rest
  | .clipboard _ => ∃ rest, conn.arrived = 5 :: rest
  | .copying _ => ∃ rest, conn.arrived = 5 :: 1 :: rest
  | .asked event => EventFits conn event
  | .closed none reply =>
    reply = [] ∨ ∃ rest, conn.arrived = 5 :: 1 :: rest ∧
      (reply = [clipboardReplyDropped] ∨
        reply = [clipboardReplyTooLarge] ∧ clipboardMaxBytes < rest.length)
  | .closed (some (.copy data)) reply => EventFits conn (.copy data) ∧
      (reply = [clipboardReplyDelivered] ∨ reply = [clipboardReplyDropped])
  | .closed (some .paste) _ => EventFits conn .paste
  | .closed (some (.url url)) reply => EventFits conn (.url url) ∧
      (reply = [0x01] ∨ reply = [0x00] ∨ reply = [])

/-- The frames that were sent for a connection are those that its program is told of. -/
def FramesFit (frames : List Frame) (waits : Prop) : SvcTask → Prop
  | .asked .paste => waits ∧ frames = [.clipboardGet] ∨ ¬ waits ∧ frames = []
  | .closed (some (.copy data)) reply =>
    reply = [clipboardReplyDelivered] ∧ frames = [.clipboardSet data] ∨
      reply ≠ [clipboardReplyDelivered] ∧ frames = []
  | .closed (some .paste) _ => frames = [] ∨ frames = [.clipboardGet]
  | .closed (some (.url url)) reply =>
    reply = [0x01] ∧ frames = [.openUrl url] ∨ reply ≠ [0x01] ∧ frames = []
  | _ => frames = []

/-- A program knows no more than its task has told it. -/
def OutcomeFits (conn : SvcConnection) : Option SvcOutcome → Prop
  | some .tooLarge => ∃ data, conn.program = .copy data ∧ clipboardMaxBytes < data.length
  | some .done => conn.arrived = conn.program.request ∧ ∃ event reply more,
      conn.task = .closed event (reply :: more) ∧ conn.program.told reply = .done
  | some .notDone => conn.arrived = conn.program.request ∧ ∃ event reply more,
      conn.task = .closed event (reply :: more) ∧ conn.program.told reply = .notDone
  | _ => True

/-- What holds of a connection by itself. -/
structure ConnFits (conn : SvcConnection) : Prop where
  arrives : conn.arrived <+: conn.program.request
  silent : conn.outcome ≠ none → conn.eof = true
  whole : conn.eof = true → conn.outcome = some .failed ∨ conn.outcome = some .tooLarge ∨
    conn.arrived = conn.program.request
  size : ∀ data, conn.program = .copy data → clipboardMaxBytes < data.length →
    conn.outcome = some .tooLarge ∧ conn.eof = true ∧ conn.arrived = []
  task : TaskFits conn conn.task
  outcome : OutcomeFits conn conn.outcome

section

variable {conn : SvcConnection}

/-- The bytes of a program's own request are read as what they are. -/
theorem EventFits.of_copy {data : Bytes} {event : SvcEvent} (fits : EventFits conn event)
    (arrived : conn.arrived = (SvcProgram.copy data).request) : event = .copy data := by
  cases event with
  | copy other =>
    obtain ⟨-, same, -⟩ := fits
    have whole : 5 :: 1 :: other = 5 :: 1 :: data := same.symm.trans arrived
    rw [List.cons.injEq, List.cons.injEq] at whole
    rw [whole.2.2]
  | paste =>
    obtain ⟨rest, same⟩ := fits
    have whole : 5 :: 2 :: rest = 5 :: 1 :: data := same.symm.trans arrived
    rw [List.cons.injEq, List.cons.injEq] at whole
    exact absurd whole.2.1 (by decide)
  | url =>
    obtain ⟨⟨rest, same⟩, -⟩ := fits
    have whole : 1 :: rest = 5 :: 1 :: data := same.symm.trans arrived
    exact absurd (List.head_eq_of_cons_eq whole) (by decide)

/-- More bytes of a request change nothing that was read of it. -/
theorem TaskFits.writes {task : SvcTask} {arrived : Bytes} (fits : TaskFits conn task)
    (more : conn.arrived <+: arrived) (goesOn : conn.eof = false) :
    TaskFits { conn with arrived } task := by
  obtain ⟨extra, rfl⟩ := more
  have longer : ∀ {first : UInt8} {rest : Bytes}, conn.arrived = first :: rest →
      conn.arrived ++ extra = first :: (rest ++ extra) := fun shape => by rw [shape]; rfl
  have longer₂ : ∀ {first second : UInt8} {rest : Bytes}, conn.arrived = first :: second :: rest →
      conn.arrived ++ extra = first :: second :: (rest ++ extra) := fun shape => by rw [shape]; rfl
  have event : ∀ event, EventFits conn event →
      EventFits { conn with arrived := conn.arrived ++ extra } event := by
    intro event fits
    cases event with
    | copy data => exact absurd (goesOn.symm.trans fits.1) Bool.false_ne_true
    | paste =>
      obtain ⟨rest, shape⟩ := fits
      exact ⟨_, longer₂ shape⟩
    | url url =>
      obtain ⟨⟨rest, shape⟩, same⟩ := fits
      exact ⟨⟨_, longer shape⟩, same⟩
  cases task with
  | accepted => trivial
  | readsUrl =>
    obtain ⟨rest, shape⟩ := fits
    exact ⟨_, longer shape⟩
  | clipboard =>
    obtain ⟨rest, shape⟩ := fits
    exact ⟨_, longer shape⟩
  | copying =>
    obtain ⟨rest, shape⟩ := fits
    exact ⟨_, longer₂ shape⟩
  | asked asked => exact event asked fits
  | closed closed reply =>
    match closed, fits with
    | none, Or.inl silent => exact Or.inl silent
    | none, Or.inr ⟨rest, shape, Or.inl dropped⟩ => exact Or.inr ⟨_, longer₂ shape, Or.inl dropped⟩
    | none, Or.inr ⟨rest, shape, Or.inr ⟨tooLarge, large⟩⟩ =>
      refine Or.inr ⟨_, longer₂ shape, Or.inr ⟨tooLarge, ?_⟩⟩
      rw [List.length_append]
      omega
    | some (.copy data), fits => exact ⟨event _ fits.1, fits.2⟩
    | some .paste, fits => exact event .paste fits
    | some (.url url), fits => exact ⟨event _ fits.1, fits.2⟩

/-- Neither the end of a request nor what a program knows changes what was read, if it knew nothing. -/
theorem TaskFits.knows {task : SvcTask} {outcome : Option SvcOutcome} (fits : TaskFits conn task)
    (kept : conn.outcome = some .failed → outcome = some .failed) :
    TaskFits { conn with eof := true, outcome } task := by
  have event : ∀ event, EventFits conn event →
      EventFits { conn with eof := true, outcome } event := by
    intro event fits
    cases event with
    | copy data => exact ⟨rfl, fits.2⟩
    | paste => exact fits
    | url url =>
      refine ⟨fits.1, fun given isGiven oneLine => ?_⟩
      exact (fits.2 given isGiven oneLine).imp_left kept
  cases task with
  | accepted | readsUrl | clipboard | copying => exact fits
  | asked asked => exact event asked fits
  | closed closed reply =>
    match closed, fits with
    | none, fits => exact fits
    | some (.copy data), fits => exact ⟨event _ fits.1, fits.2⟩
    | some .paste, fits => exact event .paste fits
    | some (.url url), fits => exact ⟨event _ fits.1, fits.2⟩

end

/-! ### The session with all its connections -/

/-- What was sent to clients for a connection. -/
def SvcSession.sendsFor (session : SvcSession) (id : Nat) : List SvcSend :=
  session.sends.filter fun send => send.id == id

/-- The frames that were sent to clients for a connection. -/
def SvcSession.framesFor (session : SvcSession) (id : Nat) : List Frame :=
  (session.sendsFor id).map (·.frame)

/-- One frame is one send, which came through or did not. -/
theorem SvcSession.sendsFor_single {session : SvcSession} {id : Nat} {frame : Frame}
    (single : session.framesFor id = [frame]) :
    ∃ through, session.sendsFor id = [{ id, frame, through }] := by
  obtain ⟨send, only, rfl⟩ := List.map_eq_singleton_iff.mp single
  have among : send ∈ session.sendsFor id := only ▸ List.mem_singleton_self send
  obtain rfl : send.id = id := by simpa using (List.mem_filter.mp among).2
  exact ⟨send.through, only⟩

structure SvcInv (session : SvcSession) : Prop where
  fresh : ∀ id, session.accepted ≤ id → session.connections id = none
  known : ∀ send ∈ session.sends, session.connections send.id ≠ none
  conns : ∀ id conn, session.connections id = some conn → ConnFits conn
  frames : ∀ id conn, session.connections id = some conn →
    FramesFit (session.framesFor id) (session.pendingPaste = some id) conn.task
  pending : ∀ id, session.pendingPaste = some id →
    ∃ conn, session.connections id = some conn ∧ conn.task = .asked .paste
  deadline : session.pendingPaste.isSome = session.pasteDeadline.isSome
  attached : session.client = none → session.pendingPaste = none
  settled : session.ended = true → session.client = none ∧
    ∀ id conn event, session.connections id = some conn → conn.task ≠ .asked event

section

variable {session next : SvcSession} {id : Nat} {conn : SvcConnection}

/-- Frames that are sent for a connection are added to its own, and to nobody else's. -/
theorem framesFor_append (session : SvcSession) (id other : Nat) (frames : List Frame)
    (through : Bool) :
    { session with sends := session.sends ++ frames.map (SvcSend.mk id · through) }.framesFor other =
      session.framesFor other ++ if id = other then frames else [] := by
  unfold SvcSession.framesFor SvcSession.sendsFor
  rw [List.filter_append, List.map_append]
  congr 1
  split_ifs with same
  · subst same
    induction frames with
    | nil => rfl
    | cons frame later ih => simpa using ih
  · induction frames with
    | nil => rfl
    | cons frame later ih => simp [same]

/-- A request that nothing was sent for. -/
theorem SvcInv.framesFor_unknown (inv : SvcInv session) (unknown : session.connections id = none) :
    session.framesFor id = [] := by
  unfold SvcSession.framesFor SvcSession.sendsFor
  rw [List.filter_eq_nil_iff.mpr]
  · rfl
  · intro entry among same
    rw [beq_iff_eq] at same
    exact inv.known entry among (same ▸ unknown)

/-- One connection goes on, and frames may be sent for it. -/
theorem SvcInv.replace (inv : SvcInv session) (after : SvcConnection) (frames : List Frame) (through : Bool)
    (found : session.connections id = some conn) (fits : ConnFits after)
    (shown : FramesFit (session.framesFor id ++ frames) (session.pendingPaste = some id) after.task)
    (pending : session.pendingPaste = some id → after.task = .asked .paste)
    (settled : session.ended = true → ∀ event, after.task ≠ .asked event) :
    SvcInv { session.update id after with sends := session.sends ++ frames.map (SvcSend.mk id · through) } where
  fresh other late := by
    -- The connection is there, so it is none of those that are still to come.
    have elsewhere : other ≠ id := by
      rintro rfl
      rw [inv.fresh other late] at found
      cases found
    exact (Function.update_of_ne elsewhere ..).trans (inv.fresh other late)
  known entry among := by
    show Function.update session.connections id (some after) entry.id ≠ none
    by_cases same : entry.id = id
    · rw [same, Function.update_self]
      exact Option.some_ne_none after
    · rw [Function.update_of_ne same]
      -- What was sent before was sent for a connection that is there, and what is new for this one.
      rcases List.mem_append.mp among with earlier | new
      · exact inv.known entry earlier
      · obtain ⟨frame, -, rfl⟩ := List.mem_map.mp new
        exact absurd rfl same
  conns other conn' there := by
    have there' : Function.update session.connections id (some after) other = some conn' := there
    by_cases same : other = id
    · rw [same, Function.update_self] at there'
      exact Option.some.inj there' ▸ fits
    · rw [Function.update_of_ne same] at there'
      exact inv.conns other conn' there'
  frames other conn' there := by
    have there' : Function.update session.connections id (some after) other = some conn' := there
    -- For the others nothing new was sent.
    have sent : SvcSession.framesFor
        { session.update id after with sends := session.sends ++ frames.map (SvcSend.mk id · through) } other =
        session.framesFor other ++ if id = other then frames else [] :=
      framesFor_append session id other frames through
    rw [sent]
    by_cases same : other = id
    · rw [same, Function.update_self] at there'
      obtain rfl := Option.some.inj there'
      rw [same, if_pos rfl]
      exact shown
    · rw [Function.update_of_ne same] at there'
      rw [if_neg (Ne.symm same), List.append_nil]
      exact inv.frames other conn' there'
  pending other waits := by
    obtain ⟨conn', there, asked⟩ := inv.pending other waits
    by_cases same : other = id
    · subst same
      exact ⟨after, Function.update_self .., pending waits⟩
    · exact ⟨conn', (Function.update_of_ne same ..).trans there, asked⟩
  deadline := inv.deadline
  attached := inv.attached
  settled isEnded := by
    refine ⟨(inv.settled isEnded).1, fun other conn' event there => ?_⟩
    have there' : Function.update session.connections id (some after) other = some conn' := there
    by_cases same : other = id
    · rw [same, Function.update_self] at there'
      exact Option.some.inj there' ▸ settled isEnded event
    · rw [Function.update_of_ne same] at there'
      exact (inv.settled isEnded).2 other conn' event there'

/-- One connection goes on, and nothing is sent. -/
theorem SvcInv.update (inv : SvcInv session) (after : SvcConnection)
    (found : session.connections id = some conn) (fits : ConnFits after)
    (shown : FramesFit (session.framesFor id) (session.pendingPaste = some id) after.task)
    (pending : session.pendingPaste = some id → after.task = .asked .paste)
    (settled : session.ended = true → ∀ event, after.task ≠ .asked event) :
    SvcInv (session.update id after) := by
  have replaced := inv.replace after [] true found fits (by rwa [List.append_nil]) pending settled
  rw [List.map_nil, List.append_nil] at replaced
  exact replaced

/-- A program goes on, and its task stays where it is. -/
theorem SvcInv.program (inv : SvcInv session) (after : SvcConnection)
    (found : session.connections id = some conn) (fits : ConnFits after)
    (same : after.task = conn.task) : SvcInv (session.update id after) := by
  refine inv.update after found fits (same ▸ inv.frames id conn found) (fun waits => ?_)
    fun isEnded event => same ▸ (inv.settled isEnded).2 id conn event found
  obtain ⟨conn', there, asked⟩ := inv.pending id waits
  rw [found, Option.some.injEq] at there
  exact same.trans (there ▸ asked)

/-- No request but a paste waits for the client. -/
theorem SvcInv.not_pending (inv : SvcInv session) (found : session.connections id = some conn)
    (other : conn.task ≠ .asked .paste) : session.pendingPaste ≠ some id := by
  intro waits
  obtain ⟨conn', there, asked⟩ := inv.pending id waits
  rw [found, Option.some.injEq] at there
  exact other (there ▸ asked)

theorem SvcSession.resolve_asked {event : SvcEvent} (reply : Bytes)
    (found : session.connections id = some conn) (asked : conn.task = .asked event) :
    session.resolve id reply =
      session.update id { conn with task := .closed (some event) reply } := by
  unfold SvcSession.resolve
  rw [found]
  simp only
  rw [asked]

/-- Where a task is does not matter to what is in the request. -/
theorem EventFits.of_task {event : SvcEvent} (fits : EventFits conn event) (task : SvcTask) :
    EventFits { conn with task } event := by
  cases event with
  | copy | paste | url => exact fits

/-- A task that goes on, before its program has been told anything. -/
theorem ConnFits.goesOn (fits : ConnFits conn) (task : SvcTask)
    (goes : TaskFits { conn with task } task)
    (untold : ∀ event reply more, conn.task ≠ .closed event (reply :: more)) :
    ConnFits { conn with task } where
  arrives := fits.arrives
  silent := fits.silent
  whole := fits.whole
  size := fits.size
  task := goes
  outcome := by
    have known := fits.outcome
    show OutcomeFits { conn with task } conn.outcome
    cases outcome : conn.outcome with
    | none => trivial
    | some outcome' =>
      rw [outcome] at known
      cases outcome' with
      | tooLarge => exact known
      | done | notDone =>
        obtain ⟨-, event, reply, more, closed, -⟩ := known
        exact absurd closed (untold event reply more)
      | unconfirmed | failed => trivial

/-- A task that is asked of the session has not been answered. -/
theorem ConnFits.answered {event : SvcEvent} {reply : Bytes} (fits : ConnFits conn)
    (asked : conn.task = .asked event)
    (goes : TaskFits { conn with task := .closed (some event) reply } (.closed (some event) reply)) :
    ConnFits { conn with task := .closed (some event) reply } :=
  fits.goesOn _ goes fun _ _ _ closed => by rw [asked] at closed; cases closed

/-- The paste that waits is answered, with whatever the client says. -/
theorem SvcInv.answerPaste (inv : SvcInv session) (waits : session.pendingPaste = some id)
    (reply : Bytes) :
    SvcInv { session.resolve id reply with pendingPaste := none, pasteDeadline := none } := by
  obtain ⟨conn, found, asked⟩ := inv.pending id waits
  rw [SvcSession.resolve_asked reply found asked]
  have fits := inv.conns id conn found
  have event : EventFits conn .paste := by
    have task := fits.task
    rw [asked] at task
    exact task
  have shown := inv.frames id conn found
  rw [asked] at shown
  have got : session.framesFor id = [.clipboardGet] := by
    rcases shown with ⟨-, got⟩ | ⟨notWaits, -⟩
    · exact got
    · exact absurd waits notWaits
  have after : ConnFits { conn with task := .closed (some .paste) reply } := fits.answered asked event
  refine ⟨?_, ?_, ?_, ?_, ?_, rfl, fun _ => rfl, ?_⟩
  · intro other late
    have elsewhere : other ≠ id := by
      rintro rfl
      rw [inv.fresh other late] at found
      cases found
    exact (Function.update_of_ne elsewhere ..).trans (inv.fresh other late)
  · intro entry among
    show Function.update session.connections id _ entry.1 ≠ none
    by_cases same : entry.1 = id
    · rw [same, Function.update_self]
      exact Option.some_ne_none _
    · rw [Function.update_of_ne same]
      exact inv.known entry among
  · intro other conn' there
    have there' : Function.update session.connections id _ other = some conn' := there
    by_cases same : other = id
    · rw [same, Function.update_self] at there'
      exact Option.some.inj there' ▸ after
    · rw [Function.update_of_ne same] at there'
      exact inv.conns other conn' there'
  · intro other conn' there
    have there' : Function.update session.connections id _ other = some conn' := there
    by_cases same : other = id
    · rw [same, Function.update_self] at there'
      obtain rfl := Option.some.inj there'
      subst same
      exact Or.inr got
    · rw [Function.update_of_ne same] at there'
      have shown' := inv.frames other conn' there'
      -- No other paste waited.
      have notWaits : session.pendingPaste ≠ some other := fun also =>
        same (Option.some.inj (also.symm.trans waits))
      cases task : conn'.task with
      | asked event =>
        rw [task] at shown'
        cases event with
        | paste =>
          refine Or.inr ⟨(fun waits => by cases waits), ?_⟩
          exact (shown'.resolve_left fun also => notWaits also.1).2
        | copy | url => exact shown'
      | accepted | readsUrl | clipboard | copying =>
        rw [task] at shown'
        exact shown'
      | closed event reply =>
        rw [task] at shown'
        match event, shown' with
        | none, shown' => exact shown'
        | some (.copy _), shown' => exact shown'
        | some .paste, shown' => exact shown'
        | some (.url _), shown' => exact shown'
  · exact fun _ waits => by cases waits
  · intro isEnded
    have none_ := inv.attached (inv.settled isEnded).1
    rw [waits] at none_
    cases none_

/-- Dropping the paste that is pending touches only its own connection. -/
theorem SvcInv.dropPaste (inv : SvcInv session) :
    SvcInv session.dropPaste ∧ session.dropPaste.pendingPaste = none ∧
      session.dropPaste.client = session.client ∧ session.dropPaste.ended = session.ended ∧
      session.dropPaste.sends = session.sends ∧ ∀ other conn, session.pendingPaste ≠ some other →
        session.connections other = some conn → session.dropPaste.connections other = some conn := by
  unfold SvcSession.dropPaste
  split
  · next id waits =>
    obtain ⟨conn, found, asked⟩ := inv.pending id waits
    refine ⟨inv.answerPaste waits [], rfl, ?_, ?_, ?_, ?_⟩
    · simp only [SvcSession.resolve_asked [] found asked]
      rfl
    · simp only [SvcSession.resolve_asked [] found asked]
      rfl
    · simp only [SvcSession.resolve_asked [] found asked]
      rfl
    · intro other conn' elsewhere found'
      simp only [SvcSession.resolve_asked [] found asked]
      have apart : other ≠ id := fun same => elsewhere (waits.trans (congrArg some same.symm))
      exact (Function.update_of_ne apart ..).trans found'
  · next waits =>
    refine ⟨{ inv with deadline := ?_ }, waits, rfl, rfl, rfl, fun _ _ _ found => found⟩
    show session.pendingPaste.isSome = _
    rw [waits]

/-! ### What each action does -/

/-- Programs that have been told nothing and have asked for nothing yet. -/
def SvcTask.Early : SvcTask → Prop
  | .accepted | .readsUrl | .clipboard _ | .copying _ => True
  | .asked _ | .closed .. => False

/-- The task of a connection reads on, asks the session or gives up. -/
theorem SvcInv.goesOn (inv : SvcInv session) {task : SvcTask}
    (found : session.connections id = some conn) (early : conn.task.Early)
    (goes : TaskFits { conn with task } task) (quiet : ∀ waits, ¬ waits → FramesFit [] waits task)
    (settled : session.ended = true → ∀ event, task ≠ .asked event) :
    SvcInv (session.update id { conn with task }) := by
  have notAsked : conn.task ≠ .asked .paste := fun asked => by rw [asked] at early; exact early
  have nothing : session.framesFor id = [] := by
    have shown := inv.frames id conn found
    cases stage : conn.task with
    | accepted | readsUrl | clipboard | copying => rwa [stage] at shown
    | asked | closed => rw [stage] at early; exact early.elim
  have notPending := inv.not_pending found notAsked
  refine inv.update _ found ?_ ?_ (fun waits => absurd waits notPending) settled
  · refine (inv.conns id conn found).goesOn task goes fun _ _ _ closed => ?_
    rw [closed] at early
    exact early
  · rw [nothing]
    exact quiet _ notPending

/-- What was read is asked of the session, or turned down when there is none. -/
theorem SvcInv.ask (inv : SvcInv session) {event : SvcEvent}
    (found : session.connections id = some conn) (early : conn.task.Early)
    (event_ : EventFits conn event) : SvcInv (session.ask id conn event) := by
  unfold SvcSession.ask
  split_ifs with isEnded
  · refine inv.goesOn found early ?_ (fun _ _ => rfl) fun _ _ asked => by cases asked
    cases event with
    | copy data => exact Or.inr ⟨data, event_.2.1, Or.inl rfl⟩
    | paste | url => exact Or.inl rfl
  · refine inv.goesOn found early (event_.of_task _) (fun waits notWaits => ?_)
      fun ended => absurd ended isEnded
    cases event with
    | copy | url => rfl
    | paste => exact Or.inr ⟨notWaits, rfl⟩

theorem fromByte_eq {byte : UInt8} {request : SvcRequest}
    (read : SvcRequest.fromByte byte = some request) : byte = request.toByte := by
  unfold SvcRequest.fromByte at read
  split_ifs at read with one two three five <;> cases read
  · exact one
  · exact two
  · exact three
  · exact five

/-- A task that starts keeps all in order. -/
theorem SvcInv.taskStarts (inv : SvcInv session) (found : session.connections id = some conn)
    (starts : session.taskStarts id conn = some next) : SvcInv next := by
  -- A task that asks for nothing has nothing to answer for.
  have fits := (inv.conns id conn found).task
  have closes : conn.task.Early →
      SvcInv (session.update id { conn with task := .closed none [] }) := fun early =>
    inv.goesOn found early (Or.inl rfl) (fun _ _ => rfl) fun _ _ asked => by cases asked
  unfold SvcSession.taskStarts at starts
  split at starts
  -- The program went away before it said what it wants.
  · next stage arrived =>
    split_ifs at starts
    cases starts
    exact closes (by rw [stage]; trivial)
  -- The first byte says what is wanted.
  · next disc rest stage arrived =>
    have early : conn.task.Early := by rw [stage]; trivial
    split at starts
    · next isUrl =>
      cases starts
      refine inv.goesOn found early ⟨rest, ?_⟩ (fun _ _ => rfl) fun _ _ asked => by cases asked
      show conn.arrived = _
      rw [arrived, fromByte_eq isUrl]
      rfl
    · next isClipboard =>
      cases starts
      refine inv.goesOn found early ⟨rest, ?_⟩ (fun _ _ => rfl) fun _ _ asked => by cases asked
      show conn.arrived = _
      rw [arrived, fromByte_eq isClipboard]
      rfl
    · cases starts
      exact closes early
    · cases starts
      exact closes early
    · cases starts
      exact closes early
  -- Of a clipboard request, the second byte says whether it is a copy or a paste.
  · next hasCap disc op rest stage arrived =>
    have early : conn.task.Early := by rw [stage]; trivial
    rw [stage] at fits
    obtain ⟨rest', same⟩ := fits
    rw [arrived, List.cons.injEq] at same
    obtain rfl := same.1
    split_ifs at starts with copies pastes
    · cases starts
      refine inv.goesOn found early ⟨rest, ?_⟩ (fun _ _ => rfl) fun _ _ asked => by cases asked
      exact arrived.trans (by rw [copies])
    · cases starts
      exact inv.ask found early ⟨rest, arrived.trans (by rw [pastes.1])⟩
    · cases starts
      exact closes early
  · next hasCap stage short =>
    split_ifs at starts
    cases starts
    exact closes (by rw [stage]; trivial)
  · cases starts

/-- What has come of an address when it is read is all of it, or all that there is room for. -/
theorem ConnFits.arrived_url {given : String} (fits : ConnFits conn)
    (program : conn.program = .openUrl given) (oneLine : 10 ∉ utf8 given)
    (enough : conn.eof = true ∨ 10 ∈ conn.arrived.drop 1 ∨ urlMaxLen ≤ (conn.arrived.drop 1).length) :
    conn.outcome = some .failed ∨
      (conn.arrived.drop 1).take urlMaxLen = (utf8 given ++ [10]).take urlMaxLen := by
  have request : conn.program.request = 1 :: (utf8 given ++ [10]) := by rw [program]; rfl
  have part : conn.arrived.drop 1 <+: utf8 given ++ [10] := by
    have arrives := fits.arrives
    rw [request] at arrives
    have later := arrives.drop 1
    exact later
  have whole : conn.arrived = conn.program.request →
      (conn.arrived.drop 1).take urlMaxLen = (utf8 given ++ [10]).take urlMaxLen := by
    intro all
    rw [all, request]
    rfl
  rcases enough with eof | ends | full
  · rcases fits.whole eof with failed | tooLarge | all
    · exact Or.inl failed
    · -- A program that opens an address is never told that it is too large.
      have known := fits.outcome
      rw [tooLarge] at known
      obtain ⟨data, copies, -⟩ := known
      rw [program] at copies
      cases copies
    · exact Or.inr (whole all)
  · rcases List.prefix_concat_iff.mp part with all | shorter
    · exact Or.inr (by rw [all])
    · exact absurd (shorter.subset ends) oneLine
  · right
    obtain ⟨later, rest⟩ := part
    rw [← rest, List.take_append_of_le_length full]

/-- A task that reads its request keeps all in order. -/
theorem SvcInv.taskReads (inv : SvcInv session) {shares : Shares}
    (found : session.connections id = some conn)
    (reads : session.taskReads id conn shares = some next) : SvcInv next := by
  have fits := inv.conns id conn found
  have task := fits.task
  unfold SvcSession.taskReads at reads
  split at reads
  · next stage =>
    have early : conn.task.Early := by rw [stage]; trivial
    rw [stage] at task
    obtain ⟨rest, arrived⟩ := task
    dsimp only at reads
    split_ifs at reads with enough blank
    · cases reads
      exact inv.goesOn found early (Or.inl rfl) (fun _ _ => rfl) fun _ _ asked => by cases asked
    · cases reads
      refine inv.ask found early ⟨⟨rest, arrived⟩, fun given program oneLine => ?_⟩
      -- A line of the program's own ends where its request does.
      have single : 10 ∉ (conn.arrived.drop 1).dropLast := by
        have arrives := fits.arrives
        rw [program] at arrives
        have part : conn.arrived.drop 1 <+: utf8 given ++ [10] := arrives.drop 1
        intro among
        rcases List.prefix_concat_iff.mp part with all | shorter
        · rw [all, List.dropLast_concat] at among
          exact oneLine among
        · exact oneLine (shorter.subset (List.dropLast_subset _ among))
      refine (fits.arrived_url program oneLine enough).imp_right fun same => ?_
      have read : readUrl shares [] { left := conn.arrived.drop 1, calls := 0 } =
          ([] ++ conn.arrived.drop 1).take urlMaxLen :=
        readUrl_eq shares (Nat.zero_le _) List.not_mem_nil single
      rw [read]
      unfold sentUrl
      rw [← same, List.nil_append]
  · next hasCap stage =>
    have early : conn.task.Early := by rw [stage]; trivial
    rw [stage] at task
    obtain ⟨rest, arrived⟩ := task
    have source : conn.arrived.drop 2 = rest := by rw [arrived]; rfl
    dsimp only at reads
    rw [Source.readToEnd_eq, List.nil_append, source] at reads
    dsimp only at reads
    split_ifs at reads with enough large unable
    · cases reads
      refine inv.goesOn found early (Or.inr ⟨rest, arrived, Or.inr ⟨rfl, ?_⟩⟩) (fun _ _ => rfl)
        fun _ _ asked => by cases asked
      rw [List.length_take] at large
      omega
    · cases reads
      exact inv.goesOn found early (Or.inr ⟨rest, arrived, Or.inl rfl⟩) (fun _ _ => rfl)
        fun _ _ asked => by cases asked
    · cases reads
      have all : rest.take (clipboardMaxBytes + 1) = rest := by
        refine List.take_of_length_le ?_
        rw [List.length_take] at large
        omega
      rw [all] at enough large unable ⊢
      refine inv.ask found early ⟨enough.resolve_right large, arrived, fun empty => ?_, by omega⟩
      rw [empty] at unable
      exact unable (by simp)
  · cases reads

/-- A request that waits for no client is answered by the session, with a frame to its client or without. -/
theorem SvcInv.answer (inv : SvcInv session) {event : SvcEvent} (reply : Bytes) (frames : List Frame)
    (through : Bool) (found : session.connections id = some conn) (asked : conn.task = .asked event)
    (notPending : session.pendingPaste ≠ some id)
    (goes : EventFits conn event → TaskFits conn (.closed (some event) reply))
    (shown : FramesFit frames False (.closed (some event) reply)) :
    SvcInv { session.resolve id reply with sends := session.sends ++ frames.map (SvcSend.mk id · through) } := by
  rw [SvcSession.resolve_asked reply found asked]
  have fits := inv.conns id conn found
  have event_ : EventFits conn event := by
    have task := fits.task
    rw [asked] at task
    exact task
  have nothing : session.framesFor id = [] := by
    have before := inv.frames id conn found
    rw [asked] at before
    cases event with
    | copy | url => exact before
    | paste => exact (before.resolve_left fun waits => notPending waits.1).2
  have closed : TaskFits { conn with task := .closed (some event) reply } (.closed (some event) reply) := by
    have fits := goes event_
    cases event with
    | copy data => exact fits
    | paste => exact fits
    | url url => exact fits
  refine inv.replace _ frames through found (fits.answered asked closed) ?_
    (fun waits => absurd waits notPending) fun _ _ same => by cases same
  rw [nothing, List.nil_append]
  cases event with
  | copy | paste | url => exact shown

/-- A request is answered, and nothing is sent. -/
theorem SvcInv.refuse (inv : SvcInv session) {event : SvcEvent} (reply : Bytes)
    (found : session.connections id = some conn) (asked : conn.task = .asked event)
    (notPending : session.pendingPaste ≠ some id)
    (goes : EventFits conn event → TaskFits conn (.closed (some event) reply))
    (shown : FramesFit [] False (.closed (some event) reply)) : SvcInv (session.resolve id reply) := by
  have answered := inv.answer reply [] true found asked notPending goes shown
  rw [List.map_nil, List.append_nil, SvcSession.resolve_asked reply found asked] at answered
  rw [SvcSession.resolve_asked reply found asked]
  exact answered

/-- A paste waits for the client when no other does. -/
theorem SvcInv.takePaste (inv : SvcInv session) (time : Nat) (through : Bool)
    (found : session.connections id = some conn) (asked : conn.task = .asked .paste)
    (idle : session.pendingPaste = none) (attached : session.client ≠ none) :
    SvcInv { session with
      pendingPaste := some id, pasteDeadline := some time,
      sends := session.sends ++ [{ id, frame := .clipboardGet, through }] } := by
  have sent : ∀ other, SvcSession.framesFor { session with
      pendingPaste := some id, pasteDeadline := some time,
      sends := session.sends ++ [{ id, frame := .clipboardGet, through }] } other =
      session.framesFor other ++ if id = other then [.clipboardGet] else [] :=
    fun other => framesFor_append session id other [.clipboardGet] through
  refine ⟨inv.fresh, ?_, inv.conns, ?_, ?_, rfl, fun none_ => absurd none_ attached, inv.settled⟩
  · intro entry among
    rcases List.mem_append.mp among with earlier | new
    · exact inv.known entry earlier
    · rw [List.mem_singleton.mp new]
      exact fun none_ => by cases found.symm.trans none_
  · intro other conn' there
    rw [sent]
    have shown := inv.frames other conn' there
    rw [idle] at shown
    by_cases same : id = other
    · subst same
      rw [if_pos rfl]
      obtain rfl := Option.some.inj (found.symm.trans there)
      rw [asked] at shown ⊢
      have nothing := (shown.resolve_left fun waits => by cases waits.1).2
      exact Or.inl ⟨rfl, by rw [nothing]; rfl⟩
    · rw [if_neg same, List.append_nil]
      have apart : (some id = some other) = (none = some other) := by
        rw [Option.some.injEq, eq_false same, eq_false (Option.some_ne_none other).symm]
      show FramesFit _ (some id = some other) _
      rw [apart]
      exact shown
  · intro other waits
    cases waits
    exact ⟨conn, found, asked⟩

/-- A clipboard's event keeps all in order. -/
theorem SvcInv.clipboardEvent (inv : SvcInv session) (found : session.connections id = some conn)
    {through : Bool} (takes : session.clipboardEvent id through conn = some next) : SvcInv next := by
  unfold SvcSession.clipboardEvent at takes
  split at takes
  · next data asked =>
    have notPending := inv.not_pending found (by rw [asked]; exact fun same => by cases same)
    split_ifs at takes
    · cases takes
      exact inv.refuse _ found asked notPending (fun fits => ⟨fits, Or.inr rfl⟩)
        (Or.inr ⟨by decide, rfl⟩)
    · cases takes
      exact inv.answer [clipboardReplyDelivered] [.clipboardSet data] through found asked notPending
        (fun fits => ⟨fits, Or.inl rfl⟩) (Or.inl ⟨rfl, rfl⟩)
  · next asked =>
    split_ifs at takes with waits unable
    · cases takes
      exact inv.refuse [] found asked waits (fun fits => fits) (Or.inl rfl)
    · cases takes
      obtain ⟨dropped, idle, client, -, sent, others⟩ := inv.dropPaste
      rw [← sent]
      refine dropped.takePaste (session.now + 5) through (others id conn waits found) asked idle ?_
      rw [client]
      exact (not_or.mp unable).1
  · cases takes

/-- A URL's event keeps all in order. -/
theorem SvcInv.openEvent (inv : SvcInv session) (found : session.connections id = some conn)
    {through : Bool} (takes : session.openEvent id through conn = some next) : SvcInv next := by
  unfold SvcSession.openEvent at takes
  split at takes
  · next url asked =>
    have notPending := inv.not_pending found (by rw [asked]; exact fun same => by cases same)
    split at takes
    · cases takes
      exact inv.answer [0x01] [.openUrl url] through found asked notPending
        (fun fits => ⟨fits, Or.inl rfl⟩) (Or.inl ⟨rfl, rfl⟩)
    · cases takes
      exact inv.refuse _ found asked notPending (fun fits => ⟨fits, Or.inr (Or.inl rfl)⟩)
        (Or.inr ⟨by decide, rfl⟩)
  · cases takes

/-- A program connects. What is too large to be copied is refused by the program itself. -/
theorem SvcInv.connect (inv : SvcInv session) {program : SvcProgram} {refused : Bool}
    (large : ∀ data, program = .copy data → clipboardMaxBytes < data.length → refused = true)
    (small : refused = true → ∃ data, program = .copy data ∧ clipboardMaxBytes < data.length) :
    SvcInv { session.update session.accepted {
        program, arrived := [], eof := refused, task := .accepted
        outcome := if refused then some .tooLarge else none } with
      accepted := session.accepted + 1 } := by
  -- The new connection was not there before, so nothing was sent for it yet.
  have unknown := inv.fresh session.accepted le_rfl
  refine ⟨?_, ?_, ?_, ?_, ?_, inv.deadline, inv.attached, ?_⟩
  · intro other late
    have late' : session.accepted + 1 ≤ other := late
    exact (Function.update_of_ne (by omega) ..).trans (inv.fresh other (by omega))
  · intro entry among
    have known := inv.known entry among
    have elsewhere : entry.1 ≠ session.accepted := fun same => known (same ▸ unknown)
    exact fun none_ => known ((Function.update_of_ne elsewhere ..).symm.trans none_)
  · intro other conn' there
    have there' : Function.update session.connections session.accepted _ other = some conn' := there
    by_cases same : other = session.accepted
    · rw [same, Function.update_self] at there'
      obtain rfl := Option.some.inj there'
      -- Of the new connection, nothing has arrived.
      refine ⟨List.nil_prefix, ?_, ?_, ?_, trivial, ?_⟩
      · cases refused with
        | true => exact fun _ => rfl
        | false => exact fun told => absurd rfl told
      · cases refused with
        | true => exact fun _ => Or.inr (Or.inl rfl)
        | false => exact fun over_ => by cases over_
      · intro data copies tooLarge
        rw [large data copies tooLarge]
        exact ⟨rfl, rfl, rfl⟩
      · cases refused with
        | true => exact small rfl
        | false => trivial
    · rw [Function.update_of_ne same] at there'
      exact inv.conns other conn' there'
  · intro other conn' there
    have there' : Function.update session.connections session.accepted _ other = some conn' := there
    by_cases same : other = session.accepted
    · rw [same, Function.update_self] at there'
      obtain rfl := Option.some.inj there'
      rw [same]
      exact inv.framesFor_unknown unknown
    · rw [Function.update_of_ne same] at there'
      exact inv.frames other conn' there'
  · intro other waits
    obtain ⟨conn', there, asked⟩ := inv.pending other waits
    have elsewhere : other ≠ session.accepted := fun same => by
      rw [same, unknown] at there
      cases there
    exact ⟨conn', (Function.update_of_ne elsewhere ..).trans there, asked⟩
  · intro isEnded
    refine ⟨(inv.settled isEnded).1, fun other conn' event there => ?_⟩
    have there' : Function.update session.connections session.accepted _ other = some conn' := there
    by_cases same : other = session.accepted
    · rw [same, Function.update_self] at there'
      obtain rfl := Option.some.inj there'
      exact fun asked => by cases asked
    · rw [Function.update_of_ne same] at there'
      exact (inv.settled isEnded).2 other conn' event there'

/-- Programs of this repository are told of copies that are too large by nobody but themselves. -/
theorem ConnFits.told (fits : ConnFits conn) {event : Option SvcEvent} {reply : UInt8} {more : Bytes}
    (untold : conn.outcome = none) (closed : conn.task = .closed event (reply :: more))
    (all : conn.arrived = conn.program.request) : conn.program.told reply ≠ .tooLarge := by
  have task := fits.task
  rw [closed] at task
  cases program : conn.program with
  | openUrl | other =>
    simp only [SvcProgram.told]
    split_ifs <;> exact fun same => by cases same
  | copy data =>
    have arrived : conn.arrived = (SvcProgram.copy data).request := by rw [all, program]
    intro tooLarge
    have isLarge : reply = clipboardReplyTooLarge := by
      simp only [SvcProgram.told] at tooLarge
      split_ifs at tooLarge with delivered large
      exact large
    subst isLarge
    match event, task with
    | none, Or.inl silent_ => cases silent_
    | none, Or.inr ⟨_, _, Or.inl same⟩ => exact absurd (List.head_eq_of_cons_eq same) (by decide)
    | none, Or.inr ⟨rest, shape, Or.inr ⟨_, large⟩⟩ =>
      -- The session takes no less than the program does.
      have whole : 5 :: 1 :: rest = 5 :: 1 :: data := shape.symm.trans arrived
      rw [List.cons.injEq, List.cons.injEq] at whole
      have told := (fits.size data program (whole.2.2 ▸ large)).1
      exact Option.some_ne_none _ (told.symm.trans untold)
    | some (.copy _), ⟨_, Or.inl same⟩ => exact absurd (List.head_eq_of_cons_eq same) (by decide)
    | some (.copy _), ⟨_, Or.inr same⟩ => exact absurd (List.head_eq_of_cons_eq same) (by decide)
    | some .paste, event_ =>
      have pastes : EventFits conn .paste := event_
      cases pastes.of_copy arrived
    | some (.url _), ⟨event_, _⟩ => cases event_.of_copy arrived

/-- Whatever waits when the session ends is told so, truthfully. -/
theorem ConnFits.ended (fits : ConnFits conn) : ConnFits (SvcSession.told conn) := by
  have task := fits.task
  unfold SvcSession.told
  split
  · next data asked =>
    rw [asked] at task
    exact fits.answered asked ⟨task, Or.inr rfl⟩
  · next event other asked =>
    rw [asked] at task
    refine fits.answered asked ?_
    cases event with
    | copy data => exact absurd rfl (other data)
    | paste => exact task
    | url url => exact ⟨task, Or.inr (Or.inr rfl)⟩
  · exact fits

/-- A connection that is told of the end waits for nothing. -/
theorem FramesFit.ended {frames : List Frame} {waits : Prop}
    (shown : FramesFit frames waits conn.task) :
    FramesFit frames False (SvcSession.told conn).task := by
  unfold SvcSession.told
  split
  · next data asked =>
    rw [asked] at shown
    exact Or.inr ⟨by decide, shown⟩
  · next event other asked =>
    rw [asked] at shown
    cases event with
    | copy data => exact absurd rfl (other data)
    | paste => exact shown.elim (fun got => Or.inr got.2) fun nothing => Or.inl nothing.2
    | url url => exact Or.inr ⟨(List.cons_ne_nil _ _).symm, shown⟩
  · next notAsked other =>
    cases task : conn.task with
    | asked event => exact absurd task (other event)
    | accepted | readsUrl | clipboard | copying =>
      rw [task] at shown
      exact shown
    | closed event reply =>
      rw [task] at shown
      match event, shown with
      | none, shown => exact shown
      | some (.copy _), shown => exact shown
      | some .paste, shown => exact shown
      | some (.url _), shown => exact shown

/-- The end of the session keeps all in order. -/
theorem SvcInv.ends (inv : SvcInv session) : SvcInv session.ends := by
  have there_ : ∀ {id conn'}, (session.connections id).map SvcSession.told = some conn' →
      ∃ conn, session.connections id = some conn ∧ SvcSession.told conn = conn' := fun there =>
    Option.map_eq_some_iff.mp there
  refine ⟨fun id late => ?_, fun entry among none_ => ?_, fun id conn' there => ?_,
    fun id conn' there => ?_, (fun id waits => by cases waits), rfl, fun _ => rfl,
    fun _ => ⟨rfl, fun id conn' event there asked => ?_⟩⟩
  · show (session.connections id).map SvcSession.told = none
    rw [inv.fresh id late]
    rfl
  · exact inv.known entry among (Option.map_eq_none_iff.mp none_)
  · obtain ⟨conn, found, rfl⟩ := there_ there
    exact (inv.conns id conn found).ended
  · obtain ⟨conn, found, rfl⟩ := there_ there
    have shown := (inv.frames id conn found).ended
    have same : (none = some id) = False := eq_false (Option.some_ne_none id).symm
    show FramesFit (session.framesFor id) (none = some id) _
    rwa [same]
  · obtain ⟨conn, found, rfl⟩ := there_ there
    unfold SvcSession.told at asked
    split at asked
    · cases asked
    · cases asked
    · next notAsked other => exact other event asked

/-- A step of a program changes its own connection. -/
theorem SvcSession.program_cases {change : SvcConnection → Option SvcConnection}
    (changed : session.program id change = some next) : ∃ conn after,
      session.connections id = some conn ∧ change conn = some after ∧
        next = session.update id after := by
  obtain ⟨after, changes, rfl⟩ := Option.map_eq_some_iff.mp changed
  obtain ⟨conn, found, changes⟩ := Option.bind_eq_some_iff.mp changes
  exact ⟨conn, after, found, changes, rfl⟩

/-- A program is told something, or is gone, and says no more. -/
theorem ConnFits.knows (fits : ConnFits conn) {outcome : SvcOutcome}
    (kept : ∀ before, conn.outcome = some before → outcome = before)
    (whole : outcome = .failed ∨ outcome = .tooLarge ∨ conn.arrived = conn.program.request)
    (known : OutcomeFits conn (some outcome)) :
    ConnFits { conn with eof := true, outcome := some outcome } where
  arrives := fits.arrives
  silent := fun _ => rfl
  whole := fun _ => whole.imp (congrArg some) (Or.imp_left (congrArg some))
  size data copies large := by
    obtain ⟨told, -, arrived⟩ := fits.size data copies large
    exact ⟨congrArg some (kept _ told), rfl, arrived⟩
  task := fits.task.knows fun failed => congrArg some (kept _ failed)
  outcome := by
    cases outcome with
    | tooLarge | done | notDone | unconfirmed | failed => exact known

/-- Every step keeps all in order. -/
theorem SvcInv.step (inv : SvcInv session) {action : SvcAction}
    (stepped : session.step action = some next) : SvcInv next := by
  cases action with
  | connect program =>
    cases stepped
    refine inv.connect ?_ ?_
    · rintro data rfl large
      exact decide_eq_true large
    · intro refused
      cases program with
      | copy data => exact ⟨data, rfl, of_decide_eq_true refused⟩
      | openUrl | other => cases refused
  | writes id bytes =>
    obtain ⟨conn, after, found, changes, rfl⟩ := SvcSession.program_cases stepped
    have fits := inv.conns id conn found
    split_ifs at changes with over_
    cases changes
    -- Who has been told something writes no more.
    have goesOn : conn.eof = false := Bool.eq_false_iff.mpr over_
    have untold : conn.outcome = none := by
      by_contra told
      exact over_ (fits.silent told)
    have more : conn.arrived <+: conn.program.request.take (conn.arrived.length + bytes) := by
      obtain ⟨later, whole⟩ := fits.arrives
      rw [← whole, List.take_length_add_append]
      exact List.prefix_append ..
    refine inv.program _ found ⟨List.take_prefix .., fits.silent, ?_, ?_, ?_, ?_⟩ rfl
    · exact fun eof => absurd (goesOn.symm.trans eof) Bool.false_ne_true
    · intro data copies large
      exact absurd (goesOn.symm.trans (fits.size data copies large).2.1) Bool.false_ne_true
    · exact fits.task.writes more goesOn
    · show OutcomeFits _ conn.outcome
      rw [untold]
      trivial
  | shuts id =>
    obtain ⟨conn, after, found, changes, rfl⟩ := SvcSession.program_cases stepped
    have fits := inv.conns id conn found
    -- Only a program with all of its request written shuts its end.
    have shut : conn.arrived = conn.program.request ∧ after = { conn with eof := true } := by
      split at changes
      · cases changes
      · split_ifs at changes with all
        exact ⟨all, (Option.some.inj changes).symm⟩
    obtain ⟨all, rfl⟩ := shut
    refine inv.program _ found ⟨fits.arrives, fun _ => rfl, fun _ => Or.inr (Or.inr all), ?_, ?_, ?_⟩ rfl
    · intro data copies large
      exact ⟨(fits.size data copies large).1, rfl, (fits.size data copies large).2.2⟩
    · exact fits.task.knows fun failed => failed
    · have known := fits.outcome
      show OutcomeFits _ conn.outcome
      cases outcome : conn.outcome with
      | none => trivial
      | some outcome' =>
        rw [outcome] at known
        cases outcome' with
        | tooLarge | done | notDone | unconfirmed | failed => exact known
  | dies id =>
    obtain ⟨conn, after, found, changes, rfl⟩ := SvcSession.program_cases stepped
    have fits := inv.conns id conn found
    cases changes
    refine inv.program _ found (fits.knows ?_ ?_ ?_) rfl
    · intro before told
      rw [told]
      rfl
    · cases told : conn.outcome with
      | none => exact Or.inl rfl
      | some before =>
        -- A program that was told something had written all of its request, or was refused.
        have whole := fits.whole (fits.silent (told ▸ Option.some_ne_none before))
        rw [told, Option.some.injEq, Option.some.injEq] at whole
        exact whole
    · have known := fits.outcome
      cases told : conn.outcome with
      | none => trivial
      | some before =>
        rw [told] at known
        exact known
  | taskStarts id =>
    obtain ⟨conn, found, starts⟩ := Option.bind_eq_some_iff.mp stepped
    exact inv.taskStarts found starts
  | taskReads id shares =>
    obtain ⟨conn, found, reads⟩ := Option.bind_eq_some_iff.mp stepped
    exact inv.taskReads found reads
  | hears id =>
    obtain ⟨conn, after, found, changes, rfl⟩ := SvcSession.program_cases stepped
    have fits := inv.conns id conn found
    split at changes
    · next event reply more untold closed =>
      split_ifs at changes with all
      -- The program takes its answer from the task that has closed.
      cases changes
      refine inv.program _ found (fits.knows ?_ (Or.inr (Or.inr all)) ?_) rfl
      · intro before told
        cases untold.symm.trans told
      · have notTooLarge := fits.told untold closed all
        cases told : conn.program.told reply with
        | tooLarge => exact absurd told notTooLarge
        | done | notDone => exact ⟨all, event, reply, more, closed, told⟩
        | unconfirmed | failed => trivial
    · cases changes
  | waitsNoLonger id =>
    obtain ⟨conn, after, found, changes, rfl⟩ := SvcSession.program_cases stepped
    have fits := inv.conns id conn found
    split_ifs at changes with waits
    cases changes
    refine inv.program _ found (fits.knows ?_ (Or.inr (Or.inr waits.2)) trivial) rfl
    intro before told
    cases waits.1.symm.trans told
  | attach capabilities =>
    simp only [SvcSession.step] at stepped
    split_ifs at stepped with isEnded
    cases stepped
    -- The client that is displaced leaves its paste unanswered.
    obtain ⟨dropped, idle, -, ended, -⟩ := inv.dropPaste
    refine { dropped with attached := ?_, settled := fun isEnded' => ?_ }
    · exact fun none_ => by cases none_
    · exact absurd (ended.symm.trans isEnded') isEnded
  | openForward =>
    simp only [SvcSession.step] at stepped
    split at stepped
    · next client attached =>
      cases stepped
      refine { inv with attached := ?_, settled := fun isEnded => ?_ }
      · exact fun none_ => by cases none_
      · rw [(inv.settled isEnded).1] at attached
        cases attached
    · cases stepped
  | detach =>
    simp only [SvcSession.step] at stepped
    split_ifs at stepped
    cases stepped
    obtain ⟨dropped, idle, -, -, -⟩ := inv.dropPaste
    exact { dropped with
      attached := fun _ => idle, settled := fun isEnded => ⟨rfl, (dropped.settled isEnded).2⟩ }
  | clipboardEvent id through =>
    obtain ⟨conn, found, takes⟩ := Option.bind_eq_some_iff.mp stepped
    exact inv.clipboardEvent found takes
  | openEvent id through =>
    obtain ⟨conn, found, takes⟩ := Option.bind_eq_some_iff.mp stepped
    exact inv.openEvent found takes
  | clipboardData data =>
    simp only [SvcSession.step] at stepped
    split_ifs at stepped
    split at stepped
    -- The paste that waits gets what the client sent.
    · next id waits =>
      cases stepped
      exact inv.answerPaste waits data
    · next idle =>
      cases stepped
      refine { inv with deadline := ?_ }
      show session.pendingPaste.isSome = _
      rw [idle]
  | passes time =>
    cases stepped
    exact { inv with }
  | pasteExpires =>
    simp only [SvcSession.step] at stepped
    split at stepped
    · split_ifs at stepped
      cases stepped
      exact inv.dropPaste.1
    · cases stepped
  | ends =>
    simp only [SvcSession.step] at stepped
    split_ifs at stepped
    cases stepped
    exact inv.ends

/-- What is asked on a connection is what its program asks for. -/
theorem EventFits.of_program {event : SvcEvent} (fits : EventFits conn event)
    (arrives : conn.arrived <+: conn.program.request) :
    (∀ data, conn.program = .copy data → ∃ part, event = .copy part) ∧
      ∀ url, conn.program = .openUrl url → ∃ part, event = .url part := by
  have head : ∀ {first : UInt8} {rest request : Bytes}, conn.arrived = first :: rest →
      conn.program.request = request → request.head? = some first := by
    intro first rest request arrived isRequest
    obtain ⟨later, whole⟩ := arrives
    rw [← isRequest, ← whole, arrived]
    rfl
  have second : ∀ {first other : UInt8} {rest request : Bytes}, conn.arrived = first :: other :: rest →
      conn.program.request = request → request[1]? = some other := by
    intro first other rest request arrived isRequest
    obtain ⟨later, whole⟩ := arrives
    rw [← isRequest, ← whole, arrived]
    rfl
  refine ⟨fun data program => ?_, fun url program => ?_⟩
  · have request : conn.program.request = 5 :: 1 :: data := by rw [program]; rfl
    cases event with
    | copy part => exact ⟨part, rfl⟩
    | paste =>
      obtain ⟨rest, arrived⟩ := fits
      exact absurd (Option.some.inj (second arrived request)) (by decide)
    | url =>
      obtain ⟨⟨rest, arrived⟩, -⟩ := fits
      exact absurd (Option.some.inj (head arrived request)) (by decide)
  · have request : conn.program.request = 1 :: (utf8 url ++ [10]) := by rw [program]; rfl
    cases event with
    | copy part => exact absurd (Option.some.inj (head fits.2.1 request)) (by decide)
    | paste =>
      obtain ⟨rest, arrived⟩ := fits
      exact absurd (Option.some.inj (head arrived request)) (by decide)
    | url part => exact ⟨part, rfl⟩

/-- Nothing was sent for a connection, or what it asked for was, and its task has said so. -/
theorem SvcInv.framesFor_cases (inv : SvcInv session) (found : session.connections id = some conn) :
    session.framesFor id = [] ∨
      (EventFits conn .paste ∧ session.framesFor id = [.clipboardGet]) ∨
      (∃ data, conn.task = .closed (some (.copy data)) [clipboardReplyDelivered] ∧
        EventFits conn (.copy data) ∧ session.framesFor id = [.clipboardSet data]) ∨
      ∃ url, conn.task = .closed (some (.url url)) [0x01] ∧ EventFits conn (.url url) ∧
        session.framesFor id = [.openUrl url] := by
  have fits := (inv.conns id conn found).task
  have shown := inv.frames id conn found
  cases task : conn.task with
  | accepted | readsUrl | clipboard | copying =>
    rw [task] at shown
    exact Or.inl shown
  | asked event =>
    rw [task] at shown fits
    cases event with
    | copy | url => exact Or.inl shown
    | paste => exact shown.elim (fun got => Or.inr (Or.inl ⟨fits, got.2⟩)) fun nothing => Or.inl nothing.2
  | closed event reply =>
    rw [task] at shown fits
    match event, shown, fits with
    | none, shown, _ => exact Or.inl shown
    | some (.copy data), Or.inl ⟨told, sent⟩, fits =>
      exact Or.inr (Or.inr (Or.inl ⟨data, by rw [told], fits.1, sent⟩))
    | some (.copy data), Or.inr nothing, _ => exact Or.inl nothing.2
    | some .paste, Or.inl nothing, _ => exact Or.inl nothing
    | some .paste, Or.inr got, fits => exact Or.inr (Or.inl ⟨fits, got⟩)
    | some (.url url), Or.inl ⟨told, sent⟩, fits =>
      exact Or.inr (Or.inr (Or.inr ⟨url, by rw [told], fits.1, sent⟩))
    | some (.url url), Or.inr nothing, _ => exact Or.inl nothing.2

/-- What a program copied went to a client as a whole, unless the program was gone too early. -/
theorem SvcInv.copied (inv : SvcInv session) {data : Bytes}
    (found : session.connections id = some conn) (copies : conn.program = .copy data) :
    session.framesFor id = [] ∨ (conn.outcome = some .failed ∨
      session.framesFor id = [.clipboardSet data]) ∧
        ∃ part, conn.task = .closed (some (.copy part)) [clipboardReplyDelivered] := by
  have fits := inv.conns id conn found
  rcases inv.framesFor_cases found with nothing | ⟨event, -⟩ | ⟨part, task, event, sent⟩ | ⟨url, -, event, -⟩
  · exact Or.inl nothing
  · obtain ⟨part, same⟩ := (event.of_program fits.arrives).1 data copies
    cases same
  · refine Or.inr ⟨?_, part, task⟩
    obtain ⟨eof, arrived, -⟩ := event
    rcases fits.whole eof with failed | tooLarge | all
    · exact Or.inl failed
    · have known := fits.outcome
      rw [tooLarge] at known
      obtain ⟨other, isCopy, large⟩ := known
      have none_ := (fits.size other isCopy large).2.2
      exact absurd (arrived.symm.trans none_) (List.cons_ne_nil _ _)
    · right
      have whole : 5 :: 1 :: part = 5 :: 1 :: data := by
        rw [← arrived, all, copies]
        rfl
      rw [List.cons.injEq, List.cons.injEq] at whole
      rw [sent, whole.2.2]
  · obtain ⟨part, same⟩ := (event.of_program fits.arrives).1 data copies
    cases same

/-- A program is told that its copy is done by the session alone, which then sent it. -/
theorem SvcInv.copied_done (inv : SvcInv session) {data : Bytes} {event : Option SvcEvent}
    {reply : UInt8} {more : Bytes} (found : session.connections id = some conn)
    (copies : conn.program = .copy data) (all : conn.arrived = conn.program.request)
    (closed : conn.task = .closed event (reply :: more)) (told : conn.program.told reply = .done) :
    session.framesFor id = [.clipboardSet data] := by
  have fits := (inv.conns id conn found).task
  have shown := inv.frames id conn found
  have arrived : conn.arrived = (SvcProgram.copy data).request := by rw [all, copies]
  rw [closed] at fits shown
  rw [copies] at told
  match event, fits, shown with
  | none, Or.inl silent, _ => cases silent
  | none, Or.inr ⟨_, _, Or.inl same⟩, _ =>
    rw [List.head_eq_of_cons_eq same] at told
    cases told
  | none, Or.inr ⟨_, _, Or.inr ⟨same, _⟩⟩, _ =>
    rw [List.head_eq_of_cons_eq same] at told
    cases told
  | some (.copy part), ⟨asked, _⟩, Or.inl ⟨_, sent⟩ =>
    cases asked.of_copy arrived
    exact sent
  | some (.copy part), ⟨_, Or.inl same⟩, Or.inr ⟨other, _⟩ => exact absurd same other
  | some (.copy part), ⟨_, Or.inr same⟩, Or.inr _ =>
    rw [List.head_eq_of_cons_eq same] at told
    cases told
  | some .paste, fits, _ =>
    have asked : EventFits conn .paste := fits
    cases asked.of_copy arrived
  | some (.url _), ⟨asked, _⟩, _ => cases asked.of_copy arrived

/-- So is it told that its address is opened. -/
theorem SvcInv.opened_done (inv : SvcInv session) {url : String} {event : Option SvcEvent}
    {reply : UInt8} {more : Bytes} (found : session.connections id = some conn)
    (opens : conn.program = .openUrl url) (closed : conn.task = .closed event (reply :: more))
    (told : conn.program.told reply = .done) : session.framesFor id ≠ [] := by
  have fits := inv.conns id conn found
  have task := fits.task
  have shown := inv.frames id conn found
  rw [closed] at task shown
  rw [opens] at told
  match event, task, shown with
  | none, Or.inl silent, _ => cases silent
  | none, Or.inr ⟨rest, arrived, _⟩, _ =>
    -- A request to open an address is no request about the clipboard.
    have part := fits.arrives
    rw [arrived, opens] at part
    exact absurd (List.cons_prefix_cons.mp part).1 (by decide)
  | some (.copy _), ⟨asked, _⟩, _ =>
    obtain ⟨part, same⟩ := (asked.of_program fits.arrives).2 url opens
    cases same
  | some .paste, task, _ =>
    have asked : EventFits conn .paste := task
    obtain ⟨part, same⟩ := (asked.of_program fits.arrives).2 url opens
    cases same
  | some (.url _), _, Or.inl ⟨_, sent⟩ =>
    rw [sent]
    exact List.cons_ne_nil _ _
  | some (.url _), ⟨_, Or.inl same⟩, Or.inr ⟨other, _⟩ => exact absurd same other
  | some (.url _), ⟨_, Or.inr (Or.inl same)⟩, Or.inr _ =>
    rw [List.head_eq_of_cons_eq same] at told
    cases told
  | some (.url _), ⟨_, Or.inr (Or.inr same)⟩, Or.inr _ => cases same

/-- The address a program gave is what was opened, unless the program was gone too early. -/
theorem SvcInv.opened (inv : SvcInv session) {url : String}
    (found : session.connections id = some conn) (opens : conn.program = .openUrl url)
    (oneLine : 10 ∉ utf8 url) :
    session.framesFor id = [] ∨ (conn.outcome = some .failed ∨
      session.framesFor id = [.openUrl (sentUrl url)]) ∧
        ∃ part, conn.task = .closed (some (.url part)) [0x01] := by
  have fits := inv.conns id conn found
  rcases inv.framesFor_cases found with nothing | ⟨event, -⟩ | ⟨data, -, event, -⟩ | ⟨part, task, event, sent⟩
  · exact Or.inl nothing
  · obtain ⟨part, same⟩ := (event.of_program fits.arrives).2 url opens
    cases same
  · obtain ⟨part, same⟩ := (event.of_program fits.arrives).2 url opens
    cases same
  · refine Or.inr ⟨(event.2 url opens oneLine).imp_right fun same => ?_, part, task⟩
    rw [sent, same]

end

/-- What programs in a session can rely on when they ask something of its client. -/
structure SvcTruthful (session : SvcSession) : Prop where
  /-- A copy that is reported done was sent to a client once, with all that was copied, whether or not that
  came through, and one that is reported not done was not sent. No part of a copy is ever sent while its
  program is there. -/
  copied : ∀ id conn data, session.connections id = some conn → conn.program = .copy data →
    (conn.outcome = some .done →
      ∃ through, session.sendsFor id = [{ id, frame := .clipboardSet data, through }]) ∧
    (conn.outcome = some .notDone → session.sendsFor id = []) ∧
    (session.sendsFor id = [] ∨ conn.outcome = some .failed ∨
      ∃ through, session.sendsFor id = [{ id, frame := .clipboardSet data, through }])
  /-- A copy is reported too large if it is, and no larger contents are ever sent. -/
  sizes : ∀ id conn data, session.connections id = some conn → conn.program = .copy data →
    (conn.outcome = some .tooLarge ↔ clipboardMaxBytes < data.length)
  small : ∀ send ∈ session.sends, ∀ data, send.frame = .clipboardSet data →
    data ≠ [] ∧ data.length ≤ clipboardMaxBytes
  /-- So it is with an address, of which the first bytes count if there are too many. -/
  opened : ∀ id conn url, session.connections id = some conn → conn.program = .openUrl url →
    10 ∉ utf8 url →
    (conn.outcome = some .done →
      (∃ through, session.sendsFor id = [{ id, frame := .openUrl (sentUrl url), through }]) ∧
      ((utf8 url).length ≤ urlMaxLen → sentUrl url = trimmed url)) ∧
    (conn.outcome = some .notDone → session.sendsFor id = []) ∧
    (session.sendsFor id = [] ∨ conn.outcome = some .failed ∨
      ∃ through, session.sendsFor id = [{ id, frame := .openUrl (sentUrl url), through }])
  /-- One paste waits at most, of a client that is there, and not for ever. -/
  pastes : session.pendingPaste.isSome = session.pasteDeadline.isSome ∧
    (session.client = none → session.pendingPaste = none)
  /-- Nobody waits for a session that has ended. -/
  settled : session.ended = true → ∀ id conn event, session.connections id = some conn →
    conn.task ≠ .asked event

/-- A copy of two bytes, as it goes when a client is attached. -/
def copiesTwoBytes : List SvcAction :=
  [.attach capClipboard, .connect (.copy [104, 105]), .writes 0 3, .taskStarts 0, .taskStarts 0,
    .writes 0 9, .shuts 0, .taskReads 0 { most := fun _ => 0, room := fun _ => 0 },
    .clipboardEvent 0 true, .hears 0]

/-- The program is told the same when the frame does not come through. -/
example :
    let actions := copiesTwoBytes.map fun action =>
      match action with
      | .clipboardEvent id _ => .clipboardEvent id false
      | other => other
    (svcMachine.run svcMachine.init actions).map (fun session =>
      ((session.connections 0).bind (·.outcome), session.sends)) =
        some (some .done, [{ id := 0, frame := .clipboardSet [104, 105], through := false }]) := by
  decide +kernel

end Gritty
