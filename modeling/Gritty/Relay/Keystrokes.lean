import Gritty.Relay.Escape

/-! The user's input, read as a whole, and what the escape processor makes of it read by read. -/

namespace Gritty

/-- A part of the input that is understood at once. -/
inductive InputToken where
  | plain (byte : UInt8)
  /-- A tilde at the beginning of a line, and the byte behind it. -/
  | escape (byte : UInt8)
  deriving DecidableEq

/-- The actions that escapes stand for, by the byte behind the tilde. -/
def escapeActions : List (UInt8 × EscapeAction) :=
  [(0x2e, .detach), (0x52, .reconnect), (0x4b, .pin), (0x1a, .suspend), (0x23, .status),
    (0x3f, .help)]

namespace InputToken

/-- The input a token was read from. -/
def spelling : InputToken → Bytes
  | .plain byte => [byte]
  | .escape byte => [tilde, byte]

/-- What a token does. Data is given byte by byte. -/
def meaning : InputToken → List EscapeAction
  | .plain byte => [.data [byte]]
  | .escape byte =>
    match escapeActions.lookup byte with
    | some action => [action]
    | none => if byte = tilde then [.data [tilde]] else [.data [tilde], .data [byte]]

/-- The input behind a token is not read. -/
def stops (token : InputToken) : Bool := token.meaning.any EscapeAction.stops

end InputToken

/-- A new line begins behind this byte. -/
def endsLine (byte : UInt8) : Bool := byte == 0x0a || byte == 0x0d

/-- Some tokens, and then what else is read. -/
def afterTokens (tokens : List InputToken) (read : List InputToken × Bytes) :
    List InputToken × Bytes :=
  (tokens ++ read.1, read.2)

/-- The tokens of an input, and the bytes that are not read: those behind a token that stops, or a tilde at
the end that may begin an escape. -/
def tokenize : Bool → Bytes → List InputToken × Bytes
  | _, [] => ([], [])
  | lineBegins, byte :: later =>
    if lineBegins = true ∧ byte = tilde then
      match later with
      | [] => ([], [tilde])
      | second :: later =>
        if (InputToken.escape second).stops then ([.escape second], later)
        else afterTokens [.escape second] (tokenize (endsLine second) later)
    else afterTokens [.plain byte] (tokenize (endsLine byte) later)

/-- Actions with their data byte by byte, so that it does not count how data was grouped. -/
def keystrokes (actions : List EscapeAction) : List EscapeAction :=
  actions.flatMap fun action =>
    match action with
    | .data bytes => bytes.map fun byte => .data [byte]
    | other => [other]

namespace InputToken

/-- Only an escape stops. -/
theorem stops_plain (byte : UInt8) : (plain byte).stops = false := rfl

end InputToken

section Tokens

/-- A byte that is no tilde at the beginning of a line is a plain one. -/
theorem tokenize_plain {lineBegins : Bool} {byte : UInt8}
    (plain : ¬ (lineBegins = true ∧ byte = tilde)) (later : Bytes) :
    tokenize lineBegins (byte :: later) =
      afterTokens [.plain byte] (tokenize (endsLine byte) later) := by
  cases later with
  | nil => exact if_neg plain
  | cons second later => exact if_neg plain

theorem tokenize_escape (second : UInt8) (later : Bytes) :
    tokenize true (tilde :: second :: later) =
      if (InputToken.escape second).stops then ([.escape second], later)
      else afterTokens [.escape second] (tokenize (endsLine second) later) := rfl

/-- No byte of the input is lost, invented or moved. -/
theorem tokenize_spelling (lineBegins : Bool) (input : Bytes) :
    (tokenize lineBegins input).1.flatMap InputToken.spelling ++ (tokenize lineBegins input).2 =
      input := by
  -- The induction is that of the tokens: one byte, or two of them in an escape.
  induction lineBegins, input using tokenize.induct with
  | case1 lineBegins => rfl
  -- A tilde at the end is what is not read.
  | case2 lineBegins byte escapes =>
    obtain ⟨rfl, rfl⟩ := escapes
    rfl
  | case3 lineBegins byte escapes second later stops =>
    obtain ⟨rfl, rfl⟩ := escapes
    -- An escape that stops leaves all the rest unread.
    rw [tokenize_escape, if_pos stops]
    rfl
  | case4 lineBegins byte escapes second later goesOn ih =>
    obtain ⟨rfl, rfl⟩ := escapes
    rw [tokenize_escape, if_neg goesOn, afterTokens, List.flatMap_append, List.append_assoc, ih]
    rfl
  | case5 lineBegins byte later plain ih =>
    rw [tokenize_plain plain, afterTokens, List.flatMap_append, List.append_assoc, ih]
    rfl

/-- Only the last token can stop. -/
theorem tokenize_stops (lineBegins : Bool) (input : Bytes) :
    ∀ token ∈ (tokenize lineBegins input).1.dropLast, token.stops = false := by
  -- One token more in front does no harm as long as it goes on.
  have later {first : InputToken} (goesOn : first.stops = false) {tokens : List InputToken}
      (ih : ∀ token ∈ tokens.dropLast, token.stops = false) :
      ∀ token ∈ (first :: tokens).dropLast, token.stops = false := by
    cases tokens with
    | nil => exact fun _ none => absurd none List.not_mem_nil
    | cons second tokens =>
      rw [List.dropLast_cons_cons]
      exact List.forall_mem_cons.mpr ⟨goesOn, ih⟩
  induction lineBegins, input using tokenize.induct with
  | case1 lineBegins => exact fun _ none => absurd none List.not_mem_nil
  | case2 lineBegins byte escapes =>
    obtain ⟨rfl, rfl⟩ := escapes
    exact fun _ none => absurd none List.not_mem_nil
  | case3 lineBegins byte escapes second later stops =>
    obtain ⟨rfl, rfl⟩ := escapes
    rw [tokenize_escape, if_pos stops]
    exact fun _ none => absurd none List.not_mem_nil
  | case4 lineBegins byte escapes second rest goesOn ih =>
    obtain ⟨rfl, rfl⟩ := escapes
    rw [tokenize_escape, if_neg goesOn]
    exact later (Bool.eq_false_of_not_eq_true goesOn) ih
  | case5 lineBegins byte rest plain ih =>
    rw [tokenize_plain plain]
    exact later (InputToken.stops_plain byte) ih

end Tokens

/-- The tokens of the input that follows a state of the processor. -/
def tokensFrom : EscapeState → Bytes → List InputToken × Bytes
  | .normal, input => tokenize false input
  | .afterNewline, input => tokenize true input
  | .afterTilde, input => tokenize true (tilde :: input)

/-- Some input takes the processor from one state to another. It is read as some tokens, of which the last
one may stop. -/
structure Advances (state next : EscapeState) (input : Bytes) (tokens : List InputToken)
    (stopped : Bool) : Prop where
  stops : tokens.any InputToken.stops = stopped
  goesOn : stopped = false → ∀ more,
    tokensFrom state (input ++ more) = afterTokens tokens (tokensFrom next more)
  ends : stopped = true → ∀ more, ∃ rest, tokensFrom state (input ++ more) = (tokens, rest)
  /-- A processor that is detached stays as it was, and one that reconnects is on a line. -/
  left : stopped = true →
    next = if .detach ∈ tokens.flatMap InputToken.meaning then .afterTilde else .normal

namespace Advances

theorem refl (state : EscapeState) : Advances state state [] [] false where
  stops := rfl
  goesOn _ _ := rfl
  -- Nothing was read, so nothing has stopped.
  ends stopped := by cases stopped
  left stopped := by cases stopped

/-- Tokens that do not stop do not detach. -/
theorem detach_notMem {tokens : List InputToken} (goesOn : tokens.any InputToken.stops = false) :
    EscapeAction.detach ∉ tokens.flatMap InputToken.meaning := by
  intro among
  obtain ⟨token, member, detaches⟩ := List.mem_flatMap.mp among
  have stops : token.stops = true := List.any_eq_true.mpr ⟨.detach, detaches, rfl⟩
  exact List.any_eq_false.mp goesOn token member stops

/-- What is read after what was read advances the state by both. -/
theorem trans {first second third : EscapeState} {input more : Bytes}
    {tokens others : List InputToken} {stopped : Bool}
    (now : Advances first second input tokens false)
    (later : Advances second third more others stopped) :
    Advances first third (input ++ more) (tokens ++ others) stopped where
  stops := by rw [List.any_append, now.stops, later.stops, Bool.false_or]
  goesOn goesOn rest := by
    rw [List.append_assoc, now.goesOn rfl, later.goesOn goesOn]
    show (tokens ++ (others ++ _), _) = (tokens ++ others ++ _, _)
    rw [List.append_assoc]
    rfl
  -- The second part stops, and the first one is in front of it.
  ends stopped rest := by
    obtain ⟨unread, read⟩ := later.ends stopped rest
    exact ⟨unread, by rw [List.append_assoc, now.goesOn rfl, read]; rfl⟩
  left stopped := by
    -- The tokens in front go on, so none of them detaches.
    have none := detach_notMem now.stops
    rw [later.left stopped, List.flatMap_append]
    simp only [List.mem_append, none, false_or]

/-- What follows in the same read does not count any more. -/
theorem unread {state next : EscapeState} {input : Bytes} {tokens : List InputToken}
    (ended : Advances state next input tokens true) (more : Bytes) :
    Advances state next (input ++ more) tokens true where
  stops := ended.stops
  goesOn goesOn := by cases goesOn
  ends _ rest := by
    rw [List.append_assoc]
    exact ended.ends rfl (more ++ rest)
  left := ended.left

/-- At the end of the input, only a tilde can be held back. -/
theorem tokensFrom_nil (state : EscapeState) :
    tokensFrom state [] = ([], if state = .afterTilde then [tilde] else []) := by
  cases state <;> rfl

/-- The states can be told apart by what a tilde would do next. -/
theorem state_eq {state other : EscapeState}
    (same : tokensFrom state [tilde] = tokensFrom other [tilde]) : state = other := by
  -- A tilde is data on a line, starts an escape behind one, and is the second byte of an escape.
  cases state <;> cases other <;> first | rfl | exact absurd same (by decide)

/-- The tokens are those of the whole input. -/
theorem tokens_eq {state next : EscapeState} {input : Bytes} {tokens : List InputToken}
    {stopped : Bool} (advances : Advances state next input tokens stopped) :
    (tokensFrom state input).1 = tokens := by
  cases stopped with
  -- Reading on with nothing gives no more tokens.
  | false =>
    have read := advances.goesOn rfl []
    rw [List.append_nil, tokensFrom_nil] at read
    rw [read]
    exact List.append_nil tokens
  | true =>
    obtain ⟨rest, read⟩ := advances.ends rfl []
    rw [List.append_nil] at read
    rw [read]

/-- How an input is read determines the state behind it. -/
theorem unique {state next other : EscapeState} {input : Bytes}
    {tokens others : List InputToken} {stopped ended : Bool}
    (one : Advances state next input tokens stopped)
    (two : Advances state other input others ended) : next = other ∧ tokens = others := by
  have same : tokens = others := one.tokens_eq.symm.trans two.tokens_eq
  subst same
  obtain rfl : stopped = ended := one.stops.symm.trans two.stops
  refine ⟨?_, rfl⟩
  cases stopped with
  -- A processor that has stopped stands where the tokens say.
  | true => rw [one.left rfl, two.left rfl]
  | false =>
    -- Otherwise it is told by what a tilde would do now.
    have same := (one.goesOn rfl [tilde]).symm.trans (two.goesOn rfl [tilde])
    obtain ⟨tokens, rest⟩ := Prod.mk.inj same
    exact state_eq (Prod.ext (List.append_cancel_left tokens) rest)

end Advances

section Keystrokes

theorem keystrokes_append (first second : List EscapeAction) :
    keystrokes (first ++ second) = keystrokes first ++ keystrokes second := List.flatMap_append

/-- A list of actions ends the relay if it does when data is given byte by byte. -/
theorem keystrokes_stops (actions : List EscapeAction) :
    (keystrokes actions).any EscapeAction.stops = actions.any EscapeAction.stops := by
  induction actions with
  | nil => rfl
  | cons action later ih =>
    have front : (keystrokes [action]).any EscapeAction.stops = action.stops := by
      cases action with
      | data bytes =>
        -- Data ends nothing, however it is cut.
        show ((bytes.map fun byte => EscapeAction.data [byte]) ++ []).any _ = false
        rw [List.append_nil, List.any_map]
        exact List.any_eq_false.mpr fun byte _ => by rintro ⟨⟩
      | _ => rfl
    have split : keystrokes (action :: later) = keystrokes [action] ++ keystrokes later :=
      keystrokes_append [action] later
    rw [split, List.any_append, front, ih, List.any_cons]

/-- What tokens mean has its data byte by byte. -/
theorem meaning_stops (tokens : List InputToken) :
    (tokens.flatMap InputToken.meaning).any EscapeAction.stops = tokens.any InputToken.stops := by
  induction tokens with
  | nil => rfl
  | cons token later ih => rw [List.flatMap_cons, List.any_append, ih, List.any_cons]; rfl

end Keystrokes

namespace EscapeReading

/-- The keystrokes of a read so far, with the input that is still to go out. -/
def emitted (reading : EscapeReading) : List EscapeAction :=
  keystrokes (reading.actions ++ [.data reading.dataBuf])

theorem emitted_eq (reading : EscapeReading) :
    reading.emitted = keystrokes reading.actions ++ reading.dataBuf.map fun byte => .data [byte] := by
  unfold emitted
  rw [keystrokes_append]
  exact congrArg _ (List.append_nil _)

theorem keystrokes_flushPending (reading : EscapeReading) :
    keystrokes reading.flushPending.actions = reading.emitted := by
  unfold flushPending
  split
  · next empty =>
    rw [emitted_eq, List.isEmpty_iff.mp empty]
    exact (List.append_nil _).symm
  · rfl

theorem flushPending_dataBuf (reading : EscapeReading) : reading.flushPending.dataBuf = [] := by
  unfold flushPending
  split
  · next empty => exact List.isEmpty_iff.mp empty
  · rfl

theorem flushPending_state (reading : EscapeReading) : reading.flushPending.state = reading.state := by
  unfold flushPending
  split <;> rfl

/-- A flush emits nothing new. -/
theorem emitted_flushPending (reading : EscapeReading) (state : EscapeState) :
    emitted { reading.flushPending with state } = reading.emitted := by
  rw [emitted_eq]
  -- The flushed reading has nothing left to go out.
  show keystrokes reading.flushPending.actions ++ reading.flushPending.dataBuf.map _ = _
  rw [keystrokes_flushPending, flushPending_dataBuf]
  exact List.append_nil _

/-- Bytes that are kept are emitted behind the others. -/
theorem emitted_keep (reading : EscapeReading) (bytes : Bytes) (state : EscapeState) :
    (reading.keep bytes state).emitted =
      reading.emitted ++ bytes.map fun byte => .data [byte] := by
  rw [emitted_eq, emitted_eq, List.append_assoc]
  show keystrokes reading.actions ++ (reading.dataBuf ++ bytes).map _ = _
  rw [List.map_append]

/-- Data that waits goes out before an action. -/
theorem emitted_act (reading : EscapeReading) {action : EscapeAction} (state : EscapeState)
    (control : keystrokes [action] = [action]) :
    (reading.act action state).emitted = reading.emitted ++ [action] := by
  rw [emitted_eq]
  show keystrokes (reading.flushPending.actions ++ [action]) ++
    reading.flushPending.dataBuf.map _ = _
  -- What waited is out, and the action behind it.
  rw [keystrokes_append, keystrokes_flushPending, control, flushPending_dataBuf]
  exact List.append_nil _

/-- One byte of the processor, with what it does given by the escape it ends. -/
theorem processByte_afterTilde {reading : EscapeReading} (held : reading.state = .afterTilde)
    (byte : UInt8) :
    reading.processByte byte =
      match escapeActions.lookup byte with
      | some action =>
        (reading.act action (if action = .detach then .afterTilde else .normal), action.stops)
      | none =>
        (reading.keep (if byte = tilde then [tilde] else [tilde, byte])
          (if endsLine byte then .afterNewline else .normal), false) := by
  -- The bytes are compared in the order in which the processor compares them.
  unfold processByte
  rw [held]
  dsimp only
  by_cases detach : byte = 0x2e
  · subst detach
    rfl
  by_cases reconnect : byte = 0x52
  · subst reconnect
    rfl
  by_cases pin : byte = 0x4b
  · subst pin
    rfl
  by_cases suspend : byte = 0x1a
  · subst suspend
    rfl
  by_cases status : byte = 0x23
  · subst status
    rfl
  by_cases help : byte = 0x3f
  · subst help
    rfl
  -- No other byte stands for an action.
  have none : escapeActions.lookup byte = none := by
    rw [List.lookup_eq_none_iff]
    simp [escapeActions, detach, reconnect, pin, suspend, status, help]
  rw [if_neg detach, if_neg reconnect, if_neg pin, if_neg suspend, if_neg status, if_neg help, none]
  dsimp only
  -- A second tilde stands for itself, and anything else comes with the tilde in front.
  by_cases literal : byte = tilde
  · subst literal
    rfl
  rw [if_neg literal, if_neg literal]
  by_cases newline : byte = 0x0a ∨ byte = 0x0d
  · rw [if_pos newline, if_pos (by simpa [endsLine] using newline)]
  · rw [if_neg newline, if_neg (by simpa [endsLine] using newline)]

/-- Every action that an escape stands for is one by itself, and no byte of an escape ends a line. -/
theorem escapeActions_spec {byte : UInt8} {action : EscapeAction}
    (found : escapeActions.lookup byte = some action) :
    keystrokes [action] = [action] ∧ endsLine byte = false ∧
      (action = .detach → action.stops = true) := by
  obtain ⟨before, after, split, -⟩ := List.lookup_eq_some_iff.mp found
  have member : (byte, action) ∈ escapeActions := by simp [split]
  -- The table is small, so this is checked entry by entry.
  have all : ∀ entry ∈ escapeActions, keystrokes [entry.2] = [entry.2] ∧
      endsLine entry.1 = false ∧ (entry.2 = .detach → entry.2.stops = true) := by decide
  exact all (byte, action) member

/-- A byte that is kept in the state that follows it. -/
theorem advances_plain {state next : EscapeState} {byte : UInt8}
    (first : ∀ more, tokensFrom state (byte :: more) =
      afterTokens [.plain byte] (tokenize (endsLine byte) more))
    (follows : next = if endsLine byte then .afterNewline else .normal) :
    Advances state next [byte] [.plain byte] false where
  stops := rfl
  goesOn _ more := by
    rw [List.singleton_append, first, follows]
    -- Whether the byte ends a line decides where the next token begins.
    cases endsLine byte <;> rfl
  ends stopped := by cases stopped
  left stopped := by cases stopped

/-- A byte behind a tilde, in the state that follows it. -/
theorem advances_escape {next : EscapeState} (byte : UInt8)
    (follows : next = if (InputToken.escape byte).stops then
      if .detach ∈ (InputToken.escape byte).meaning then .afterTilde else .normal
      else if endsLine byte then .afterNewline else .normal) :
    Advances .afterTilde next [byte] [.escape byte] (InputToken.escape byte).stops where
  stops := by simp
  goesOn goesOn more := by
    have read := tokenize_escape byte more
    rw [goesOn, if_neg Bool.false_ne_true] at follows read
    show tokenize true (tilde :: byte :: more) = _
    rw [read, follows]
    cases endsLine byte <;> rfl
  ends stopped more := by
    have read := tokenize_escape byte more
    rw [stopped, if_pos rfl] at read
    exact ⟨more, read⟩
  left stopped := by
    rw [stopped, if_pos rfl] at follows
    rw [follows, List.flatMap_singleton]

/-- One byte is read as it is understood in the whole input. -/
theorem processByte_advances (reading : EscapeReading) (byte : UInt8) :
    ∃ tokens,
      Advances reading.state (reading.processByte byte).1.state [byte] tokens
        (reading.processByte byte).2 ∧
      (reading.processByte byte).1.emitted =
        reading.emitted ++ tokens.flatMap InputToken.meaning := by
  have newline : endsLine byte = true ↔ byte = 0x0a ∨ byte = 0x0d := by simp [endsLine]
  cases held : reading.state with
  -- On a line every byte is data.
  | normal =>
    have stepped : reading.processByte byte =
        (reading.keep [byte] (if byte = 0x0a ∨ byte = 0x0d then .afterNewline else .normal),
          false) := by
      unfold processByte
      rw [held]
    rw [stepped]
    refine ⟨[.plain byte], advances_plain (fun more => ?_) ?_, emitted_keep ..⟩
    · exact tokenize_plain (by simp) more
    · show (if _ then _ else _) = _
      simp only [newline]
  | afterNewline =>
    unfold processByte
    rw [held]
    dsimp only
    by_cases begins : byte = tilde
    -- The tilde is held back: no token yet, and nothing to emit.
    · rw [if_pos begins, begins]
      refine ⟨[], ⟨rfl, fun _ more => rfl, (by cases ·), (by cases ·)⟩, ?_⟩
      exact (emitted_flushPending ..).trans (List.append_nil _).symm
    -- Any other byte at the beginning of a line is data.
    · have first (more : Bytes) : tokensFrom .afterNewline (byte :: more) =
          afterTokens [.plain byte] (tokenize (endsLine byte) more) :=
        tokenize_plain (fun escape => begins escape.2) more
      rw [if_neg begins]
      split
      · next ended =>
        exact ⟨[.plain byte], advances_plain first (if_pos (newline.mpr ended)).symm,
          emitted_keep ..⟩
      · next onLine =>
        exact ⟨[.plain byte], advances_plain first (if_neg fun is => onLine (newline.mp is)).symm,
          emitted_keep ..⟩
  -- The byte behind a tilde decides what the escape means.
  | afterTilde =>
    rw [processByte_afterTilde held]
    refine ⟨[.escape byte], ?_⟩
    rw [List.flatMap_singleton]
    cases found : escapeActions.lookup byte with
    -- It is one of the client's own.
    | some action =>
      obtain ⟨alone, onLine, detaches⟩ := escapeActions_spec found
      have meaning : (InputToken.escape byte).meaning = [action] := by
        simp only [InputToken.meaning, found]
      have stops : (InputToken.escape byte).stops = action.stops := by
        rw [InputToken.stops, meaning]
        exact Bool.or_false _
      dsimp only
      rw [meaning, ← stops]
      refine ⟨advances_escape byte ?_, emitted_act _ _ alone⟩
      show (if _ then _ else _) = _
      rw [stops, meaning, onLine]
      by_cases detach : action = .detach
      · rw [if_pos detach, detaches detach, if_pos rfl, if_pos (by simp [detach])]
      · rw [if_neg detach, if_neg (fun among => detach (List.mem_singleton.mp among).symm)]
        split <;> rfl
    -- It is none: the tilde goes out, with the byte unless that is a tilde, too.
    | none =>
      have meaning : (InputToken.escape byte).meaning =
          (if byte = tilde then [tilde] else [tilde, byte]).map fun byte => .data [byte] := by
        simp only [InputToken.meaning, found]
        split <;> rfl
      have stops : (InputToken.escape byte).stops = false := by
        rw [InputToken.stops, meaning, List.any_map]
        exact List.any_eq_false.mpr fun byte _ => by rintro ⟨⟩
      dsimp only
      rw [meaning, ← stops]
      refine ⟨advances_escape byte ?_, emitted_keep ..⟩
      rw [stops]
      rfl

/-- Nothing waits to go out when a read is given up. -/
theorem processByte_stopped {reading : EscapeReading} {byte : UInt8}
    (stopped : (reading.processByte byte).2 = true) :
    (reading.processByte byte).1.dataBuf = [] := by
  cases held : reading.state with
  -- Only an escape gives up a read, and it flushes before it acts.
  | normal =>
    rw [processByte, held] at stopped
    cases stopped
  | afterNewline =>
    rw [processByte, held] at stopped
    dsimp only at stopped
    split at stopped
    · cases stopped
    · split at stopped <;> cases stopped
  | afterTilde =>
    rw [processByte_afterTilde held] at stopped ⊢
    cases found : escapeActions.lookup byte with
    | some action => exact reading.flushPending_dataBuf
    | none =>
      rw [found] at stopped
      cases stopped

/-- A read is understood byte by byte. -/
theorem processBytes_advances (reading : EscapeReading) (input : Bytes) :
    ∃ tokens stopped,
      Advances reading.state (reading.processBytes input).state input tokens stopped ∧
        keystrokes (reading.processBytes input).actions =
          reading.emitted ++ tokens.flatMap InputToken.meaning := by
  induction input generalizing reading with
  | nil =>
    -- What still waits goes out at the end of the read.
    refine ⟨[], false, ?_, ?_⟩
    · rw [processBytes, flushPending_state]
      exact .refl reading.state
    · rw [processBytes, keystrokes_flushPending]
      exact (List.append_nil _).symm
  | cons byte later ih =>
    obtain ⟨tokens, now, emits⟩ := reading.processByte_advances byte
    rw [processBytes]
    dsimp only
    cases stopped : (reading.processByte byte).2 with
    -- The rest of the read is given up.
    | true =>
      rw [stopped] at now
      refine ⟨tokens, true, now.unread later, ?_⟩
      rw [if_pos rfl, ← emits, emitted_eq, processByte_stopped stopped]
      exact (List.append_nil _).symm
    -- The rest is read in the state that the byte has led to.
    | false =>
      rw [stopped] at now
      obtain ⟨others, ended, rest, emitted⟩ := ih (reading.processByte byte).1
      refine ⟨tokens ++ others, ended, now.trans rest, ?_⟩
      rw [if_neg Bool.false_ne_true, emitted, emits, List.append_assoc, List.flatMap_append]

end EscapeReading

namespace EscapeProcessor

/-- One read of the input is one advance over its tokens, and sends what they mean. -/
theorem process_advances (processor : EscapeProcessor) (input : Bytes) :
    ∃ tokens stopped,
      Advances processor.state (processor.process input).1.state input tokens stopped ∧
        keystrokes (processor.process input).2 = tokens.flatMap InputToken.meaning := by
  obtain ⟨tokens, stopped, advances, emits⟩ := EscapeReading.processBytes_advances
    { state := processor.state, actions := [], dataBuf := [] } input
  exact ⟨tokens, stopped, advances, emits⟩

/-- Read by read, the input is understood as a whole. -/
theorem processReads_advances (processor : EscapeProcessor) (reads : List Bytes) :
    ∃ tokens stopped,
      Advances processor.state (processor.processReads reads).1.state reads.flatten tokens stopped ∧
        keystrokes (processor.processReads reads).2 = tokens.flatMap InputToken.meaning := by
  induction reads generalizing processor with
  | nil => exact ⟨[], false, .refl processor.state, rfl⟩
  | cons read later ih =>
    obtain ⟨tokens, stopped, now, emits⟩ := processor.process_advances read
    -- The processor is given up exactly where the input is.
    have ends : (processor.process read).2.any EscapeAction.stops = stopped := by
      rw [← keystrokes_stops, emits, meaning_stops, now.stops]
    rw [processReads, List.flatten_cons]
    dsimp only
    rw [ends]
    cases stopped with
    | true => exact ⟨tokens, true, now.unread later.flatten, emits⟩
    | false =>
      obtain ⟨others, ended, rest, emitted⟩ := ih (processor.process read).1
      refine ⟨tokens ++ others, ended, now.trans rest, ?_⟩
      rw [if_neg Bool.false_ne_true, keystrokes_append, emits, emitted, List.flatMap_append]

/-- What the processor makes of an input, whichever way it was read. -/
structure Understands (reads : List Bytes) (tokens : List InputToken) (rest : Bytes) : Prop where
  /-- Data and actions come out as the tokens mean them, in the order of the tokens. -/
  emits : keystrokes (new.processReads reads).2 = tokens.flatMap InputToken.meaning
  /-- The tokens are the input, but for what is not read. -/
  spelled : tokens.flatMap InputToken.spelling ++ rest = reads.flatten
  /-- Nothing follows a token that ends the relay. -/
  last : ∀ token ∈ tokens.dropLast, token.stops = false
  /-- Until then, only a tilde is held back, exactly if the processor waits behind it. -/
  held : tokens.any InputToken.stops = false →
    rest = if (new.processReads reads).1.state = .afterTilde then [tilde] else []
  /--
  The token that ends the relay is an escape, whose action comes out last.

  A detach leaves the processor behind the tilde of its own escape, which is read, so that none is held back.
  -/
  stopped : tokens.any InputToken.stops = true → ∃ before byte action,
    tokens = before ++ [.escape byte] ∧ escapeActions.lookup byte = some action ∧
      (action = .detach ∨ action = .reconnect) ∧
      keystrokes (new.processReads reads).2 = before.flatMap InputToken.meaning ++ [action] ∧
      (new.processReads reads).1.state = if action = .detach then .afterTilde else .normal
  /-- It does not count how the input was cut into reads. -/
  whole : (new.processReads reads).1 = (new.processReads [reads.flatten]).1 ∧
    keystrokes (new.processReads reads).2 = keystrokes (new.processReads [reads.flatten]).2

/-- A token that ends the relay is an escape that detaches or reconnects. -/
theorem stops_escape {token : InputToken} (stops : token.stops = true) :
    ∃ byte action, token = .escape byte ∧ escapeActions.lookup byte = some action ∧
      (action = .detach ∨ action = .reconnect) ∧ token.meaning = [action] := by
  cases token with
  | plain byte => exact absurd stops Bool.false_ne_true
  | escape byte =>
    cases found : escapeActions.lookup byte with
    | some action =>
      have meaning : (InputToken.escape byte).meaning = [action] := by
        simp only [InputToken.meaning, found]
      rw [InputToken.stops, meaning] at stops
      refine ⟨byte, action, rfl, found, ?_, meaning⟩
      -- No other action ends the relay.
      cases action with
      | detach => exact Or.inl rfl
      | reconnect => exact Or.inr rfl
      | _ => cases stops
    -- Any other escape only gives data.
    | none =>
      rw [InputToken.stops, InputToken.meaning, found] at stops
      dsimp only at stops
      split at stops <;> cases stops

/-- Where the relay has ended, its end is the last token and the only one. -/
theorem tokenize_ended {lineBegins : Bool} {input : Bytes}
    (stopped : (tokenize lineBegins input).1.any InputToken.stops = true) :
    ∃ before last, (tokenize lineBegins input).1 = before ++ [last] ∧ last.stops = true ∧
      before.any InputToken.stops = false := by
  obtain ⟨token, member, stops⟩ := List.any_eq_true.mp stopped
  have some : (tokenize lineBegins input).1 ≠ [] := List.ne_nil_of_mem member
  have split := List.dropLast_append_getLast some
  have goOn : (tokenize lineBegins input).1.dropLast.any InputToken.stops = false :=
    List.any_eq_false.mpr fun other front => by
      rw [tokenize_stops lineBegins input other front]
      exact Bool.false_ne_true
  refine ⟨_, _, split.symm, ?_, goOn⟩
  -- It is not one of those in front, so it is the last one.
  rw [← split, List.any_append, goOn, Bool.false_or, List.any_cons, List.any_nil,
    Bool.or_false] at stopped
  exact stopped

/-- Every input is understood as its tokens say, however it is cut into reads. -/
theorem understands (reads : List Bytes) :
    Understands reads (tokenize true reads.flatten).1 (tokenize true reads.flatten).2 := by
  obtain ⟨tokens, stopped, advances, emits⟩ := new.processReads_advances reads
  have read : (tokenize true reads.flatten).1 = tokens := advances.tokens_eq
  -- Spelling and order are those of the tokens, and the rest comes from the invariant.
  refine ⟨by rw [read, emits], tokenize_spelling .., tokenize_stops _ _, ?_, ?_, ?_⟩
  -- The processor has not stopped, so what it reads next shows what it has held back.
  · rw [read, advances.stops]
    rintro rfl
    have ended := advances.goesOn rfl []
    rw [List.append_nil, Advances.tokensFrom_nil] at ended
    exact congrArg Prod.snd ended
  -- Only the last token detaches, if one does, and that fixes the state.
  · intro ended
    obtain ⟨before, last, split, stops, goOn⟩ := tokenize_ended ended
    obtain ⟨byte, action, rfl, found, which, meaning⟩ := stops_escape stops
    rw [read] at split ended
    obtain rfl : stopped = true := advances.stops.symm.trans ended
    have spoken : tokens.flatMap InputToken.meaning =
        before.flatMap InputToken.meaning ++ [action] := by
      rw [split, List.flatMap_append, List.flatMap_singleton, meaning]
    have detaches : .detach ∈ tokens.flatMap InputToken.meaning ↔ action = .detach := by
      rw [spoken, List.mem_append, List.mem_singleton]
      simp only [Advances.detach_notMem goOn, false_or, eq_comm]
    refine ⟨before, byte, action, by rw [read, split], found, which, by rw [emits, spoken], ?_⟩
    rw [advances.left rfl]
    simp only [detaches]
  -- The same input in one read has the same tokens, and so ends in the same state.
  · obtain ⟨others, ended, once, emitted⟩ := new.processReads_advances [reads.flatten]
    rw [List.flatten_singleton] at once
    obtain ⟨state, rfl⟩ := advances.unique once
    exact ⟨congrArg EscapeProcessor.mk state, by rw [emits, emitted]⟩

/-- After it has detached, the processor still stands behind the tilde, although none is held back. -/
theorem afterTilde_detached :
    (new.processReads [[tilde, 0x2e]]).1.state = .afterTilde ∧
      (new.processReads [[tilde, 0x2e]]).2 = [.detach] ∧
      tokenize true [tilde, 0x2e] = ([.escape 0x2e], []) := by
  decide

end EscapeProcessor

end Gritty
