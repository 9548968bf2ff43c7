import Gritty.Session.CleanResume

/-! Which bytes of a session's output reach the scrollback, however the output is cut into reads. -/

namespace Gritty

/-- Lines are cut after a newline and at the greatest length of a line. -/
def wrapByte (wrapped : List Bytes × Bytes) (byte : UInt8) : List Bytes × Bytes :=
  let line := wrapped.2 ++ [byte]
  if byte = 0x0a ∨ maxLineBytes ≤ line.length then (wrapped.1 ++ [line], [])
  else (wrapped.1, line)

/-- All complete lines of a text, and the line in progress. -/
def wrappedLines (text : Bytes) : List Bytes × Bytes := text.foldl wrapByte ([], [])

/-- The last lines of many. -/
def lastLines (limit : Nat) (lines : List Bytes) : List Bytes := lines.drop (lines.length - limit)

/-- A buffer shows the end of a text, up to its limit of lines. -/
structure ScrollbackBuffer.Shows (buffer : ScrollbackBuffer) (text : Bytes) : Prop where
  lines : buffer.lines = lastLines buffer.maxLines (wrappedLines text).1
  partialLine : buffer.partialLine = (wrappedLines text).2
  /-- Only whole lines at the beginning of the text are missing. -/
  complete : ∃ older : List Bytes,
    older.flatten ++ (buffer.lines.flatten ++ buffer.partialLine) = text

/-- For every byte of some reads, whether it was pushed to the scrollback. -/
def pushedFlags (tracker : AltScreenTracker) : List Bytes → List Bool
  | [] => []
  | chunk :: later =>
    List.replicate chunk.length (!(tracker.scan chunk).inAlternateScreen) ++
      pushedFlags (tracker.scan chunk) later

/-- The sequence that is being read ends in a switch of the screen. -/
def endsInSwitch (tracker : AltScreenTracker) : Bytes → Bool
  | [] => false
  | byte :: later =>
    let next := tracker.scan [byte]
    if next.inAlternateScreen ≠ tracker.inAlternateScreen then true
    -- Another sequence begins, or this one is over.
    else if byte = escByte ∨ next.scanner.state = .ground then false
    else endsInSwitch next later

/-- The first byte of some output is one of a sequence that switches the screen. -/
def beginsInSwitch (tracker : AltScreenTracker) : Bytes → Bool
  | [] => false
  | byte :: later =>
    if byte = escByte then endsInSwitch (tracker.scan [byte]) later
    else endsInSwitch tracker (byte :: later)

/-- The byte at a position of a stream is printed, and none of a sequence that switches the screen. -/
def Prints (stream : Bytes) (position : Nat) : Prop :=
  position < stream.length ∧
    beginsInSwitch (AltScreenTracker.new.scan (stream.take position)) (stream.drop position) = false

instance (stream : Bytes) (position : Nat) : Decidable (Prints stream position) :=
  inferInstanceAs (Decidable (_ ∧ _))

/-- The main screen is shown when a stream is written up to a position. -/
def onMainScreen (stream : Bytes) (position : Nat) : Bool :=
  !(AltScreenTracker.new.scan (stream.take position)).inAlternateScreen

/-- Where the read ends that holds a position of the stream. -/
def readEnd : List Bytes → Nat → Nat
  | [], _ => 0
  | chunk :: later, position =>
    if position < chunk.length then chunk.length
    else chunk.length + readEnd later (position - chunk.length)

/-- The bytes of a stream that are flagged. -/
def flaggedBytes (flags : List Bool) (stream : Bytes) : Bytes :=
  ((stream.zip flags).filter (·.2)).map (·.1)

/-- What is pushed to the scrollback does not depend on the cutting, and is what the main screen shows. -/
structure CapturesMainScreen (first second : List Bytes) : Prop where
  /-- A byte is captured from both cuttings or from none. -/
  alike : pushedFlags .new first = pushedFlags .new second
  /-- Of what is printed, all that is on the main screen is captured, and nothing else. -/
  main : ∀ position, Prints first.flatten position →
    (pushedFlags .new first)[position]? = some (onMainScreen first.flatten position)

/-- No read leaves a screen on which it has printed: it ends on the screen of each byte that it prints. -/
def EndsWherePrinted (reads : List Bytes) : Prop :=
  ∀ position < reads.flatten.length, Prints reads.flatten position →
    onMainScreen reads.flatten (readEnd reads position) = onMainScreen reads.flatten position

/-- Two cuttings leave each byte of a switching sequence to reads that end on the same screen. -/
def CutsSwitchesAlike (first second : List Bytes) : Prop :=
  ∀ position < first.flatten.length, ¬ Prints first.flatten position →
    onMainScreen first.flatten (readEnd first position) =
      onMainScreen first.flatten (readEnd second position)

instance (reads : List Bytes) : Decidable (EndsWherePrinted reads) :=
  inferInstanceAs (Decidable (∀ position < _, _ → _))

instance (first second : List Bytes) : Decidable (CutsSwitchesAlike first second) :=
  inferInstanceAs (Decidable (∀ position < _, _ → _))

/-- Of a program that has a screen of its own for a while, only the sequences that switch are not printed. -/
example : let stream := ascii "$ vi" ++ escByte :: ascii "[?1049h~" ++ escByte :: ascii "[?1049l$ "
    (List.range stream.length).filter (fun position => ¬ Prints stream position) =
      (List.range 8).map (· + 4) ++ (List.range 8).map (· + 13) := by
  decide +kernel

section Lines

/-- A byte that is wrapped goes behind the others, into the last line or a new one. -/
theorem wrapByte_flatten (wrapped : List Bytes × Bytes) (byte : UInt8) :
    (wrapByte wrapped byte).1.flatten ++ (wrapByte wrapped byte).2 =
      wrapped.1.flatten ++ wrapped.2 ++ [byte] := by
  unfold wrapByte
  dsimp only
  split
  · rw [List.flatten_append, List.flatten_singleton, List.append_nil, List.append_assoc]
  · rw [List.append_assoc]

/-- No byte is lost when a text is cut into lines. -/
theorem wrappedLines_flatten (text : Bytes) :
    (wrappedLines text).1.flatten ++ (wrappedLines text).2 = text := by
  -- The induction goes from the end, as the lines grow.
  induction text using List.reverseRecOn with
  | nil => rfl
  | append_singleton text byte ih =>
    have last : wrappedLines (text ++ [byte]) = wrapByte (wrappedLines text) byte :=
      List.foldl_concat ..
    rw [last, wrapByte_flatten, ih]

/-- One more line pushes out the oldest one of a full buffer. -/
theorem lastLines_append (limit : Nat) (lines : List Bytes) (line : Bytes) :
    lastLines limit (lines ++ [line]) =
      if limit < (lastLines limit lines ++ [line]).length then
        (lastLines limit lines ++ [line]).tail
      else lastLines limit lines ++ [line] := by
  -- Before the limit is applied, the new line only comes behind the last ones.
  have grown : lastLines limit lines ++ [line] =
      (lines ++ [line]).drop (lines.length - limit) :=
    (List.drop_append_of_le_length (Nat.sub_le _ _)).symm
  have length : (lastLines limit lines ++ [line]).length =
      lines.length + 1 - (lines.length - limit) := by
    rw [grown, List.length_drop, List.length_append, List.length_singleton]
  rw [length, grown, List.tail_drop]
  unfold lastLines
  rw [List.length_append, List.length_singleton]
  -- The buffer is full from the limit on, and until then nothing goes.
  split
  · next full => rw [show lines.length + 1 - limit = lines.length - limit + 1 by omega]
  · next room => rw [show lines.length + 1 - limit = lines.length - limit by omega]

/-- A text that is pushed leaves its last lines, and the one that is not over. -/
theorem ScrollbackBuffer.push_wrapped (text : Bytes) :
    ScrollbackBuffer.new.push text =
      { lines := lastLines defaultMaxLines (wrappedLines text).1
        partialLine := (wrappedLines text).2
        maxLines := defaultMaxLines } := by
  induction text using List.reverseRecOn with
  | nil => rfl
  | append_singleton text byte ih =>
    have last : ScrollbackBuffer.new.push (text ++ [byte]) =
        (ScrollbackBuffer.new.push text).pushByte byte := List.foldl_concat ..
    have wrapped : wrappedLines (text ++ [byte]) = wrapByte (wrappedLines text) byte :=
      List.foldl_concat ..
    rw [last, ih, wrapped]
    unfold ScrollbackBuffer.pushByte ScrollbackBuffer.flushPartial wrapByte
    dsimp only
    -- The buffer and the reference complete a line at the same bytes.
    split
    · rw [lastLines_append]
    · rfl

/-- What was pushed to a new buffer is what it shows. -/
theorem ScrollbackBuffer.shows_push (text : Bytes) : (ScrollbackBuffer.new.push text).Shows text := by
  -- Only the lines before the last ones are missing.
  rw [ScrollbackBuffer.push_wrapped]
  refine ⟨rfl, rfl,
    (wrappedLines text).1.take ((wrappedLines text).1.length - defaultMaxLines), ?_⟩
  show _ ++ (List.flatten (List.drop _ _) ++ _) = _
  rw [← List.append_assoc, ← List.flatten_append, List.take_append_drop, wrappedLines_flatten]

end Lines

section Flags

/-- Every byte that was read has its flag. -/
theorem length_pushedFlags (tracker : AltScreenTracker) (reads : List Bytes) :
    (pushedFlags tracker reads).length = reads.flatten.length := by
  induction reads generalizing tracker with
  | nil => rfl
  | cons chunk later ih =>
    rw [pushedFlags, List.length_append, List.length_replicate, ih, List.flatten_cons,
      List.length_append]

/-- A byte is pushed exactly if its read ends on the main screen. -/
theorem pushedFlags_getElem (tracker : AltScreenTracker) (reads : List Bytes) {position : Nat}
    (there : position < reads.flatten.length) :
    (pushedFlags tracker reads)[position]? =
      some (!(tracker.scan (reads.flatten.take (readEnd reads position))).inAlternateScreen) := by
  induction reads generalizing tracker position with
  | nil => cases there
  | cons chunk later ih =>
    rw [List.flatten_cons, List.length_append] at there
    rw [pushedFlags, readEnd, List.flatten_cons]
    by_cases here : position < chunk.length
    -- The read itself, up to its end.
    · rw [if_pos here, List.getElem?_append_left (by rwa [List.length_replicate]),
        List.getElem?_replicate, if_pos here, List.take_left]
    -- A later read, which is scanned in the state behind this one.
    · rw [if_neg here, List.getElem?_append_right (by rw [List.length_replicate]; omega),
        List.length_replicate, ih _ (by omega), List.take_length_add_append,
        AltScreenTracker.scan_append]

/-- A byte of a stream is captured exactly if the main screen is shown at the end of its read. -/
theorem pushedFlags_new (reads : List Bytes) {position : Nat}
    (there : position < reads.flatten.length) :
    (pushedFlags .new reads)[position]? =
      some (onMainScreen reads.flatten (readEnd reads position)) :=
  pushedFlags_getElem .new reads there

/-- What is printed is captured as it should be exactly if no read leaves a screen on which it has printed. -/
theorem main_iff_endsWherePrinted (reads : List Bytes) :
    (∀ position, Prints reads.flatten position →
        (pushedFlags .new reads)[position]? = some (onMainScreen reads.flatten position)) ↔
      EndsWherePrinted reads := by
  constructor
  · intro main position there prints
    have pushed := main position prints
    rw [pushedFlags_new reads there] at pushed
    exact Option.some.inj pushed
  · intro ends position prints
    rw [pushedFlags_new reads prints.1, ends position prints.1 prints]

/-- The bytes are captured alike exactly if the reads that hold them end on the same screen. -/
theorem alike_iff {first second : List Bytes} (same : first.flatten = second.flatten) :
    pushedFlags .new first = pushedFlags .new second ↔
      ∀ position < first.flatten.length,
        onMainScreen first.flatten (readEnd first position) =
          onMainScreen first.flatten (readEnd second position) := by
  have other (position : Nat) (there : position < first.flatten.length) :
      (pushedFlags .new second)[position]? =
        some (onMainScreen first.flatten (readEnd second position)) := by
    rw [same] at there ⊢
    exact pushedFlags_new second there
  constructor
  · intro alike position there
    have flag := pushedFlags_new first there
    rw [alike, other position there] at flag
    exact (Option.some.inj flag).symm
  · intro alike
    -- Both lists have a flag for each byte of the stream, and none behind it.
    apply List.ext_getElem?
    intro position
    by_cases there : position < first.flatten.length
    · rw [pushedFlags_new first there, other position there, alike position there]
    · rw [List.getElem?_eq_none (by rw [length_pushedFlags]; omega),
        List.getElem?_eq_none (by rw [length_pushedFlags, ← same]; omega)]

end Flags

section Capture

/-- What is flagged of a stream and more is what is flagged of the one and the other. -/
theorem flaggedBytes_append {flags : List Bool} {stream : Bytes}
    (length : flags.length = stream.length) (moreFlags : List Bool) (more : Bytes) :
    flaggedBytes (flags ++ moreFlags) (stream ++ more) =
      flaggedBytes flags stream ++ flaggedBytes moreFlags more := by
  unfold flaggedBytes
  rw [List.zip_append length.symm, List.filter_append, List.map_append]

/-- Under one flag for all, all bytes are flagged or none. -/
theorem flaggedBytes_replicate (flag : Bool) (stream : Bytes) :
    flaggedBytes (List.replicate stream.length flag) stream = if flag then stream else [] := by
  induction stream with
  -- The induction keeps flags and bytes side by side.
  | nil => cases flag <;> rfl
  | cons byte later ih =>
    unfold flaggedBytes at ih ⊢
    rw [List.length_cons, List.replicate_succ, List.zip_cons_cons, List.filter_cons]
    cases flag with
    | true => rw [if_pos rfl, List.map_cons, ih, if_pos rfl, if_pos rfl]
    | false => exact ih

theorem ScrollbackBuffer.push_append (buffer : ScrollbackBuffer) (first second : Bytes) :
    buffer.push (first ++ second) = (buffer.push first).push second := List.foldl_append ..

/-- The scrollback of a session holds the bytes whose reads were pushed. -/
theorem SessionOutput.after_scrollback (cap : Nat) (chunks : List Bytes) :
    (after cap chunks).scrollback =
      ScrollbackBuffer.new.push (flaggedBytes (pushedFlags .new chunks) chunks.flatten) := by
  have captured (output : SessionOutput) :
      (chunks.foldl capture output).scrollback =
        output.scrollback.push
          (flaggedBytes (pushedFlags output.altScreen chunks) chunks.flatten) := by
    -- The flags go on with the tracker that the read has left.
    induction chunks generalizing output with
    | nil => rfl
    | cons chunk later ih =>
      have pushed : (output.capture chunk).scrollback = output.scrollback.push
          -- A read that is dropped is as good as an empty one.
          (if !(output.altScreen.scan chunk).inAlternateScreen then chunk else []) := by
        show (if (output.altScreen.scan chunk).inAlternateScreen then output.scrollback
          else output.scrollback.push chunk) = _
        cases (output.altScreen.scan chunk).inAlternateScreen <;> rfl
      have screen : (output.capture chunk).altScreen = output.altScreen.scan chunk := rfl
      rw [List.foldl_cons, ih, pushed, screen, pushedFlags, List.flatten_cons,
        flaggedBytes_append List.length_replicate, flaggedBytes_replicate,
        ← ScrollbackBuffer.push_append]
  exact captured (.new cap)

/-- Cut into reads in two ways, a stream is captured alike and by the screens exactly if no read leaves a screen on
which it has printed and the switching sequences are cut alike. Then both leave the same scrollback. -/
theorem SessionOutput.capturesMainScreen_iff (cap : Nat) {first second : List Bytes}
    (same : first.flatten = second.flatten) :
    (CapturesMainScreen first second ↔
        EndsWherePrinted first ∧ EndsWherePrinted second ∧ CutsSwitchesAlike first second) ∧
      (CapturesMainScreen first second →
        (after cap first).scrollback = (after cap second).scrollback ∧
          (after cap first).scrollback.Shows
            (flaggedBytes (pushedFlags .new first) first.flatten)) := by
  constructor
  · constructor
    · intro captures
      have one := (main_iff_endsWherePrinted first).mp captures.main
      have alike := (alike_iff same).mp captures.alike
      refine ⟨one, (main_iff_endsWherePrinted second).mp ?_, fun position there _ =>
        alike position there⟩
      rw [← same, ← captures.alike]
      exact captures.main
    · rintro ⟨one, other, switches⟩
      refine ⟨(alike_iff same).mpr fun position there => ?_, (main_iff_endsWherePrinted first).mpr one⟩
      -- A printed byte is in reads that end on its own screen, and the switches are cut alike.
      by_cases prints : Prints first.flatten position
      · have here := other position
        rw [← same] at here
        rw [one position there prints, here there prints]
      · exact switches position there prints
  -- The same bytes were pushed, so the buffers are the same.
  · intro captures
    rw [after_scrollback, after_scrollback, ← captures.alike, ← same]
    exact ⟨rfl, ScrollbackBuffer.shows_push _⟩

/-- A program with a screen of its own, each switch of which begins a read, and the same with more reads. -/
theorem SessionOutput.capturesMainScreen_program :
    (after 64 [ascii "$ vi", escByte :: ascii "[?1049h~", escByte :: ascii "[?1049l$ "]).scrollback =
      (after 64 [ascii "$ ", ascii "vi", escByte :: ascii "[?1049h", ascii "~",
        escByte :: ascii "[?1049l$", ascii " "]).scrollback := by
  have main : CapturesMainScreen
      [ascii "$ vi", escByte :: ascii "[?1049h~", escByte :: ascii "[?1049l$ "]
      [ascii "$ ", ascii "vi", escByte :: ascii "[?1049h", ascii "~", escByte :: ascii "[?1049l$",
        ascii " "] :=
    (capturesMainScreen_iff 64 (by decide +kernel)).1.mpr
      ⟨by decide +kernel, by decide +kernel, by decide +kernel⟩
  exact ((capturesMainScreen_iff 64 (by decide +kernel)).2 main).1

/-- A line that was written before a program entered its screen is lost if both were read at once, and
what a program wrote to its own screen is kept if it left the screen within the read. -/
theorem SessionOutput.capture_depends_on_reads :
    [ascii "shell" ++ [0x0a] ++ escByte :: ascii "[?1049h"].flatten =
        [ascii "shell" ++ [0x0a], escByte :: ascii "[?1049h"].flatten ∧
      (after 64 [ascii "shell" ++ [0x0a] ++ escByte :: ascii "[?1049h"]).scrollback.lines = [] ∧
      (after 64 [ascii "shell" ++ [0x0a], escByte :: ascii "[?1049h"]).scrollback.lines =
        [ascii "shell" ++ [0x0a]] ∧
      (after 64 [escByte :: ascii "[?1049hsecret" ++ [0x0a] ++ escByte :: ascii "[?1049l"]
        ).scrollback.lines = [escByte :: ascii "[?1049hsecret" ++ [0x0a]] := by
  decide +kernel

end Capture

end Gritty
