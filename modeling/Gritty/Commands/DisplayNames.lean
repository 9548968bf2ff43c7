import Gritty.Commands.ConnectNew
import Gritty.Procscan.ProcNetUnix

/-! How the wire name of a session is shown on a client's machine, and when what is shown can be typed back there. -/

namespace Gritty

/-- A wire name without the prefix of the client it is shown to. Foreign names are shown in full. -/
def displaySessionName (wireName clientName : String) : String :=
  if clientName = "" then wireName
  else
    match wireName.toList.dropPrefix? clientName.toList with
    | some ('/' :: suffix) => if suffix = [] then wireName else String.ofList suffix
    | _ => wireName

/-- A control character. -/
def isControl (char : Char) : Bool :=
  char.toNat < 0x20 || (0x7F ≤ char.toNat && char.toNat < 0xA0)

/-- What makes a name unfit to be a prefix of session names, if anything does. -/
def validateClientName (name : String) : Except String Unit :=
  if name = "" then .error "client_name must not be empty"
  else if '/' ∈ name.toList then
    .error "client_name must not contain '/' (reserved as namespace separator)"
  else if name.toList.any fun char => isWhitespace char || isControl char then
    .error "client_name must not contain whitespace or control characters"
  else .ok ()

variable {typed client viewer : String}

/-- A valid client name has no separator in it. -/
theorem validateClientName_ok (valid : validateClientName client = .ok ()) :
    client ≠ "" ∧ '/' ∉ client.toList := by
  unfold validateClientName at valid
  split at valid
  -- The name passed the check for being empty and the one for separators.
  · cases valid
  · next some_ =>
    split at valid
    · cases valid
    · next plain => exact ⟨some_, plain⟩

/-- What is shown of a name that has the viewer's prefix. -/
theorem displaySessionName_own (some_ : viewer ≠ "") {wire suffix : String}
    (own : wire = viewer ++ "/" ++ suffix) (more : suffix ≠ "") :
    displaySessionName wire viewer = suffix := by
  -- The prefix is there to be dropped, and what it leaves starts with the separator.
  have dropped : wire.toList.dropPrefix? viewer.toList = some ('/' :: suffix.toList) := by
    rw [List.dropPrefix?_eq_some_iff]
    exact ⟨viewer.toList, by simp [own], beq_self_eq_true _⟩
  have nonempty : suffix.toList ≠ [] := fun empty => more (String.toList_eq_nil_iff.mp empty)
  rw [displaySessionName, if_neg some_, dropped]
  simp only [if_neg nonempty, String.ofList_toList]

/-- Any other name is shown as it is. -/
theorem displaySessionName_other {wire : String}
    (other : ∀ suffix, suffix ≠ "" → wire ≠ viewer ++ "/" ++ suffix) :
    displaySessionName wire viewer = wire := by
  unfold displaySessionName
  split
  · rfl
  split
  -- The prefix could be dropped and a separator follows it; that is the form that was ruled out.
  · next suffix dropped =>
    split
    · rfl
    · next more =>
      obtain ⟨front, same, equal⟩ := List.dropPrefix?_eq_some_iff.mp dropped
      obtain rfl : front = viewer.toList := eq_of_beq equal
      -- The suffix is there, so the name has the prefix after all.
      refine absurd ?_ (other (String.ofList suffix) fun empty => more ?_)
      · apply String.toList_inj.mp
        simpa using same
      · simpa using congrArg String.toList empty
  · rfl

/-- A name that has a separator stands for itself. -/
theorem resolveSessionName_literal {name : String} (slashed : '/' ∈ name.toList) :
    resolveSessionName name viewer = name := by
  unfold resolveSessionName
  rw [if_pos slashed]
  -- The marker has no separator, so such a name is not the marker.
  split
  · next marker =>
    rw [marker] at slashed
    exact absurd slashed (by decide)
  · rfl

/-- A plain name is one of the client that it is typed on. -/
theorem resolveSessionName_plain {name : String} (notMarker : name ≠ "-")
    (plain : '/' ∉ name.toList) : resolveSessionName name viewer = viewer ++ "/" ++ name := by
  rw [resolveSessionName, if_neg notMarker, if_neg plain]
  simp [toString]

/-- A wire name has a separator. -/
theorem slash_mem_resolveSessionName (notMarker : typed ≠ "-") :
    '/' ∈ (resolveSessionName typed client).toList := by
  by_cases slashed : '/' ∈ typed.toList
  · rwa [resolveSessionName_literal slashed]
  · rw [resolveSessionName_plain notMarker slashed]
    simp

/-- A text is never as long as with a prefix and a separator before it. -/
theorem ne_prefixed (viewer text : String) : text ≠ viewer ++ "/" ++ text := by
  intro same
  -- Both sides would have the same length, but the right one is longer by the separator at least.
  have lengths := congrArg (fun name : String => name.toList.length) same
  simp only [String.toList_append, List.length_append, String.length_toList] at lengths
  have one : "/".length = 1 := rfl
  omega

/-- What is typed comes to a name of the viewer's own exactly when it is plain. -/
theorem resolveSessionName_own_iff {suffix : String} :
    resolveSessionName suffix viewer = viewer ++ "/" ++ suffix ↔
      suffix ≠ "-" ∧ '/' ∉ suffix.toList := by
  constructor
  · intro back
    constructor
    -- The marker is not a plain name, and stands for itself.
    · rintro rfl
      exact ne_prefixed viewer "-" back
    -- A name with a separator is taken literally, and so without the prefix.
    · intro slashed
      rw [resolveSessionName_literal slashed] at back
      exact ne_prefixed viewer suffix back
  · rintro ⟨notMarker, plain⟩
    exact resolveSessionName_plain notMarker plain

/-- Behind the viewer's own prefix, nothing typed looks like something else. -/
def PlainBehind (viewer typed : String) : Prop :=
  ∀ suffix, typed = viewer ++ "/" ++ suffix → suffix ≠ "-" ∧ '/' ∉ suffix.toList

/-- Behind the prefix there is one text. -/
theorem plainBehind_own_iff {suffix : String} :
    PlainBehind viewer (viewer ++ "/" ++ suffix) ↔ suffix ≠ "-" ∧ '/' ∉ suffix.toList := by
  constructor
  · exact fun plain => plain suffix rfl
  · intro plain other spelled
    -- Behind the same prefix, equal texts have equal rests.
    have lists := congrArg String.toList spelled
    have same : suffix = other := String.toList_inj.mp (by simpa using lists)
    exact same ▸ plain

/-- Only the text before the first separator is the prefix. -/
theorem prefix_unique {first second : String} {one other : String}
    (plainFirst : '/' ∉ first.toList) (plainSecond : '/' ∉ second.toList)
    (same : first ++ "/" ++ one = second ++ "/" ++ other) : first = second ∧ one = other := by
  have lists : first.toList ++ '/' :: one.toList = second.toList ++ '/' :: other.toList := by
    simpa using congrArg String.toList same
  -- The part before the first separator can be read off such a text.
  have split_ : ∀ front back : List Char, '/' ∉ front →
      (front ++ '/' :: back).span (· ≠ '/') = (front, '/' :: back) := by
    intro front back plain
    rw [List.span_eq_takeWhile_dropWhile]
    have ends : ∀ char ∈ front, decide (char ≠ '/') = true := by
      intro char member
      have other : char ≠ '/' := fun same => plain (same ▸ member)
      simpa using other
    rw [List.takeWhile_append_of_pos ends, List.dropWhile_append_of_pos ends]
    simp
  have both := split_ first.toList one.toList plainFirst
  rw [lists, split_ second.toList other.toList plainSecond, Prod.mk.injEq, List.cons.injEq] at both
  exact ⟨String.toList_inj.mp both.1.symm, String.toList_inj.mp both.2.2.symm⟩

/-- What a name is shown as stands for it again exactly when nothing behind the viewer's own prefix looks like something else. -/
theorem resolve_display_iff (notMarker : typed ≠ "-")
    (validClient : validateClientName client = .ok ())
    (validViewer : validateClientName viewer = .ok ()) :
    resolveSessionName (displaySessionName (resolveSessionName typed client) viewer) viewer =
        resolveSessionName typed client ↔ PlainBehind viewer typed := by
  obtain ⟨-, plainClient⟩ := validateClientName_ok validClient
  obtain ⟨some_, plainViewer⟩ := validateClientName_ok validViewer
  have literal : '/' ∈ (resolveSessionName typed client).toList :=
    slash_mem_resolveSessionName notMarker
  -- Either the wire name is one of the viewer's own, or it is shown as it is.
  by_cases own : ∃ suffix, suffix ≠ "" ∧
      resolveSessionName typed client = viewer ++ "/" ++ suffix
  · obtain ⟨suffix, more, wire⟩ := own
    rw [displaySessionName_own some_ wire more, wire]
    by_cases slashed : '/' ∈ typed.toList
    · -- What was typed is the wire name itself.
      have same : typed = viewer ++ "/" ++ suffix := (resolveSessionName_literal slashed).symm.trans wire
      rw [same, plainBehind_own_iff, resolveSessionName_own_iff]
    · -- A plain name was typed, so the viewer is its client.
      rw [resolveSessionName_plain notMarker slashed] at wire
      obtain ⟨rfl, rfl⟩ := prefix_unique plainClient plainViewer wire
      refine iff_of_true (resolveSessionName_plain notMarker slashed) ?_
      intro suffix spelled
      exact absurd (by rw [spelled]; simp) slashed
  · have foreign : ∀ suffix, suffix ≠ "" →
        resolveSessionName typed client ≠ viewer ++ "/" ++ suffix :=
      fun suffix more wire => own ⟨suffix, more, wire⟩
    rw [displaySessionName_other foreign, resolveSessionName_literal literal]
    refine iff_of_true rfl ?_
    -- Only an empty name behind the prefix is shown in full, and it is no name with a separator.
    intro suffix spelled
    have slashed : '/' ∈ typed.toList := by rw [spelled]; simp
    have wire : resolveSessionName typed client = viewer ++ "/" ++ suffix := by
      rw [resolveSessionName_literal slashed, spelled]
    have empty : suffix = "" := by
      by_contra more
      exact foreign suffix more wire
    rw [empty]
    exact ⟨by decide, by decide⟩

theorem resolve_display_iff_work :
    resolveSessionName (displaySessionName (resolveSessionName "work" "laptop") "laptop") "laptop" =
        resolveSessionName "work" "laptop" ↔ PlainBehind "laptop" "work" :=
  resolve_display_iff (by decide) rfl rfl

/-- A name of two levels is shown without the first of them, and stands for another session then. -/
theorem nestedName_misleads : ¬ ∀ typed client viewer : String, typed ≠ "" → typed ≠ "-" →
    validateClientName client = .ok () → validateClientName viewer = .ok () →
      resolveSessionName (displaySessionName (resolveSessionName typed client) viewer) viewer =
        resolveSessionName typed client := by
  intro typesBack
  -- The name is taken literally on both sides, but what is shown is behind the first prefix only.
  have back := typesBack "laptop/ci/nightly" "laptop" "laptop" (by decide) (by decide) rfl rfl
  have shown : displaySessionName (resolveSessionName "laptop/ci/nightly" "laptop") "laptop" =
      "ci/nightly" := rfl
  rw [shown] at back
  exact absurd back (by decide)

end Gritty
