import Gritty.Lib.BigEndian

/-! Computations over byte buffers that can fail with an error or panic, and rules for them. -/

namespace Gritty

/-- The two ways a computation stops early: an error it reports, or a panic. -/
inductive Fault (ε : Type) where
  | error (reason : ε)
  | panic
  deriving DecidableEq, Repr

/-- A computation that returns a value, reports an error, or panics. -/
abbrev Exec (ε α : Type) := Except (Fault ε) α

namespace Exec

variable {ε α β σ : Type}

/-- Stop with a reported error. -/
def fail (reason : ε) : Exec ε α := .error (.error reason)

/-- Stop with a panic. -/
def panicked : Exec ε α := .error .panic

/-- The byte at a position; reading past the end panics. -/
def index (bytes : Bytes) (at_ : Nat) : Exec ε UInt8 :=
  match bytes[at_]? with
  | some byte => .ok byte
  | none => panicked

/-- The bytes from one position up to another; a range outside the buffer panics. -/
def slice (bytes : Bytes) (first past : Nat) : Exec ε Bytes :=
  if first ≤ past ∧ past ≤ bytes.length then .ok ((bytes.drop first).take (past - first))
  else panicked

/-- The element at a position; a position past the end panics. -/
def element (list : List α) (at_ : Nat) : Exec ε α :=
  match list[at_]? with
  | some value => .ok value
  | none => panicked

/-- A sum of two 64-bit sizes; overflow panics. -/
def addUsize (left right : Nat) : Exec ε Nat :=
  if left + right < 2 ^ 64 then .ok (left + right) else panicked

/-- A difference of two sizes; underflow panics. -/
def subUsize (left right : Nat) : Exec ε Nat :=
  if right ≤ left then .ok (left - right) else panicked

/-- Consecutive bytes from a position, read one index at a time. -/
def indexes (bytes : Bytes) (at_ : Nat) : Nat → Exec ε Bytes
  | 0 => .ok []
  | count + 1 => do
    let byte ← index bytes at_
    let rest ← indexes bytes (at_ + 1) count
    return byte :: rest

/-- Run a loop body a given number of times, stopping at the first failure. -/
def repeatM : Nat → (σ → Exec ε σ) → σ → Exec ε σ
  | 0, _, state => .ok state
  | count + 1, body, state => do
    let next ← body state
    repeatM count body next

/-- How many times a loop enters its body, the failing entry included. -/
def iterations : Nat → (σ → Exec ε σ) → σ → Nat
  | 0, _, _ => 0
  | count + 1, body, state =>
    match body state with
    | .ok next => iterations count body next + 1
    | .error _ => 1

@[simp] theorem ok_bind (value : α) (next : α → Exec ε β) :
    ((.ok value : Exec ε α) >>= next) = next value := rfl

@[simp] theorem fail_bind (reason : ε) (next : α → Exec ε β) :
    ((fail reason : Exec ε α) >>= next) = fail reason := rfl

@[simp] theorem panicked_bind (next : α → Exec ε β) :
    ((panicked : Exec ε α) >>= next) = panicked := rfl

@[simp] theorem pure_eq_ok (value : α) : (pure value : Exec ε α) = .ok value := rfl

@[simp] theorem fail_ne_ok (reason : ε) (value : α) : (fail reason : Exec ε α) ≠ .ok value := by
  simp [fail]

@[simp] theorem panicked_ne_ok (value : α) : (panicked : Exec ε α) ≠ .ok value := by
  simp [panicked]

/-- Reading inside the buffer returns the byte there. -/
theorem index_of_lt {bytes : Bytes} {at_ : Nat} (within : at_ < bytes.length) :
    (index bytes at_ : Exec ε UInt8) = .ok bytes[at_] := by
  simp [index, within]

/-- An in-range slice returns its bytes. -/
theorem slice_of_le {bytes : Bytes} {first past : Nat} (ordered : first ≤ past)
    (within : past ≤ bytes.length) :
    (slice bytes first past : Exec ε Bytes) = .ok ((bytes.drop first).take (past - first)) := by
  simp [slice, ordered, within]

/-- A sum that fits is the sum. -/
theorem addUsize_of_lt {left right : Nat} (fits : left + right < 2 ^ 64) :
    (addUsize left right : Exec ε Nat) = .ok (left + right) := by
  simp only [addUsize, if_pos fits]

/-- A difference that does not underflow is the difference. -/
theorem subUsize_of_le {left right : Nat} (ordered : right ≤ left) :
    (subUsize left right : Exec ε Nat) = .ok (left - right) := by
  simp only [subUsize, if_pos ordered]

/-- Consecutive in-range reads return the slice they cover. -/
theorem indexes_of_le {bytes : Bytes} {at_ count : Nat} (within : at_ + count ≤ bytes.length) :
    (indexes bytes at_ count : Exec ε Bytes) = .ok ((bytes.drop at_).take count) := by
  induction count generalizing at_ with
  | zero => simp [indexes]
  | succ count ih =>
    have inside : at_ < bytes.length := by omega
    rw [indexes, index_of_lt inside, ok_bind, ih (by omega), ok_bind,
      List.drop_eq_getElem_cons inside, List.take_succ_cons]
    rfl

/-! ### Freedom from panics -/

/-- The computation never panics, and every value it returns satisfies the postcondition. -/
def Safe (run : Exec ε α) (post : α → Prop) : Prop :=
  match run with
  | .ok value => post value
  | .error (.error _) => True
  | .error .panic => False

theorem Safe.ok {value : α} {post : α → Prop} (holds : post value) :
    Safe (.ok value : Exec ε α) post := holds

theorem Safe.fail {reason : ε} {post : α → Prop} : Safe (fail reason : Exec ε α) post := trivial

/-- A safe computation does not panic. -/
theorem Safe.not_panicked {run : Exec ε α} {post : α → Prop} (safe : Safe run post) :
    run ≠ panicked := by
  rintro rfl
  exact safe

/-- The value of a safe computation satisfies its postcondition. -/
theorem Safe.value {run : Exec ε α} {post : α → Prop} (safe : Safe run post) {value : α}
    (returned : run = .ok value) : post value := by
  subst returned
  exact safe

/-- A safe computation that has no errors to report returns. -/
theorem Safe.returns {run : Exec Empty α} {post : α → Prop} (safe : Safe run post) :
    ∃ value, run = .ok value ∧ post value := by
  cases run with
  | ok value => exact ⟨value, rfl, safe⟩
  | error fault =>
    cases fault with
    | error reason => exact reason.elim
    | panic => exact safe.elim

/-- A safe computation stays safe under a weaker postcondition. -/
theorem Safe.mono {run : Exec ε α} {strong weak : α → Prop} (safe : Safe run strong)
    (weaker : ∀ value, strong value → weak value) : Safe run weak := by
  cases run with
  | ok value => exact weaker value safe
  | error fault => cases fault <;> exact safe

/-- Safety of a sequence: the second part must be safe on every value the first can return. -/
theorem Safe.bind {run : Exec ε α} {next : α → Exec ε β} {middle : α → Prop} {post : β → Prop}
    (first : Safe run middle) (second : ∀ value, middle value → Safe (next value) post) :
    Safe (run >>= next) post := by
  cases run with
  | ok value => exact second value first
  | error fault =>
    cases fault with
    | error reason => trivial
    | panic => exact first.elim

/-- A guard is safe when both of its branches are, each under its own condition. -/
theorem Safe.ite {condition : Prop} [Decidable condition] {yes no : Exec ε α} {post : α → Prop}
    (whenTrue : condition → Safe yes post) (whenFalse : ¬ condition → Safe no post) :
    Safe (if condition then yes else no) post := by
  split
  · exact whenTrue ‹_›
  · exact whenFalse ‹_›

theorem element_safe {list : List α} {at_ : Nat} (within : at_ < list.length) :
    Safe (element list at_ : Exec ε α) fun value => list[at_]? = some value := by
  unfold element
  rw [List.getElem?_eq_getElem within]
  exact Safe.ok rfl

/-- A computation for each element is safe where the one for any of them is. -/
theorem mapM_safe {body : α → Exec ε β} {relation : α → β → Prop} {list : List α}
    (each : ∀ value ∈ list, Safe (body value) (relation value)) :
    Safe (list.mapM body) (List.Forall₂ relation list) := by
  induction list with
  | nil => exact Safe.ok List.Forall₂.nil
  | cons first rest ih =>
    rw [List.mapM_cons]
    refine (each first List.mem_cons_self).bind fun image related => ?_
    refine (ih fun value member => each value (List.mem_cons_of_mem first member)).bind
      fun images others => ?_
    exact Safe.ok (List.Forall₂.cons related others)

theorem addUsize_safe {left right : Nat} (fits : left + right < 2 ^ 64) :
    Safe (addUsize left right : Exec ε Nat) fun sum => sum = left + right := by
  rw [addUsize_of_lt fits]
  exact Safe.ok rfl

theorem subUsize_safe {left right : Nat} (ordered : right ≤ left) :
    Safe (subUsize left right : Exec ε Nat) fun gap => gap = left - right := by
  rw [subUsize_of_le ordered]
  exact Safe.ok rfl

/-- A loop is safe when its body is safe and takes the invariant of one turn to that of the next. -/
theorem repeatM_safe {body : σ → Exec ε σ} {inv : Nat → σ → Prop}
    (step : ∀ turn state, inv turn state → Safe (body state) (inv (turn + 1))) (count : Nat) :
    ∀ turn state, inv turn state → Safe (repeatM count body state) (inv (turn + count)) := by
  induction count with
  | zero => exact fun turn state holds => holds
  | succ count ih =>
    intro turn state holds
    refine (step turn state holds).bind fun next kept => ?_
    have rest := ih (turn + 1) next kept
    rwa [Nat.add_right_comm] at rest

/-- A loop whose body uses up a stride of some budget each time is entered about budget/stride times. -/
theorem iterations_le (body : σ → Exec ε σ) (inv : σ → Prop) (budget : σ → Nat) {stride : Nat}
    (positive : 0 < stride)
    (step : ∀ state next, inv state → body state = .ok next →
      inv next ∧ budget next + stride ≤ budget state) (count : Nat) :
    ∀ state, inv state → iterations count body state ≤ budget state / stride + 1 := by
  induction count with
  | zero => simp [iterations]
  | succ count ih =>
    intro state holds
    cases ran : body state with
    | error fault => simp [iterations, ran]
    | ok next =>
      obtain ⟨kept, spent⟩ := step state next holds ran
      have rest := ih next kept
      -- One stride of budget pays for one more entry.
      have paid : budget next / stride + 1 ≤ budget state / stride := by
        rw [← Nat.add_div_right _ positive]
        exact Nat.div_le_div_right spent
      simp only [iterations, ran]
      omega

end Exec

end Gritty
