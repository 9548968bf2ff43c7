import Mathlib.Tactic

/-! Decimal numbers of 32 bits, as they are written and as they are read. -/

namespace Gritty

/-- The decimal form of a number. -/
def decimal (number : UInt32) : String := number.toNat.repr

/-- One more digit of a number that has to stay within 32 bits. -/
def pushDigit (value : Nat) (digit : Char) : Option Nat :=
  if digit.isDigit ∧ 10 * value + (digit.toNat - '0'.toNat) < 2 ^ 32 then
    some (10 * value + (digit.toNat - '0'.toNat))
  else none

/-- The digits of a number, after a plus sign that may stand before them. -/
def unsigned (text : List Char) : List Char :=
  match text with
  | '+' :: digits => digits
  | digits => digits

/-- The 32-bit number a text stands for: digits, at least one, and maybe a plus sign. -/
def parseU32 (text : String) : Option UInt32 :=
  if unsigned text.toList = [] then none
  else ((unsigned text.toList).foldlM pushDigit 0).map UInt32.ofNat

/-- A number only grows with each digit. -/
theorem le_ofDigitChars (digits : List Char) (value : Nat) :
    value ≤ Nat.ofDigitChars 10 digits value := by
  rw [Nat.ofDigitChars_eq_ofDigitChars_zero]
  exact Nat.le_add_right_of_le (Nat.le_mul_of_pos_left _ (by positivity))

/-- One more digit of a number that has to stay below a limit. -/
def pushDigitBelow (limit value : Nat) (digit : Char) : Option Nat :=
  if digit.isDigit ∧ 10 * value + (digit.toNat - '0'.toNat) < limit then
    some (10 * value + (digit.toNat - '0'.toNat))
  else none

/-- The number below a limit that a text stands for. -/
def parseBelow (limit : Nat) (text : List Char) : Option Nat :=
  if unsigned text = [] then none else (unsigned text).foldlM (pushDigitBelow limit) 0

/-- Digits whose number stays below the limit are read to that number. -/
theorem foldlM_pushDigitBelow {limit : Nat} {digits : List Char}
    (decimals : ∀ digit ∈ digits, digit.isDigit = true) (value : Nat)
    (small : Nat.ofDigitChars 10 digits value < limit) :
    digits.foldlM (pushDigitBelow limit) value = some (Nat.ofDigitChars 10 digits value) := by
  -- The number only grows with each digit, so the bound holds at every one of them.
  induction digits generalizing value with
  | nil => simp
  | cons digit digits ih =>
    rw [Nat.ofDigitChars_cons] at small ⊢
    have grows := le_ofDigitChars digits (10 * value + (digit.toNat - '0'.toNat))
    have pushed : pushDigitBelow limit value digit =
        some (10 * value + (digit.toNat - '0'.toNat)) := by
      unfold pushDigitBelow
      rw [if_pos ⟨decimals digit (by simp), by omega⟩]
    rw [List.foldlM_cons, pushed]
    exact ih (fun later member => decimals later (by simp [member])) _ small

/-- What is read as a number is digits, after the sign. -/
theorem isDigit_of_parseBelow {limit number : Nat} {text : List Char}
    (read : parseBelow limit text = some number) : ∀ char ∈ unsigned text, char.isDigit = true := by
  rw [parseBelow] at read
  split_ifs at read
  generalize unsigned text = digits at read
  generalize 0 = value at read
  induction digits generalizing value with
  | nil => exact fun _ none_ => absurd none_ List.not_mem_nil
  | cons digit digits ih =>
    rw [List.foldlM_cons, pushDigitBelow] at read
    split_ifs at read with next
    · rw [Option.bind_eq_bind, Option.bind_some] at read
      intro char among
      rcases List.mem_cons.mp among with rfl | later
      · exact next.1
      · exact ih _ read char later
    · cases read

/-- Digits begin with no sign. -/
theorem unsigned_toDigits (number : Nat) :
    unsigned (Nat.toDigits 10 number) = Nat.toDigits 10 number := by
  -- A plus sign is no digit.
  unfold unsigned
  split
  · rename_i digits signed
    have digit : ('+').isDigit = true :=
      Nat.isDigit_of_mem_toDigits (by decide) (by decide) (signed ▸ List.mem_cons_self)
    exact absurd digit (by decide)
  · rfl

/-- The digits of a number below the limit are read back to it. -/
theorem parseBelow_toDigits {limit number : Nat} (small : number < limit) :
    parseBelow limit (Nat.toDigits 10 number) = some number := by
  have digits : ∀ digit ∈ Nat.toDigits 10 number, digit.isDigit = true :=
    fun digit member => Nat.isDigit_of_mem_toDigits (by decide) (by decide) member
  unfold parseBelow
  rw [unsigned_toDigits, if_neg Nat.toDigits_ne_nil, foldlM_pushDigitBelow digits 0,
    Nat.ofDigitChars_ten_toDigits]
  rwa [Nat.ofDigitChars_ten_toDigits]

/-- Reading a 32-bit number is reading one below its limit. -/
theorem parseU32_eq (text : String) :
    parseU32 text = (parseBelow (2 ^ 32) text.toList).map UInt32.ofNat := by
  have same : pushDigit = pushDigitBelow (2 ^ 32) := rfl
  unfold parseU32 parseBelow
  rw [same]
  split <;> rfl

/-- A number's decimal form is read back to the number. -/
@[simp] theorem parseU32_decimal (number : UInt32) : parseU32 (decimal number) = some number := by
  rw [parseU32_eq, decimal, Nat.toList_repr, parseBelow_toDigits number.toNat_lt]
  simp

example : parseU32 "+7" = some 7 ∧ parseU32 "007" = some 7 ∧ parseU32 "-" = none := by decide

end Gritty
