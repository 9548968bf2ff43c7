import Mathlib.Tactic
import Mathlib.Data.List.Basic

/-! Big-endian numerals: byte strings of a fixed width read as natural numbers. -/

namespace Gritty

/-- A byte string. -/
abbrev Bytes := List UInt8

/-- The lowest base-256 digits of a number, most significant first. -/
def beBytes : Nat → Nat → Bytes
  | 0, _ => []
  | width + 1, value => UInt8.ofNat (value / 256 ^ width) :: beBytes width value

/-- The number a byte string spells, most significant digit first. -/
def beValue : Bytes → Nat
  | [] => 0
  | byte :: rest => byte.toNat * 256 ^ rest.length + beValue rest

/-- A numeral has exactly the width it was written at. -/
@[simp] theorem beBytes_length (width value : Nat) : (beBytes width value).length = width := by
  -- Each step writes one digit.
  induction width with
  | zero => rfl
  | succ width ih => simp [beBytes, ih]

/-- A byte string of a given width spells a number below that power of 256. -/
theorem beValue_lt (bytes : Bytes) : beValue bytes < 256 ^ bytes.length := by
  induction bytes with
  | nil => simp [beValue]
  | cons byte rest ih =>
    -- The leading digit is at most 255, and the tail is below one unit of it.
    have digit : byte.toNat < 256 := byte.toNat_lt
    have scaled : (byte.toNat + 1) * 256 ^ rest.length ≤ 256 * 256 ^ rest.length :=
      Nat.mul_le_mul_right _ digit
    have shape : (byte.toNat + 1) * 256 ^ rest.length =
        byte.toNat * 256 ^ rest.length + 256 ^ rest.length := by ring
    simp only [beValue, List.length_cons, Nat.pow_succ]
    omega

/-- Reading a numeral back gives the number, up to the digits that did not fit. -/
theorem beValue_beBytes (width value : Nat) :
    beValue (beBytes width value) = value % 256 ^ width := by
  induction width with
  | zero => simp [beBytes, beValue, Nat.mod_one]
  | succ width ih =>
    -- The next digit is the quotient by the lower digits, reduced to one byte.
    have digit : (UInt8.ofNat (value / 256 ^ width)).toNat = value / 256 ^ width % 256 := by
      simp
    rw [beBytes, beValue, digit, ih, beBytes_length, Nat.pow_succ, Nat.mod_mul]
    ring

/-- A number that fits its width survives being written and read. -/
theorem beValue_beBytes_of_lt {width value : Nat} (fits : value < 256 ^ width) :
    beValue (beBytes width value) = value := by
  rw [beValue_beBytes, Nat.mod_eq_of_lt fits]

/-- Writing the number a byte string spells gives the byte string back. -/
theorem beBytes_beValue (bytes : Bytes) : beBytes bytes.length (beValue bytes) = bytes := by
  induction bytes with
  | nil => rfl
  | cons byte rest ih =>
    have tail := beValue_lt rest
    have positive : 0 < 256 ^ rest.length := Nat.pow_pos (by decide)
    -- Dividing by the tail's unit leaves the leading digit.
    have lead : beValue (byte :: rest) / 256 ^ rest.length = byte.toNat := by
      rw [beValue, Nat.mul_comm, Nat.mul_add_div positive, Nat.div_eq_of_lt tail, Nat.add_zero]
    -- The lower digits do not see the leading one.
    have lower : ∀ width value lead, width ≤ rest.length →
        beBytes width (lead * 256 ^ rest.length + value) = beBytes width value := by
      intro width value lead
      induction width with
      | zero => intro _; rfl
      | succ width stepped =>
        intro within
        rw [beBytes, beBytes, stepped (by omega)]
        congr 1
        obtain ⟨gap, same⟩ : ∃ gap, rest.length = width + 1 + gap := ⟨_, (by omega : _ =
          width + 1 + (rest.length - (width + 1)))⟩
        have split : lead * 256 ^ rest.length + value =
            256 ^ width * (lead * 256 ^ gap * 256) + value := by
          rw [same, Nat.pow_add, Nat.pow_add]; ring
        rw [split, Nat.mul_add_div (Nat.pow_pos (by decide))]
        apply UInt8.toNat_inj.mp
        simp only [UInt8.toNat_ofNat']
        omega
    simp only [List.length_cons, beBytes, lead, UInt8.ofNat_toNat]
    rw [beValue, lower _ _ _ (Nat.le_refl _), ih]

end Gritty
