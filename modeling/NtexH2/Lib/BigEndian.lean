/-
  Lib/BigEndian.lean --- numbers as octets, the highest first.

  A field of `w` octets holds a number modulo `256 ^ w`; writing and reading a field
  are inverse to each other on the numbers that fit and on the fields of that width.
-/
import Mathlib.Tactic

set_option autoImplicit false

namespace Lib.BigEndian

/-- The lowest `w` octets of `n`. -/
def write : Nat → Nat → List UInt8
  | 0, _ => []
  | w + 1, n => (n / 256 ^ w).toUInt8 :: write w n

/-- The number in a field. -/
def read : List UInt8 → Nat
  | [] => 0
  | b :: l => b.toNat * 256 ^ l.length + read l

@[simp] theorem length_write (w n : Nat) : (write w n).length = w := by
  induction w with
  | zero => rfl
  | succ w ih => simp [write, ih]

/-- A field keeps what fits into it. -/
theorem read_write (w n : Nat) : read (write w n) = n % 256 ^ w := by
  induction w with
  | zero => simp [write, read, Nat.mod_one]
  | succ w ih =>
      have hdigit : (n / 256 ^ w).toUInt8.toNat = n / 256 ^ w % 256 := by
        rw [Nat.toUInt8, UInt8.toNat_ofNat']
      rw [write, read, length_write, ih, hdigit, pow_succ, Nat.mod_mul]
      ring

theorem read_write_of_lt {w n : Nat} (h : n < 256 ^ w) : read (write w n) = n := by
  rw [read_write, Nat.mod_eq_of_lt h]

end Lib.BigEndian
