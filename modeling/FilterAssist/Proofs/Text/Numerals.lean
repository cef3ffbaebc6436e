import Mathlib
import FilterAssist.Text.Basic

set_option autoImplicit false

/-!
Natural numbers in decimal digits: writing and reading undo each other, and a zero put after the digits
multiplies by ten.
-/
namespace FilterAssist

theorem of_nat_digits (n : Nat) : ∀ c ∈ Text.ofNat n, isDigit c = true := by
  intro c member
  have digit := Nat.isDigit_of_mem_toDigits (by decide) (by decide) member
  simpa [isDigit, Char.isDigit, Char.le_def] using digit

theorem of_nat_length (n count : Nat) (positive : 0 < count) :
    (Text.ofNat n).length ≤ count ↔ n < 10 ^ count :=
  Nat.length_toDigits_le_iff (by decide) positive

theorem of_nat_length_scaled (n places : Nat) (positive : 0 < n) :
    (Text.ofNat (n * 10 ^ places)).length = (Text.ofNat n).length + places := by
  induction places with
  | zero => simp
  | succ places ih =>
      have digits := Nat.toDigits_append_toDigits (b := 10) (d := 0) (by decide)
        (Nat.mul_pos positive (Nat.pow_pos (n := places) (by decide : 0 < 10))) (by decide)
      have shape : n * 10 ^ (places + 1) = 10 * (n * 10 ^ places) + 0 := by ring
      rw [shape, Text.ofNat, ← digits, List.length_append, ← Text.ofNat, ih]
      rfl

theorem read_nat_append (front back : Text) :
    readNat (front ++ back) = readNat front * 10 ^ back.length + readNat back := by
  induction back using List.reverseRecOn with
  | nil => simp [readNat]
  | append_singleton back c ih =>
      have last (digits : Text) : readNat (digits ++ [c]) = readNat digits * 10 + (c.toNat - '0'.toNat) := by
        simp [readNat]
      rw [← List.append_assoc, last, last, ih, List.length_append, List.length_singleton]
      ring

theorem read_nat_zeros (count : Nat) : readNat (List.replicate count '0') = 0 := by
  induction count with
  | zero => rfl
  | succ count ih => rw [List.replicate_succ', read_nat_append, ih]; rfl

theorem read_nat_of_nat (n : Nat) : readNat (Text.ofNat n) = n := by
  have read := Nat.ofDigitChars_ten_toDigits (n := n)
  simpa [readNat, Text.ofNat, Nat.ofDigitChars, Nat.mul_comm] using read

end FilterAssist
