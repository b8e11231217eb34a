import Mathlib.Tactic
import AccountStats.Text.Blank
import AccountStats.Text.Decimal
/-
Decimal digits as they are written.

Results:
- `ofDigitChars_paddedDecimal`, `length_paddedDecimal`: padding keeps the number, and gives the width if it fits;
- `head?_decimal`: a number is written without a leading zero, unless it is zero;
- `trimStart_digits`: digits are no blanks.
-/
namespace AccountStats.Text

variable {width n : Nat} {c : Char} {ds rest : List Char}

theorem ofDigitChars_decimal (n : Nat) : Nat.ofDigitChars 10 (decimal n) 0 = n := Nat.ofDigitChars_ten_toDigits

/-- **Padding keeps the number.** -/
theorem ofDigitChars_paddedDecimal (width n : Nat) : Nat.ofDigitChars 10 (paddedDecimal width n) 0 = n := by
  rw [paddedDecimal, Nat.ofDigitChars_append, Nat.ofDigitChars_replicate_zero, Nat.mul_zero, ofDigitChars_decimal]

theorem all_isDigit_paddedDecimal (width n : Nat) : (paddedDecimal width n).all Char.isDigit = true := by
  rw [paddedDecimal, List.all_append, all_isDigit_decimal, Bool.and_true, List.all_replicate]
  split <;> rfl

theorem paddedDecimal_ne_nil (width n : Nat) : paddedDecimal width n ≠ [] :=
  List.append_ne_nil_of_right_ne_nil _ (decimal_ne_nil n)

theorem length_decimal_le (hwidth : 0 < width) (h : n < 10 ^ width) : (decimal n).length ≤ width :=
  (Nat.length_toDigits_le_iff (by decide) hwidth).2 h

/-- **A number that fits is written in the given width.** -/
theorem length_paddedDecimal (hwidth : 0 < width) (h : n < 10 ^ width) : (paddedDecimal width n).length = width := by
  rw [paddedDecimal, List.length_append, List.length_replicate]
  exact Nat.sub_add_cancel (length_decimal_le hwidth h)

theorem digitChar_ne_zero (hpos : 0 < n) (h : n < 10) : n.digitChar ≠ '0' := by
  interval_cases n <;> decide

/-- **No leading zero**, unless the number is zero. -/
theorem head?_decimal (h : 0 < n) : (decimal n).head? ≠ some '0' := by
  induction n using Nat.strongRecOn with
  | ind n ih =>
    unfold decimal at ih ⊢
    by_cases hlt : n < 10
    · rw [Nat.toDigits_of_lt_base hlt, List.head?_cons, Ne, Option.some_inj]
      exact digitChar_ne_zero h hlt
    · rw [Nat.toDigits_of_base_le (by decide) (Nat.le_of_not_lt hlt), List.head?_append_of_ne_nil _ Nat.toDigits_ne_nil]
      exact ih (n / 10) (by omega) (by omega)

/-! ## Digits and blanks -/

theorem range_of_isDigit (h : c.isDigit = true) : 48 ≤ c.toNat ∧ c.toNat ≤ 57 := by
  rw [Char.isDigit, Bool.and_eq_true, decide_eq_true_eq, decide_eq_true_eq, ge_iff_le, UInt32.le_iff_toNat_le,
    UInt32.le_iff_toNat_le] at h
  exact h

theorem isBlank_of_isDigit (h : c.isDigit = true) : isBlank c = false := by
  have hrange := range_of_isDigit h
  simp only [isBlank, Bool.or_eq_false_iff, Bool.and_eq_false_iff, decide_eq_false_iff_not, beq_eq_false_iff_ne]
  omega

theorem trimStart_cons (h : isBlank c = false) (cs : List Char) : trimStart (c :: cs) = c :: cs := by
  rw [trimStart, List.dropWhile_cons_of_neg (by rw [h]; exact Bool.false_ne_true)]

/-- digits are no blanks -/
theorem trimStart_digits (hne : ds ≠ []) (hds : ds.all Char.isDigit = true) : trimStart (ds ++ rest) = ds ++ rest := by
  cases ds with
  | nil => exact absurd rfl hne
  | cons d ds =>
    rw [List.all_cons, Bool.and_eq_true] at hds
    exact trimStart_cons (isBlank_of_isDigit hds.1) _

end AccountStats.Text
