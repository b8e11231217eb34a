import Mathlib.Tactic
import AccountStats.Proofs.Text.Blank
import AccountStats.Proofs.Text.Decimal
/-
Texts that spell whole numbers, and the readers of numbers.

A number is spelled by one digit or more, leading zeros included, with a sign in front or without. Results:
- `unsigned?_eq_some_iff`, `signed?_eq_some_iff`: a reader takes just the texts that spell a number of its width;
- `Unsigned.decimal`, `Signed.signedDecimal`: a number as it is written spells that number.
-/
namespace AccountStats.Text

variable {c : Char} {cs : List Char} {bits n : Nat} {v : Int}

/-! ## Spelling -/

/-- one digit or more, and the number they spell -/
structure Digits (cs : List Char) (n : Nat) : Prop where
  ne_nil : cs ≠ []
  digits : ∀ c ∈ cs, c.isDigit = true
  value : Nat.ofDigitChars 10 cs 0 = n

/-- digits, or a plus sign and digits -/
inductive Unsigned : List Char → Nat → Prop where
  | plain {cs : List Char} {n : Nat} : Digits cs n → Unsigned cs n
  | plus {cs : List Char} {n : Nat} : Digits cs n → Unsigned ('+' :: cs) n

/-- digits, or a sign and digits -/
inductive Signed : List Char → Int → Prop where
  | plain {cs : List Char} {n : Nat} : Digits cs n → Signed cs n
  | plus {cs : List Char} {n : Nat} : Digits cs n → Signed ('+' :: cs) n
  | minus {cs : List Char} {n : Nat} : Digits cs n → Signed ('-' :: cs) (-n)

theorem Digits.decimal (n : Nat) : Digits (decimal n) n where
  ne_nil := decimal_ne_nil n
  digits := List.all_eq_true.1 (all_isDigit_decimal n)
  value := ofDigitChars_decimal n

theorem Unsigned.decimal (n : Nat) : Unsigned (decimal n) n := .plain (.decimal n)

/-- **A number as it is written spells that number.** -/
theorem Signed.signedDecimal (v : Int) : Signed (signedDecimal v) v := by
  cases v with
  | ofNat n => exact .plain (.decimal n)
  | negSucc n => exact .minus (.decimal (n + 1))

/-! ## Reading -/

theorem magnitude?_eq_some_iff : magnitude? cs = some n ↔ Digits cs n := by
  unfold magnitude?
  constructor
  · intro h
    split at h
    · next hcs => exact ⟨hcs.1, List.all_eq_true.1 hcs.2, Option.some.inj h⟩
    · cases h
  · rintro ⟨hne, hdigits, rfl⟩
    exact if_pos ⟨hne, List.all_eq_true.2 hdigits⟩

/-- digits do not begin with a sign -/
theorem Digits.head_ne (h : Digits (c :: cs) n) : c ≠ '+' ∧ c ≠ '-' := by
  have hc := h.digits c List.mem_cons_self
  constructor <;> rintro rfl <;> simp at hc

/-- **The reader of unsigned numbers takes just what spells a number of its width.** -/
theorem unsigned?_eq_some_iff : unsigned? bits cs = some n ↔ Unsigned cs n ∧ n < 2 ^ bits := by
  have hplus : unsigned? bits cs = some n → Unsigned cs n ∧ n < 2 ^ bits := by
    unfold unsigned?
    simp only [Option.filter_eq_some_iff, magnitude?_eq_some_iff, decide_eq_true_eq]
    rintro ⟨hdigits, hlt⟩
    refine ⟨?_, hlt⟩
    split at hdigits
    · exact .plus hdigits
    · exact .plain hdigits
  refine ⟨hplus, ?_⟩
  rintro ⟨hspelled, hlt⟩
  unfold unsigned?
  simp only [Option.filter_eq_some_iff, magnitude?_eq_some_iff, decide_eq_true_eq]
  refine ⟨?_, hlt⟩
  cases hspelled with
  | plus h => exact h
  | plain h =>
    split
    · exact absurd rfl h.head_ne.1
    · exact h

/-- what is read as a word of 32 bits -/
theorem word_eq_some_iff {n : UInt32} :
    ((unsigned? 32 cs).bind fun m => some (UInt32.ofNat m)) = some n ↔ Unsigned cs n.toNat := by
  simp only [Option.bind_eq_some_iff, unsigned?_eq_some_iff, Option.some_inj]
  constructor
  · rintro ⟨m, ⟨hspelled, hlt⟩, rfl⟩
    rwa [UInt32.toNat_ofNat_of_lt' hlt]
  · intro hspelled
    exact ⟨n.toNat, ⟨hspelled, n.toNat_lt⟩, UInt32.ofNat_toNat⟩

/-- **The reader of signed numbers takes just what spells a number of its width.** -/
theorem signed?_eq_some_iff :
    signed? bits cs = some v ↔ Signed cs v ∧ -(2 ^ (bits - 1) : Nat) ≤ v ∧ v < (2 ^ (bits - 1) : Nat) := by
  have hwidth : Nat.pow 2 (bits - 1) = 2 ^ (bits - 1) := rfl
  unfold signed?
  simp only [Option.filter_eq_some_iff, Bool.and_eq_true, decide_eq_true_eq, hwidth]
  refine and_congr_left fun _ => ⟨fun h => ?_, fun h => ?_⟩
  · split at h
    all_goals obtain ⟨n, hn, rfl⟩ := Option.map_eq_some_iff.1 h
    · exact .plus (magnitude?_eq_some_iff.1 hn)
    · obtain ⟨k, hk, hcast⟩ := Option.bind_eq_some_iff.1 hn
      cases hcast
      exact .minus (magnitude?_eq_some_iff.1 hk)
    · exact .plain (magnitude?_eq_some_iff.1 hn)
  · cases h with
    | plus h => simp [magnitude?_eq_some_iff.2 h]
    | minus h => simp [magnitude?_eq_some_iff.2 h]
    | plain h =>
      split
      · exact absurd rfl h.head_ne.1
      · exact absurd rfl h.head_ne.2
      · simp [magnitude?_eq_some_iff.2 h]

/-! ## Numbers and blanks -/

theorem Digits.tight (h : Digits cs n) : Tight cs where
  head c hc := isBlank_of_isDigit (h.digits c (List.mem_of_mem_head? hc))
  last c hc := isBlank_of_isDigit (h.digits c (List.mem_of_mem_getLast? hc))

theorem Digits.tight_cons (h : Digits cs n) (hc : isBlank c = false) : Tight (c :: cs) where
  head d hd := by
    cases hd
    exact hc
  last d hd := by
    rw [List.getLast?_cons_of_ne_nil h.ne_nil] at hd
    exact h.tight.last d hd

theorem Unsigned.tight (h : Unsigned cs n) : Tight cs := by
  cases h with
  | plain h => exact h.tight
  | plus h => exact h.tight_cons rfl

theorem Signed.tight (h : Signed cs v) : Tight cs := by
  cases h with
  | plain h => exact h.tight
  | plus h => exact h.tight_cons rfl
  | minus h => exact h.tight_cons rfl

/-! ## Numbers and printing -/

theorem Digits.printing (h : Digits cs n) : ∀ c ∈ cs, 0x20 ≤ c.toNat ∧ c.toNat < 0x7F := by
  intro c hc
  have hrange := range_of_isDigit (h.digits c hc)
  omega

/-- numbers are spelled in visible ASCII -/
theorem Signed.printing (h : Signed cs v) : ∀ c ∈ cs, 0x20 ≤ c.toNat ∧ c.toNat < 0x7F := by
  cases h with
  | plain h => exact h.printing
  | plus h => exact List.forall_mem_cons.2 ⟨by decide, h.printing⟩
  | minus h => exact List.forall_mem_cons.2 ⟨by decide, h.printing⟩

end AccountStats.Text
