import Mathlib.Tactic
import AccountStats.Json.Reader
import AccountStats.Json.Writer
import AccountStats.Proofs.Text.Decimal
/-
String literals and whole numbers are read back as they were written.

Results:
- `readLiteral_text`: any text, whatever its characters;
- `readNumber_signedDecimal`: any whole number of the range, in front of what ends a value.
-/
namespace AccountStats.Json

open AccountStats.Text

variable {c : Char} {ps : List Piece}

/-! ## String literals -/

theorem hexValue?_hexDigit (n : Nat) : hexValue? (hexDigit n) = some (n % 16) := by
  have h : ∀ k < 16, hexValue? (Nat.digitChar k) = some k := by decide
  exact h (n % 16) (Nat.mod_lt _ (by decide))

/-- the result of reading goes on behind one more mark -/
def behind (m : Mark) (found : Option (List Mark × List Piece)) : Option (List Mark × List Piece) :=
  found.map fun found => (m :: found.1, found.2)

theorem readMarks_short {e : Char} (h : shortEscape? e = some c) :
    readMarks (some '\\' :: some e :: ps) = behind (.char c) (readMarks ps) := by
  rw [readMarks]
  · rw [h]
    cases readMarks ps <;> rfl
  · rintro - - - - - - rfl
    cases h

theorem readMarks_unit {a b c d : Char} {n : Nat} (h : hex4? (some a) (some b) (some c) (some d) = some n) :
    readMarks (some '\\' :: some 'u' :: some a :: some b :: some c :: some d :: ps) =
      behind (Mark.ofUnit n) (readMarks ps) := by
  rw [readMarks, h]
  cases readMarks ps <;> rfl

theorem readMarks_plain (hquote : c ≠ '"') (hslash : c ≠ '\\') (hplain : 0x20 ≤ c.toNat) :
    readMarks (some c :: ps) = behind (.char c) (readMarks ps) := by
  have hplain : ¬ (c = '\\' ∨ c.toNat < 0x20) := by
    rintro (h | h)
    · exact hslash h
    · omega
  rw [readMarks, if_neg hplain]
  · cases readMarks ps <;> rfl
  · exact hquote
  · exact fun _ _ _ _ _ _ => hslash
  · exact fun _ _ _ => hslash

/-- a control character is what its four hex digits write -/
theorem hex4?_control (h : c.toNat < 0x20) :
    hex4? (some '0') (some '0') (some (hexDigit (c.toNat / 16))) (some (hexDigit c.toNat)) = some c.toNat := by
  have hzero : hexValue? '0' = some 0 := by decide
  simp only [hex4?, Option.bind_eq_bind, Option.bind_some, hzero, hexValue?_hexDigit, Option.pure_def, Option.some_inj]
  omega

theorem ofUnit_control (h : c.toNat < 0x20) : Mark.ofUnit c.toNat = .char c := by
  rw [Mark.ofUnit, if_neg (by omega), Char.ofNat_toNat]

/-- **A character is read back**, escaped or as it is. -/
theorem readMarks_escape (c : Char) (ps : List Piece) :
    readMarks ((escape c).map some ++ ps) = behind (.char c) (readMarks ps) := by
  unfold escape
  split_ifs with hquote hslash hplain hn hr ht hb hf
  · exact readMarks_short (by rw [hquote]; rfl)
  · exact readMarks_short (by rw [hslash]; rfl)
  · exact readMarks_plain hquote hslash hplain
  · exact readMarks_short (by rw [hn]; rfl)
  · exact readMarks_short (by rw [hr]; rfl)
  · exact readMarks_short (by rw [ht]; rfl)
  · exact readMarks_short (by rw [hb]; rfl)
  · exact readMarks_short (by rw [hf]; rfl)
  · have hcontrol : c.toNat < 0x20 := Nat.lt_of_not_le hplain
    rw [← ofUnit_control hcontrol]
    exact readMarks_unit (hex4?_control hcontrol)

theorem readMarks_text (cs : List Char) (ps : List Piece) :
    readMarks ((cs.flatMap escape).map some ++ some '"' :: ps) = some (cs.map .char, ps) := by
  induction cs with
  | nil => rfl
  | cons c cs ih =>
    rw [List.flatMap_cons, List.map_append, List.append_assoc, readMarks_escape, ih]
    rfl

theorem spell_char (cs : List Char) : spell (cs.map .char) = some cs := by
  induction cs with
  | nil => rfl
  | cons c cs ih =>
    rw [List.map_cons, spell, ih]
    rfl

/-- **A text is read back from its literal**, whatever its characters. -/
theorem readLiteral_text (s : String) (ps : List Piece) :
    readLiteral ((s.toList.flatMap escape).map some ++ some '"' :: ps) = some (some s, ps) := by
  simp only [readLiteral, readMarks_text, spell_char, Option.map_some, String.ofList_toList]

/-! ## Whole numbers -/

/-- what may follow a value: nothing, or what ends or parts the values around it -/
def Ends (rest : List Char) : Prop := ∀ c ∈ rest.head?, c = ',' ∨ c = ']' ∨ c = '\x7d'

variable {n : Nat} {rest ds : List Char}

theorem spanDigits_append (hds : ds.all Char.isDigit = true) (hrest : Ends rest) :
    spanDigits ((ds ++ rest).map some) = (ds, rest.map some) := by
  induction ds with
  | nil =>
    cases rest with
    | nil => rfl
    | cons c rest =>
      have hc : c.isDigit = false := by rcases hrest c rfl with rfl | rfl | rfl <;> rfl
      rw [List.nil_append, List.map_cons, spanDigits, hc, if_neg Bool.false_ne_true]
  | cons d ds ih =>
    rw [List.all_cons, Bool.and_eq_true] at hds
    rw [List.cons_append, List.map_cons, spanDigits, if_pos hds.1, ih hds.2]

/-- the digits of a number are its whole part -/
theorem readWhole_decimal (n : Nat) (hrest : Ends rest) :
    readWhole ((decimal n ++ rest).map some) = some (decimal n, rest.map some) := by
  have hspan := spanDigits_append (all_isDigit_decimal n) hrest
  cases hds : decimal n with
  | nil => exact absurd hds (decimal_ne_nil n)
  | cons d ds =>
    rw [hds] at hspan
    by_cases hzero : n = 0
    · subst hzero
      cases hds
      rfl
    · have hd : d ≠ '0' := by
        have := head?_decimal (Nat.pos_of_ne_zero hzero)
        rwa [hds, List.head?_cons, Ne, Option.some_inj] at this
      rw [List.cons_append, List.map_cons] at hspan ⊢
      rw [readWhole, hspan]
      exact fun _ h => hd (Option.some.inj (List.cons.inj h).1)

theorem readFraction_ends (hrest : Ends rest) : readFraction (rest.map some) = some (none, rest.map some) := by
  cases rest with
  | nil => rfl
  | cons c rest => rcases hrest c rfl with rfl | rfl | rfl <;> rfl

theorem readExponent_ends (hrest : Ends rest) : readExponent (rest.map some) = some (none, rest.map some) := by
  cases rest with
  | nil => rfl
  | cons c rest => rcases hrest c rfl with rfl | rfl | rfl <;> rfl

theorem decimal_ne_minus {ps : List Piece} : (decimal n ++ rest).map some ≠ some '-' :: ps := by
  intro hps
  have hall := all_isDigit_decimal n
  cases hds : decimal n with
  | nil => exact decimal_ne_nil n hds
  | cons d ds =>
    rw [hds] at hps hall
    rw [List.all_cons, Option.some.inj (List.cons.inj hps).1] at hall
    cases hall

theorem assemble_whole {negative : Bool} {v : Int} (hsign : (if negative then -(n : Int) else n) = v)
    (hzero : negative = true → n ≠ 0) (hlow : -9223372036854775808 ≤ v) (hhigh : v < 18446744073709551616) :
    assemble negative (decimal n) none none = .int v := by
  have hin : ¬ ((negative = true ∧ n = 0) ∨ v < -9223372036854775808 ∨ 18446744073709551616 ≤ v) := by
    rintro (⟨hneg, h⟩ | h)
    · exact hzero hneg h
    · omega
  simp only [assemble, ofDigitChars_decimal, hsign]
  exact if_neg hin

/-- **A whole number is read back** if it is in the range of those kept as such. -/
theorem readNumber_signedDecimal {v : Int} (hlow : -9223372036854775808 ≤ v) (hhigh : v < 18446744073709551616)
    (hrest : Ends rest) : readNumber ((signedDecimal v ++ rest).map some) = some (.int v, rest.map some) := by
  cases v with
  | ofNat n =>
    have hwhole : assemble false (decimal n) none none = .int (Int.ofNat n) :=
      assemble_whole rfl (fun h => absurd h Bool.false_ne_true) hlow hhigh
    rw [signedDecimal, readNumber]
    · simp only [readWhole_decimal n hrest, readFraction_ends hrest, readExponent_ends hrest, Option.bind_eq_bind,
        Option.bind_some, Option.pure_def, hwhole]
    · exact fun _ => decimal_ne_minus
  | negSucc n =>
    have hwhole : assemble true (decimal (n + 1)) none none = .int (Int.negSucc n) :=
      assemble_whole rfl (fun _ => Nat.succ_ne_zero n) hlow hhigh
    rw [signedDecimal, List.cons_append, List.map_cons, readNumber]
    simp only [readWhole_decimal _ hrest, readFraction_ends hrest, readExponent_ends hrest, Option.bind_eq_bind,
      Option.bind_some, Option.pure_def, hwhole]

end AccountStats.Json
