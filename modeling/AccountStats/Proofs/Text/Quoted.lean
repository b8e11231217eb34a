import Mathlib.Tactic
import AccountStats.Text.Percent
import AccountStats.Text.Quoted
import AccountStats.Proofs.Text.Split
/-
Texts in quotes can be told apart.

Results:
- `hexValue_hex`: a number is read back from its hexadecimal digits;
- `readQuoted_quotedChar`: a character is read back from how it stands between quotes, whatever follows;
- `quotedChar_ascii`: what is printed on a line stands as it is, quotes and backslashes apart;
- `quoted_append_inj`: a text in quotes is told from any other, and from what follows.
-/
namespace AccountStats.Text

variable {c : Char} {cs ds rest more : List Char} {n : Nat}

/-! ## Hexadecimal numbers -/

theorem hexDigit?_digitChar (h : n < 16) : hexDigit? (Nat.digitChar n) = some n := by
  have hall : ∀ n < 16, hexDigit? (Nat.digitChar n) = some n := by decide
  exact hall n h

/-- the number that hexadecimal digits come to -/
def hexValue (cs : List Char) : Nat := cs.foldl (fun n c => 16 * n + (hexDigit? c).getD 0) 0

/-- a number of two digits or more ends in one, with the digits of a smaller number before it -/
theorem hex_eq_append (h : 16 ≤ n) : hex n = hex (n / 16) ++ [Nat.digitChar (n % 16)] :=
  Nat.toDigits_of_base_le (by decide) h

theorem hex_of_lt (h : n < 16) : hex n = [Nat.digitChar n] := Nat.toDigits_of_lt_base h

/-- **A number is read back from its digits.** -/
theorem hexValue_hex (n : Nat) : hexValue (hex n) = n := by
  induction n using Nat.strongRecOn with
  | ind n ih =>
    by_cases hlt : n < 16
    · rw [hex_of_lt hlt, hexValue, List.foldl_cons, hexDigit?_digitChar hlt]
      exact Nat.zero_add n
    · have hfront : hexValue (hex (n / 16)) = n / 16 := ih (n / 16) (by omega)
      rw [hexValue] at hfront
      rw [hex_eq_append (Nat.le_of_not_lt hlt), hexValue, List.foldl_concat, hfront,
        hexDigit?_digitChar (Nat.mod_lt _ (by decide))]
      exact Nat.div_add_mod n 16

theorem isSome_of_mem_hex (h : c ∈ hex n) : (hexDigit? c).isSome = true := by
  induction n using Nat.strongRecOn with
  | ind n ih =>
    by_cases hlt : n < 16
    · rw [hex_of_lt hlt, List.mem_singleton] at h
      rw [h, hexDigit?_digitChar hlt]
      rfl
    · rw [hex_eq_append (Nat.le_of_not_lt hlt), List.mem_append, List.mem_singleton] at h
      rcases h with h | rfl
      · exact ih (n / 16) (by omega) h
      · rw [hexDigit?_digitChar (Nat.mod_lt _ (by decide))]
        rfl

/-! ## Characters -/

/-- what an escape stands for -/
def escapes : List (Char × Char) :=
  [('0', '\x00'), ('t', '\t'), ('r', '\r'), ('n', '\n'), ('"', '"'), ('\\', '\\')]

/-- the first character of what stands between quotes, and the rest -/
def readQuoted : List Char → Option (Char × List Char)
  | '\\' :: 'u' :: '\x7b' :: cs =>
    (splitOnce '\x7d' cs).map fun (digits, rest) => (Char.ofNat (hexValue digits), rest)
  | '\\' :: c :: cs => (escapes.lookup c).map fun c => (c, cs)
  | c :: cs => some (c, cs)
  | [] => none

/-- **A character is read back from how it stands between quotes.** -/
theorem readQuoted_quotedChar (c : Char) (rest : List Char) : readQuoted (quotedChar c ++ rest) = some (c, rest) := by
  unfold quotedChar
  split_ifs with hnul htab hreturn hfeed hquote hslash hinvisible
  · rw [hnul]
    rfl
  · rw [htab]
    rfl
  · rw [hreturn]
    rfl
  · rw [hfeed]
    rfl
  · rw [hquote]
    rfl
  · rw [hslash]
    rfl
  · have hclose : '\x7d' ∉ hex c.toNat := fun hmem => absurd (isSome_of_mem_hex hmem) (by decide)
    have hcut : splitOnce '\x7d' (hex c.toNat ++ '\x7d' :: rest) = some (hex c.toNat, rest) :=
      splitOnce_eq_some_iff.2 ⟨rfl, hclose⟩
    have hread : readQuoted ('\\' :: 'u' :: '\x7b' :: (hex c.toNat ++ '\x7d' :: rest)) =
        some (Char.ofNat (hexValue (hex c.toNat)), rest) := by
      rw [readQuoted, hcut]
      rfl
    rw [hexValue_hex, Char.ofNat_toNat] at hread
    simpa using hread
  · rw [List.singleton_append, readQuoted.eq_def]
    split
    · next heq =>
      cases heq
      exact absurd rfl hslash
    · next heq =>
      cases heq
      exact absurd rfl hslash
    · next heq =>
      cases heq
      rfl
    · next heq => cases heq

/-- no character stands there as a quote -/
theorem quotedChar_append_ne (c : Char) (rest more : List Char) : quotedChar c ++ rest ≠ '"' :: more := by
  intro h
  have hread := readQuoted_quotedChar c rest
  rw [h] at hread
  cases hread
  exact absurd h (by simp [quotedChar])

/-! ## ASCII -/

theorem forall_ascii {P : Char → Prop} (hall : ∀ n < 128, P (Char.ofNat n)) (h : c.toNat < 128) : P c :=
  Char.ofNat_toNat c ▸ hall c.toNat h

/-- no ASCII character is a mark, -/
theorem isMark_ascii (h : c.toNat < 128) : isMark c = false :=
  forall_ascii (P := fun c => isMark c = false) (by decide +kernel) h

/-- and just those between the blank and the last one are printed -/
theorem isUnprintable_ascii (h : c.toNat < 128) : isUnprintable c = true ↔ c.toNat < 0x20 ∨ c.toNat = 0x7F :=
  forall_ascii (P := fun c => isUnprintable c = true ↔ c.toNat < 0x20 ∨ c.toNat = 0x7F) (by decide +kernel) h

/-- **What is printed stands between quotes as it is**, quotes and backslashes apart. -/
theorem quotedChar_ascii (hlow : 0x20 ≤ c.toNat) (hhigh : c.toNat < 0x7F) (hquote : c ≠ '"') (hslash : c ≠ '\\') :
    quotedChar c = [c] := by
  have hcontrol {d : Char} (hd : d.toNat < 0x20) : c ≠ d := by
    rintro rfl
    exact absurd hlow (Nat.not_le.2 hd)
  have hfiller : fillers.contains c = false := by
    rw [Bool.eq_false_iff]
    intro hmem
    have hall : fillers.all (fun f => 0x7F ≤ f.toNat) = true := by rfl
    exact absurd hhigh (Nat.not_lt.2 (of_decide_eq_true (List.all_eq_true.1 hall c (List.contains_iff_mem.1 hmem))))
  have hascii : c.toNat < 128 := Nat.lt_succ_of_lt hhigh
  have hprinted : isUnprintable c = false := by
    rw [Bool.eq_false_iff, Ne, isUnprintable_ascii hascii]
    omega
  have hvisible : isInvisible c = false := by
    rw [isInvisible, hprinted, isExtending, isMark_ascii hascii, hfiller]
    rfl
  rw [quotedChar, if_neg (hcontrol (by decide)), if_neg (hcontrol (by decide)), if_neg (hcontrol (by decide)),
    if_neg (hcontrol (by decide)), if_neg hquote, if_neg hslash, hvisible, if_neg Bool.false_ne_true]

/-! ## Texts -/

theorem flatMap_quotedChar_inj (h : cs.flatMap quotedChar ++ '"' :: rest = ds.flatMap quotedChar ++ '"' :: more) :
    cs = ds ∧ rest = more := by
  induction cs generalizing ds with
  | nil =>
    cases ds with
    | nil => exact ⟨rfl, (List.cons.inj h).2⟩
    | cons d ds =>
      rw [List.flatMap_cons, List.append_assoc] at h
      exact absurd h.symm (quotedChar_append_ne d _ _)
  | cons c cs ih =>
    rw [List.flatMap_cons, List.append_assoc] at h
    cases ds with
    | nil => exact absurd h (quotedChar_append_ne c _ _)
    | cons d ds =>
      rw [List.flatMap_cons, List.append_assoc] at h
      have hread := readQuoted_quotedChar c (cs.flatMap quotedChar ++ '"' :: rest)
      rw [h, readQuoted_quotedChar d] at hread
      obtain ⟨hfirst, hothers⟩ := Prod.mk.inj (Option.some.inj hread)
      obtain ⟨hcs, hrest⟩ := ih hothers.symm
      exact ⟨by rw [hfirst, hcs], hrest⟩

/-- **A text in quotes can be told from any other, and from what follows.** -/
theorem quoted_append_inj {s t : String} (h : (quoted s).toList ++ rest = (quoted t).toList ++ more) :
    s = t ∧ rest = more := by
  simp only [quoted, String.toList_ofList, List.cons_append, List.append_assoc, List.nil_append] at h
  obtain ⟨hsame, hrest⟩ := flatMap_quotedChar_inj (List.cons.inj h).2
  exact ⟨String.toList_inj.1 hsame, hrest⟩

end AccountStats.Text
