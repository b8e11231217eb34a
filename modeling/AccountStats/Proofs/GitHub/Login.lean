import Mathlib.Tactic
import AccountStats.GitHub.Login
import AccountStats.Proofs.Text.Utf8
/-
What passes as a login is one.

Results:
- `spelled_of_isLogin`: a text that passes is made of ASCII letters, digits and single hyphens between them;
- `length_of_isLogin`: it is not too long.
-/
namespace AccountStats.GitHub

namespace Login

variable {c : Char} {cs : List Char}

/-! ## Spelling from the left -/

theorem Spelled.cons (hc : c.isAlphanum = true) (h : Spelled cs) : Spelled (c :: cs) := by
  induction h with
  | single hd => exact .snoc (.single hc) hd
  | snoc _ hd ih => exact .snoc ih hd
  | hyphen _ hd ih => exact .hyphen ih hd

theorem Spelled.cons_hyphen (hc : c.isAlphanum = true) (h : Spelled cs) : Spelled (c :: '-' :: cs) := by
  induction h with
  | single hd => exact .hyphen (.single hc) hd
  | snoc _ hd ih => exact .snoc ih hd
  | hyphen _ hd ih => exact .hyphen ih hd

theorem hasDoubleHyphen_tail (h : hasDoubleHyphen (c :: cs) = false) : hasDoubleHyphen cs = false := by
  unfold hasDoubleHyphen at h
  split at h
  · cases h
  · next heq =>
    cases heq
    exact h
  · next heq => cases heq

theorem getLast?_tail (h : (c :: cs).getLast? ≠ some '-') : cs.getLast? ≠ some '-' := by
  cases cs with
  | nil => exact nofun
  | cons d cs => rwa [List.getLast?_cons_cons] at h

/-- letters, digits and single hyphens are spelled with any letter or digit in front, and without one if they do not
begin with a hyphen -/
theorem spelled_of_checks (hall : ∀ d ∈ cs, d.isAlphanum = true ∨ d = '-') (hdouble : hasDoubleHyphen cs = false)
    (hlast : cs.getLast? ≠ some '-') :
    (∀ c, c.isAlphanum = true → Spelled (c :: cs)) ∧ (cs ≠ [] → cs.head? ≠ some '-' → Spelled cs) := by
  induction cs with
  | nil => exact ⟨fun c hc => .single hc, fun hne => absurd rfl hne⟩
  | cons d rest ih =>
    obtain ⟨hd, hrest⟩ := List.forall_mem_cons.1 hall
    obtain ⟨hfront, hwithout⟩ := ih hrest (hasDoubleHyphen_tail hdouble) (getLast?_tail hlast)
    rcases hd with hd | rfl
    · have hspelled : Spelled (d :: rest) := hfront d hd
      exact ⟨fun c hc => hspelled.cons hc, fun _ _ => hspelled⟩
    · have hne : rest ≠ [] := by
        rintro rfl
        exact hlast rfl
      have hhead : rest.head? ≠ some '-' := by
        intro hhyphen
        obtain ⟨rest, rfl⟩ := List.head?_eq_some_iff.1 hhyphen
        cases hdouble
      exact ⟨fun c hc => (hwithout hne hhead).cons_hyphen hc, fun _ hnot => absurd rfl hnot⟩

end Login

variable {username : String}

/-- **A text that passes as a login is spelled as one.** -/
theorem spelled_of_isLogin (h : isLogin username = true) : Login.Spelled username.toList := by
  simp only [isLogin, Bool.and_eq_true, decide_eq_true_eq, bne_iff_ne, Bool.not_eq_true', List.all_eq_true,
    Bool.or_eq_true, beq_iff_eq] at h
  obtain ⟨⟨⟨⟨⟨hne, -⟩, hhead⟩, hlast⟩, hdouble⟩, hall⟩ := h
  exact (Login.spelled_of_checks hall hdouble hlast).2 hne hhead

/-- no character is encoded in less than a byte -/
theorem length_le_utf8Encode (cs : List Char) : cs.length ≤ cs.utf8Encode.size := by
  induction cs with
  | nil => exact Nat.zero_le _
  | cons c cs ih =>
    have hpos := c.utf8Size_pos
    rw [List.utf8Encode_cons, ByteArray.size_append, Text.size_utf8Encode_singleton, List.length_cons]
    omega

theorem length_of_isLogin (h : isLogin username = true) : username.length ≤ maxLoginLength := by
  have hbytes : username.utf8ByteSize ≤ maxLoginLength := by
    simp only [isLogin, Bool.and_eq_true, decide_eq_true_eq] at h
    exact h.1.1.1.1.2
  have hlength := length_le_utf8Encode username.toList
  rw [String.utf8Encode_toList, String.length_toList] at hlength
  exact hlength.trans hbytes

end AccountStats.GitHub
