import Mathlib
import AccountStats.Text.Blank
import AccountStats.Text.Case
import AccountStats.Proofs.GitHub.Login
/-
The test for logins and the grammar of logins.

A login is a letter or digit, then letters and digits, each with at most one hyphen before it, 39 characters at most.
Results:
- `Spelled.reverse`, `spelled_toLower`: the grammar reads the same from either end, and in letters of either case;
- `isLogin_iff_spelled`: a text passes the test if it is spelled as a login and not too long;
- `isLogin_grammar`: all of this for the test itself, and what no text that passes can hold.
-/
namespace AccountStats.GitHub

variable {username : String}

theorem hasDoubleHyphen_iff {cs : List Char} : hasDoubleHyphen cs = true ↔ ['-', '-'] <:+: cs := by
  fun_induction hasDoubleHyphen cs with
  | case1 rest => simpa using (List.prefix_append ['-', '-'] rest).isInfix
  | case2 c rest hnot ih =>
    rw [ih, List.infix_cons_iff]
    refine (or_iff_right fun hprefix => ?_).symm
    obtain ⟨more, heq⟩ := hprefix
    cases heq
    exact hnot more rfl rfl
  | case3 => simp

namespace Login

variable {c : Char} {cs : List Char}

theorem ne_hyphen (h : c.isAlphanum = true) : c ≠ '-' := by
  rintro rfl
  cases h

theorem Spelled.ne_nil (h : Spelled cs) : cs ≠ [] := by cases h <;> simp

theorem Spelled.mem (h : Spelled cs) : ∀ d ∈ cs, d.isAlphanum = true ∨ d = '-' := by
  induction h with
  | single hc => simpa using .inl hc
  | snoc _ hc ih => simpa [or_imp, forall_and] using ⟨ih, .inl hc⟩
  | hyphen _ hc ih => simpa [or_imp, forall_and] using ⟨ih, .inl hc⟩

/-- **The grammar reads the same from either end.** -/
theorem Spelled.reverse (h : Spelled cs) : Spelled cs.reverse := by
  induction h with
  | single hc => exact .single hc
  | snoc _ hc ih => simpa using ih.cons hc
  | hyphen _ hc ih => simpa using ih.cons_hyphen hc

theorem Spelled.getLast?_ne (h : Spelled cs) : cs.getLast? ≠ some '-' := by
  cases h with
  | single hc => simpa using ne_hyphen hc
  | snoc _ hc => simpa using ne_hyphen hc
  | hyphen _ hc => simpa [List.getLast?_append] using ne_hyphen hc

theorem Spelled.head?_ne (h : Spelled cs) : cs.head? ≠ some '-' := by
  rw [← List.getLast?_reverse]
  exact h.reverse.getLast?_ne

/-- two hyphens at the end are the last character and the one before it -/
theorem hyphens_at_end (h : ['-', '-'] <:+ cs ++ [c]) : cs.getLast? = some '-' ∧ c = '-' := by
  obtain ⟨front, hfront⟩ := h
  have hconcat : (front ++ ['-']) ++ ['-'] = cs ++ [c] := by simpa using hfront
  obtain ⟨rfl, hc⟩ := List.append_inj' hconcat rfl
  cases hc
  exact ⟨List.getLast?_concat, rfl⟩

theorem hasDoubleHyphen_concat (h : hasDoubleHyphen cs = false) (hend : cs.getLast? ≠ some '-' ∨ c ≠ '-') :
    hasDoubleHyphen (cs ++ [c]) = false := by
  rw [← Bool.not_eq_true, hasDoubleHyphen_iff] at h ⊢
  rw [List.infix_concat_iff]
  rintro (hsuffix | hinfix)
  · obtain ⟨hlast, hc⟩ := hyphens_at_end hsuffix
    exact hend.elim (absurd hlast) (absurd hc)
  · exact h hinfix

theorem Spelled.hasDoubleHyphen (h : Spelled cs) : hasDoubleHyphen cs = false := by
  induction h with
  | single hc => simp [GitHub.hasDoubleHyphen]
  | snoc _ hc ih => exact hasDoubleHyphen_concat ih (.inr (ne_hyphen hc))
  | @hyphen cs c h hc ih =>
    have hfront := hasDoubleHyphen_concat ih (c := '-') (.inl h.getLast?_ne)
    simpa using hasDoubleHyphen_concat hfront (.inr (ne_hyphen hc))

theorem range_of_isAlphanum (h : c.isAlphanum = true) : 48 ≤ c.toNat ∧ c.toNat ≤ 122 := by
  simp only [Char.isAlphanum, Char.isAlpha, Char.isUpper, Char.isLower, Char.isDigit, Bool.or_eq_true,
    Bool.and_eq_true, decide_eq_true_eq, ge_iff_le, UInt32.le_iff_toNat_le] at h
  change (((65 ≤ c.toNat ∧ c.toNat ≤ 90) ∨ 97 ≤ c.toNat ∧ c.toNat ≤ 122) ∨ 48 ≤ c.toNat ∧ c.toNat ≤ 57) at h
  omega

/-- letters, digits and hyphens stand within ASCII, behind the blanks -/
theorem Spelled.range (h : Spelled cs) (hc : c ∈ cs) : 45 ≤ c.toNat ∧ c.toNat ≤ 122 := by
  rcases h.mem c hc with halnum | rfl
  · have hrange := range_of_isAlphanum halnum
    omega
  · decide

theorem Spelled.ascii (h : Spelled cs) : ∀ d ∈ cs, d.toNat < 128 := by
  intro d hd
  have hrange := h.range hd
  omega

/-! ### Letters of either case -/

theorem isAlphanum_toLower (c : Char) : c.toLower.isAlphanum = c.isAlphanum := by
  by_cases hupper : c.isUpper = true
  · have halpha : c.isAlpha = true := by simp [Char.isAlpha, hupper]
    simp [Char.isAlphanum, Char.isAlpha_toLower_eq_isAlpha, halpha]
  · rw [Char.toLower_eq_of_not_isUpper hupper]

theorem toLower_eq_hyphen (h : c.toLower = '-') : c = '-' := by
  by_cases hupper : c.isUpper = true
  · have hlower := Char.isLower_toLower_eq_isAlpha c
    simp [h, Char.isAlpha, hupper] at hlower
  · rwa [Char.toLower_eq_of_not_isUpper hupper] at h

/-- **The grammar does not look at the case of letters.** -/
theorem spelled_toLower : Spelled (cs.map Char.toLower) ↔ Spelled cs := by
  constructor
  · intro h
    generalize hds : cs.map Char.toLower = ds at h
    induction h generalizing cs with
    | single hc =>
      obtain ⟨c, rfl, rfl⟩ := List.map_eq_singleton_iff.1 hds
      exact .single (isAlphanum_toLower c ▸ hc)
    | snoc _ hc ih =>
      obtain ⟨front, back, rfl, hfront, hback⟩ := List.map_eq_append_iff.1 hds
      obtain ⟨c, rfl, rfl⟩ := List.map_eq_singleton_iff.1 hback
      exact .snoc (ih hfront) (isAlphanum_toLower c ▸ hc)
    | hyphen _ hc ih =>
      obtain ⟨front, back, rfl, hfront, hback⟩ := List.map_eq_append_iff.1 hds
      obtain ⟨d, rest, rfl, hd, hrest⟩ := List.map_eq_cons_iff.1 hback
      obtain ⟨c, rfl, rfl⟩ := List.map_eq_singleton_iff.1 hrest
      cases toLower_eq_hyphen hd
      exact .hyphen (ih hfront) (isAlphanum_toLower c ▸ hc)
  · intro h
    induction h with
    | single hc => exact .single (by rwa [isAlphanum_toLower])
    | snoc _ hc ih => simpa using ih.snoc (by rwa [isAlphanum_toLower])
    | hyphen _ hc ih => simpa using ih.hyphen (by rwa [isAlphanum_toLower])

end Login

/-- letters, digits and hyphens take a byte each -/
theorem utf8ByteSize_of_spelled (h : Login.Spelled username.toList) : username.utf8ByteSize = username.length := by
  have hsize := Text.size_ascii h.ascii
  rwa [String.utf8Encode_toList, String.length_toList] at hsize

/-- **A text passes as a login if it is spelled as one and not too long.** -/
theorem isLogin_iff_spelled : isLogin username = true ↔
    Login.Spelled username.toList ∧ username.length ≤ maxLoginLength := by
  constructor
  · exact fun h => ⟨spelled_of_isLogin h, length_of_isLogin h⟩
  · rintro ⟨h, hlength⟩
    simp only [isLogin, Bool.and_eq_true, decide_eq_true_eq, bne_iff_ne, Bool.not_eq_true', List.all_eq_true,
      Bool.or_eq_true, beq_iff_eq]
    exact ⟨⟨⟨⟨⟨h.ne_nil, utf8ByteSize_of_spelled h ▸ hlength⟩, h.head?_ne⟩, h.getLast?_ne⟩, h.hasDoubleHyphen⟩, h.mem⟩

theorem isLogin_reverse (username : String) :
    isLogin (String.ofList username.toList.reverse) = isLogin username := by
  have hlength : (String.ofList username.toList.reverse).length = username.length := by
    rw [String.length_ofList, List.length_reverse, String.length_toList]
  rw [Bool.eq_iff_iff, isLogin_iff_spelled, isLogin_iff_spelled, hlength, String.toList_ofList]
  exact and_congr_left fun _ => ⟨fun h => by simpa using h.reverse, Login.Spelled.reverse⟩

theorem isLogin_of_lowered {other : String} (h : Text.lowered other = Text.lowered username) :
    isLogin other = isLogin username := by
  have hmap : other.toList.map Char.toLower = username.toList.map Char.toLower := by
    simpa [Text.lowered] using congrArg String.toList h
  have hlength : other.length = username.length := by
    simpa only [List.length_map, String.length_toList] using congrArg List.length hmap
  rw [Bool.eq_iff_iff, isLogin_iff_spelled, isLogin_iff_spelled, hlength, ← Login.spelled_toLower, hmap,
    Login.spelled_toLower]

/-- nothing in a login means something else in a path or a query -/
theorem harmless_of_isLogin (h : isLogin username = true) : ∀ c ∈ username.toList,
    c ∉ ['/', '.', '%', '?', '#'] ∧ Text.isBlank c = false ∧ c.toNat < 128 := by
  intro c hc
  have hspelled := spelled_of_isLogin h
  have hrange := hspelled.range hc
  have hnone : ∀ d ∈ ['/', '.', '%', '?', '#'], ¬ (d.isAlphanum = true ∨ d = '-') := by simp
  refine ⟨fun hmem => hnone c hmem (hspelled.mem c hc), ?_, hspelled.ascii c hc⟩
  simp only [Text.isBlank, Bool.or_eq_false_iff, Bool.and_eq_false_iff, decide_eq_false_iff_not, beq_eq_false_iff_ne]
  omega

/-- **The test for logins is their grammar**, with 1 to 39 bytes. So it does not matter from which end a text is read,
or in which case its letters are; and nothing passes that a path or a query could take for its own. -/
theorem isLogin_grammar (username : String) :
    (isLogin username = true ↔
      Login.Spelled username.toList ∧ 1 ≤ username.utf8ByteSize ∧ username.utf8ByteSize ≤ 39) ∧
    isLogin (String.ofList username.toList.reverse) = isLogin username ∧
    (∀ other, Text.lowered other = Text.lowered username → isLogin other = isLogin username) ∧
    (isLogin username = true → ∀ c ∈ username.toList,
      c ∉ ['/', '.', '%', '?', '#'] ∧ Text.isBlank c = false ∧ c.toNat < 128) := by
  refine ⟨?_, isLogin_reverse username, fun _ => isLogin_of_lowered, harmless_of_isLogin⟩
  rw [isLogin_iff_spelled]
  refine and_congr_right fun h => ?_
  have hpos : 0 < username.length := by
    rw [← String.length_toList]
    exact List.length_pos_of_ne_nil h.ne_nil
  rw [utf8ByteSize_of_spelled h]
  exact (and_iff_right hpos).symm

end AccountStats.GitHub
