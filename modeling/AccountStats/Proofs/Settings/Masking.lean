import Mathlib.Tactic
import AccountStats.Settings.Check
import AccountStats.Proofs.Text.Split
/-
What is shown of a URL with a password.

The URL is put together from parts that are not escaped, so each of them may hold the separators that the mask looks
for. Results:
- `maskPassword_parts`: whatever the parts, the password does not show;
- `maskPassword_unmarked`: behind no scheme, it does;
- `sameMask_parts`: URLs that differ in it only are shown alike, and both are accepted or neither.
-/
namespace AccountStats.Settings

/-- what stands between a scheme and the rest of a URL -/
def mark : String := "://"

/-- a URL with a user and a password -/
def urlWithPassword (scheme user password rest : String) : String :=
  scheme ++ mark ++ user ++ ":" ++ password ++ "@" ++ rest

/-- **The password does not show.** Behind the first mark the part before the first colon is shown, and of the rest the
part behind the last at sign. -/
theorem maskPassword_parts (scheme : String) :
    ∃ front back, scheme.toList ++ mark.toList = front ++ mark.toList ++ back ∧ ∀ user password rest,
      maskPassword (urlWithPassword scheme user password rest) = String.ofList (front ++ mark.toList ++
        Text.beforeFirst ':' (back ++ user.toList) ++ [':', '*', '*', '*', '@'] ++ Text.afterLast '@' rest.toList) := by
  have hmark : mark.toList = [':', '/', '/'] := rfl
  obtain ⟨front, back, hcut, hfound⟩ := Text.splitAround_append mark.toList scheme.toList
  refine ⟨front, back, hcut, fun user password rest => ?_⟩
  have hparts : (urlWithPassword scheme user password rest).toList =
      scheme.toList ++ mark.toList ++ (user.toList ++ ':' :: password.toList ++ '@' :: rest.toList) := by
    simp [urlWithPassword]
  -- the last at sign may stand in the rest, and the first colon in the user: the password is between them
  obtain ⟨more, hlast⟩ := Text.splitLast_append '@' (back ++ user.toList ++ ':' :: password.toList) rest.toList
  obtain ⟨hidden, hfirst⟩ := Text.splitOnce_append ':' (back ++ user.toList) (password.toList ++ more)
  rw [maskPassword, hparts, ← hmark, hfound, ← List.append_assoc, ← List.append_assoc]
  dsimp only
  rw [hlast]
  dsimp only
  rw [List.append_assoc _ (':' :: password.toList), List.cons_append, hfirst]

/-- a text without a mark before the last at sign is shown as it is -/
theorem maskPassword_unmarked {front rest : String} (hrest : '@' ∉ rest.toList) (h : ¬ mark.toList <:+: front.toList) :
    maskPassword (front ++ "@" ++ rest) = front ++ "@" ++ rest := by
  have hparts : (front ++ "@" ++ rest).toList = front.toList ++ '@' :: rest.toList := by simp
  unfold maskPassword
  split
  · rfl
  · next scheme back hfound =>
    split
    · rfl
    · next userinfo host hlast =>
      obtain ⟨rfl, hhost⟩ := Text.splitLast_eq_some_iff.1 hlast
      have hcut := Text.eq_of_splitAround hfound
      have hfront : Text.splitLast '@' (front ++ "@" ++ rest).toList = some (front.toList, rest.toList) :=
        Text.splitLast_eq_some_iff.2 ⟨hparts, hrest⟩
      have hback : Text.splitLast '@' (front ++ "@" ++ rest).toList = some (scheme ++ mark.toList ++ userinfo, host) :=
        Text.splitLast_eq_some_iff.2 ⟨hcut.trans (List.append_assoc ..).symm, hhost⟩
      rw [hfront, Option.some_inj, Prod.mk.injEq] at hback
      exact absurd ⟨scheme, userinfo, hback.1.symm⟩ h

/-! ## URLs that are shown alike -/

/-- two URLs of which the same is shown, and which both begin in one of these ways or neither -/
structure SameMask (starts : List String) (url url' : String) : Prop where
  masked : maskPassword url = maskPassword url'
  starts : startsWithAny starts url = startsWithAny starts url'

variable {starts : List String}

theorem SameMask.refl (url : String) : SameMask starts url url := ⟨rfl, rfl⟩

/-- each is a word and a mark -/
def Marked (starts : List String) : Prop := ∀ start ∈ starts, ∃ word, start = word ++ mark ∧ ':' ∉ word.toList

theorem startsWithAny_marked (h : Marked starts) (scheme s : String) :
    startsWithAny starts (scheme ++ mark ++ s) = startsWithAny starts (scheme ++ mark) := by
  rw [startsWithAny, startsWithAny, Bool.eq_iff_iff, List.any_eq_true, List.any_eq_true]
  refine exists_congr fun start => and_congr_right fun hmem => ?_
  obtain ⟨word, rfl, hword⟩ := h start hmem
  simp only [String.toList_append, List.isPrefixOf_iff_prefix]
  exact Text.marked_isPrefix_iff hword ['/', '/'] scheme.toList s.toList

/-- **URLs that differ in the password only are shown alike**, and both are accepted or neither. -/
theorem sameMask_parts (h : Marked starts) (scheme user password password' rest : String) :
    SameMask starts (urlWithPassword scheme user password rest) (urlWithPassword scheme user password' rest) where
  masked := by
    obtain ⟨front, back, -, hshown⟩ := maskPassword_parts scheme
    rw [hshown, hshown]
  starts := by
    have hparts (password : String) : urlWithPassword scheme user password rest =
        scheme ++ mark ++ (user ++ ":" ++ password ++ "@" ++ rest) := by
      simp only [urlWithPassword, String.append_assoc]
    rw [hparts, hparts, startsWithAny_marked h, startsWithAny_marked h]

end AccountStats.Settings
