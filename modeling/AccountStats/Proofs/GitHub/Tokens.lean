import Mathlib.Tactic
import AccountStats.GitHub.Tokens
import AccountStats.Proofs.Text.Blank
import AccountStats.Proofs.Text.Split
/-
Lists of access tokens, written and read.

A list is written as parts with commas between them; a part is a token between blanks, or blanks alone. Results:
- `exists_parts`: every text is written so, by the parts between its commas;
- `tokensOf_listText`: what was written is read back;
- `usableTokens_tokensOf`: tokens that were read are usable as they are.
-/
namespace AccountStats.GitHub

open Text (Tight between_of_trim isBlank join join_splitOn notMem_of_mem_splitOn splitOn splitOn_join tight_trim trim
  trim_between trim_tight trimmed)

/-! ## Writing -/

/-- a part of a list: a token, or nothing, between blanks -/
structure ListPart where
  left : List Char
  token : List Char
  right : List Char
  blank : ∀ c ∈ left ++ right, isBlank c = true
  tight : Tight token
  comma_free : ',' ∉ token

namespace ListPart

def text (p : ListPart) : List Char := p.left ++ p.token ++ p.right

theorem trim_text (p : ListPart) : trim p.text = p.token := by
  obtain ⟨hleft, hright⟩ := List.forall_mem_append.1 p.blank
  exact trim_between p.tight hleft hright

theorem comma_notMem_text (p : ListPart) : ',' ∉ p.text := by
  have hblank : ',' ∉ p.left ++ p.right := fun h => absurd (p.blank ',' h) (by decide)
  have htoken := p.comma_free
  simp only [text, List.mem_append] at hblank ⊢
  tauto

/-- every text without a comma is such a part -/
theorem exists_text {cs : List Char} (h : ',' ∉ cs) : ∃ p : ListPart, p.text = cs := by
  obtain ⟨left, right, hblank, hcs⟩ := between_of_trim cs
  have hfree : ',' ∉ trim cs := fun hmem => h (by rw [hcs]; simp [hmem])
  exact ⟨⟨left, trim cs, right, hblank, tight_trim cs, hfree⟩, hcs.symm⟩

end ListPart

/-- parts with commas between them -/
def listText (parts : List ListPart) : String := String.ofList (join [','] (parts.map ListPart.text))

/-- the tokens of the parts that have one -/
def tokensIn (parts : List ListPart) : List String :=
  (parts.map fun p => String.ofList p.token).filter (· ≠ "")

/-- **Every text is written so**, by the parts between its commas. -/
theorem exists_parts (list : String) : ∃ parts : List ListPart, listText parts = list ∧
    parts.map ListPart.text = splitOn ',' list.toList := by
  have hcut : splitOn ',' list.toList ∈ Set.range (List.map ListPart.text) := by
    rw [Set.range_list_map]
    exact fun cs hcs => ListPart.exists_text (notMem_of_mem_splitOn hcs)
  obtain ⟨parts, hparts⟩ := hcut
  exact ⟨parts, by rw [listText, hparts, join_splitOn, String.ofList_toList], hparts⟩

/-! ## Reading -/

/-- **What was written is read back.** -/
theorem tokensOf_listText (parts : List ListPart) : tokensOf (listText parts) = tokensIn parts := by
  by_cases hne : parts = []
  · subst hne
    rfl
  · have hcut : splitOn ',' (listText parts).toList = parts.map ListPart.text := by
      rw [listText, String.toList_ofList]
      refine splitOn_join (by simpa using hne) fun part hpart => ?_
      obtain ⟨p, -, rfl⟩ := List.mem_map.1 hpart
      exact p.comma_notMem_text
    simp only [tokensOf, usableTokens, tokensIn, hcut, List.map_map]
    refine congrArg (List.filter _) (List.map_congr_left fun p _ => ?_)
    simp [trimmed, p.trim_text]

/-- **Tokens that were read are usable as they are**: none is blank, and none has blanks around it. -/
theorem usableTokens_tokensOf (list : String) : usableTokens (tokensOf list) = tokensOf list := by
  have husable : ∀ s ∈ tokensOf list, trimmed s = s ∧ s ≠ "" := by
    intro s hs
    obtain ⟨hs, hne⟩ := List.mem_filter.1 hs
    obtain ⟨part, -, rfl⟩ := List.mem_map.1 hs
    refine ⟨?_, by simpa using hne⟩
    simp [trimmed, trim_tight (tight_trim part.toList)]
  have hmap : (tokensOf list).map trimmed = tokensOf list :=
    (List.map_congr_left fun s hs => (husable s hs).1).trans (List.map_id' _)
  rw [usableTokens, hmap, List.filter_eq_self]
  exact fun s hs => by simpa using (husable s hs).2

end AccountStats.GitHub
