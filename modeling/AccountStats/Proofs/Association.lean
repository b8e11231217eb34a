import Mathlib.Tactic
/-
Lists of pairs as maps: what is found under a key.

Where every key has one pair, pairs that are kept are found as before (`lookup_filter`).
-/
namespace AccountStats.Association

variable {α : Type} {entries : List (String × α)} {key : String}

/-- every key has one pair -/
def Keyed (entries : List (String × α)) : Prop := (entries.map Prod.fst).Nodup

theorem lookup_cons {κ : Type} [DecidableEq κ] (e : κ × α) (entries : List (κ × α)) (key : κ) :
    (e :: entries).lookup key = if key = e.1 then some e.2 else entries.lookup key := by
  rw [List.lookup_cons]
  by_cases h : key = e.1
  · simp [h]
  · rw [if_neg h, beq_false_of_ne h]

theorem lookup_of_notMem (h : key ∉ entries.map Prod.fst) : entries.lookup key = none := by
  rw [List.lookup_eq_none_iff]
  intro e he
  rw [bne_iff_ne]
  rintro rfl
  exact h (List.mem_map_of_mem he)

theorem keyed_filter (p : String × α → Bool) (h : Keyed entries) : Keyed (entries.filter p) :=
  (List.filter_sublist.map Prod.fst).nodup h

/-- **Of pairs with one for every key, those that are kept are found as before.** -/
theorem lookup_filter (p : String × α → Bool) (h : Keyed entries) (key : String) :
    (entries.filter p).lookup key = (entries.lookup key).filter fun a => p (key, a) := by
  induction entries with
  | nil => rfl
  | cons e entries ih =>
    obtain ⟨hnot, hrest⟩ := List.nodup_cons.1 h
    have ih := ih hrest
    rw [List.filter_cons, lookup_cons]
    by_cases hkey : key = e.1
    · subst hkey
      have hnone : entries.lookup e.1 = none := lookup_of_notMem hnot
      rw [hnone] at ih
      rw [if_pos rfl, Option.filter_some]
      split
      · rw [lookup_cons, if_pos rfl]
      · rw [ih, Option.filter_none]
    · rw [if_neg hkey, ← ih]
      split
      · rw [lookup_cons, if_neg hkey]
      · rfl

/-- pairs under other keys do not matter -/
theorem lookup_filter_key (p : String → Bool) (entries : List (String × α)) (key : String) :
    (entries.filter fun e => p e.1).lookup key = if p key then entries.lookup key else none := by
  induction entries with
  | nil => exact (ite_self _).symm
  | cons e entries ih =>
    rw [List.filter_cons, lookup_cons]
    by_cases hkey : key = e.1
    · subst hkey
      by_cases hp : p e.1
      · rw [if_pos hp, if_pos hp, lookup_cons, if_pos rfl, if_pos rfl]
      · rw [if_neg hp, if_neg hp, ih, if_neg hp]
    · rw [if_neg hkey]
      by_cases hp : p e.1
      · rw [if_pos hp, lookup_cons, if_neg hkey, ih]
      · rw [if_neg hp, ih]

end AccountStats.Association
