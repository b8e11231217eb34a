import Mathlib.Tactic
import AccountStats.Store.Save
import AccountStats.Store.Tables
/-
The repositories that a save writes: of each id the last one listed, in chunks.

Results:
- `mem_lastOfEachId`, `nodup_lastOfEachId`: what is written is the last occurrence of each id;
- `map_id_lastOfEachId`: in the order of these;
- `length_lastOfEachId_eq`: which is less than what is listed if an id is repeated;
- `flatten_chunks`: nothing is lost or reordered by the chunks;
- `ne_nil_of_mem_chunks`, `length_of_mem_dropLast_chunks`: none of them is empty, and all but the last are full;
- `repeatsId_of_mem_chunks`: no chunk writes a row twice.
-/
namespace AccountStats.Store

variable {rs : List Repository} {q : Repository}

/-! ## The last of each id -/

/-- the last in the list with its id -/
def LastOf (rs : List Repository) (q : Repository) : Prop :=
  ∃ before after, rs = before ++ q :: after ∧ ∀ p ∈ after, p.id ≠ q.id

theorem not_lastOf_nil : ¬ LastOf [] q := by
  rintro ⟨before, after, h, -⟩
  simp at h

theorem lastOf_cons {r : Repository} :
    LastOf (r :: rs) q ↔ r = q ∧ (∀ p ∈ rs, p.id ≠ q.id) ∨ LastOf rs q := by
  constructor
  · rintro ⟨before, after, h, hlast⟩
    rcases List.cons_eq_append_iff.1 h with ⟨-, h⟩ | ⟨before, -, h⟩
    · cases h
      exact Or.inl ⟨rfl, hlast⟩
    · exact Or.inr ⟨before, after, h, hlast⟩
  · rintro (⟨rfl, hlast⟩ | ⟨before, after, rfl, hlast⟩)
    · exact ⟨[], rs, rfl, hlast⟩
    · exact ⟨r :: before, after, rfl, hlast⟩

theorem LastOf.mem (h : LastOf rs q) : q ∈ rs := by
  obtain ⟨before, after, rfl, -⟩ := h
  simp

theorem any_id_iff {id : Int64} : rs.any (·.id == id) = true ↔ id ∈ rs.map Repository.id := by
  simp

/-- **Of each id the last one is kept.** -/
theorem mem_lastOfEachId : q ∈ lastOfEachId rs ↔ LastOf rs q := by
  induction rs with
  | nil => simp [lastOfEachId, not_lastOf_nil]
  | cons r rs ih =>
    rw [lastOf_cons, lastOfEachId]
    split
    · next hany =>
      rw [any_id_iff, List.mem_map] at hany
      obtain ⟨p, hp, hid⟩ := hany
      rw [ih, iff_or_self]
      rintro ⟨rfl, hlast⟩
      exact absurd hid (hlast p hp)
    · next hnone =>
      rw [any_id_iff, List.mem_map] at hnone
      rw [List.mem_cons, ih]
      refine or_congr_left ⟨?_, fun h => h.1.symm⟩
      rintro rfl
      exact ⟨rfl, fun p hp hid => hnone ⟨p, hp, hid⟩⟩

theorem exists_lastOf {p : Repository} (hp : p ∈ rs) : ∃ q, LastOf rs q ∧ q.id = p.id := by
  induction rs generalizing p with
  | nil => cases hp
  | cons r rs ih =>
    by_cases hlater : ∃ x ∈ rs, x.id = p.id
    · obtain ⟨x, hx, hid⟩ := hlater
      obtain ⟨q, hq, hqid⟩ := ih hx
      exact ⟨q, lastOf_cons.2 (Or.inr hq), hqid.trans hid⟩
    · rcases List.mem_cons.1 hp with rfl | hp
      · exact ⟨p, lastOf_cons.2 (Or.inl ⟨rfl, fun x hx hid => hlater ⟨x, hx, hid⟩⟩), rfl⟩
      · exact absurd ⟨p, hp, rfl⟩ hlater

/-- no id is dropped -/
theorem mem_ids_lastOfEachId {id : Int64} : id ∈ (lastOfEachId rs).map Repository.id ↔ ∃ p ∈ rs, p.id = id := by
  rw [List.mem_map]
  constructor
  · rintro ⟨q, hq, rfl⟩
    exact ⟨q, (mem_lastOfEachId.1 hq).mem, rfl⟩
  · rintro ⟨p, hp, rfl⟩
    obtain ⟨q, hq, hid⟩ := exists_lastOf hp
    exact ⟨q, mem_lastOfEachId.2 hq, hid⟩

/-- and none is repeated -/
theorem nodup_lastOfEachId (rs : List Repository) : ((lastOfEachId rs).map Repository.id).Nodup := by
  induction rs with
  | nil => exact List.nodup_nil
  | cons r rs ih =>
    rw [lastOfEachId]
    split
    · exact ih
    · next hnone =>
      rw [any_id_iff, List.mem_map] at hnone
      rw [List.map_cons, List.nodup_cons]
      exact ⟨fun hmem => hnone (mem_ids_lastOfEachId.1 hmem), ih⟩

/-- **The last occurrences are kept in their order.** -/
theorem map_id_lastOfEachId (rs : List Repository) :
    (lastOfEachId rs).map Repository.id = (rs.map Repository.id).dedup := by
  induction rs with
  | nil => rfl
  | cons r rs ih =>
    rw [lastOfEachId, List.map_cons]
    split
    · next hany => rw [List.dedup_cons_of_mem (any_id_iff.1 hany), ih]
    · next hnone => rw [List.dedup_cons_of_notMem (mt any_id_iff.2 hnone), List.map_cons, ih]

theorem length_lastOfEachId_le (rs : List Repository) : (lastOfEachId rs).length ≤ rs.length := by
  induction rs with
  | nil => exact le_rfl
  | cons r rs ih =>
    rw [lastOfEachId]
    split
    · exact ih.trans (Nat.le_succ _)
    · exact Nat.succ_le_succ ih

/-- **Nothing is dropped just if no id is repeated.** -/
theorem length_lastOfEachId_eq : (lastOfEachId rs).length = rs.length ↔ (rs.map Repository.id).Nodup := by
  induction rs with
  | nil => simp [lastOfEachId]
  | cons r rs ih =>
    rw [lastOfEachId, List.map_cons, List.nodup_cons, ← any_id_iff]
    split
    · next hany =>
      refine iff_of_false (fun h => ?_) fun h => h.1 hany
      have := length_lastOfEachId_le rs
      rw [h, List.length_cons] at this
      omega
    · next hnone => rw [List.length_cons, List.length_cons, Nat.succ_inj, ih, and_iff_right hnone]

/-- a listing that repeats no id is kept as it is -/
theorem lastOfEachId_eq_self (h : (rs.map Repository.id).Nodup) : lastOfEachId rs = rs := by
  induction rs with
  | nil => rfl
  | cons r rs ih =>
    rw [List.map_cons, List.nodup_cons, ← any_id_iff] at h
    rw [lastOfEachId, if_neg h.1, ih h.2]

/-! ## Chunks -/

theorem chunks_nil {α : Type} (n : Nat) : chunks n ([] : List α) = [] := by
  rw [chunks, if_pos rfl]

/-- **The chunks are the list, in its order.** -/
theorem flatten_chunks {α : Type} (n : Nat) (xs : List α) : (chunks n xs).flatten = xs := by
  induction xs using chunks.induct n with
  | case1 => rw [chunks_nil]; rfl
  | case2 xs h ih => rw [chunks, if_neg h, List.flatten_cons, ih, List.take_append_drop]

theorem chunks_ne_nil {α : Type} {n : Nat} {xs : List α} (h : xs ≠ []) : chunks n xs ≠ [] := by
  rw [chunks, if_neg h]
  exact List.cons_ne_nil _ _

theorem ne_nil_of_mem_chunks {α : Type} {n : Nat} {xs ys : List α} (h : ys ∈ chunks n xs) : ys ≠ [] := by
  induction xs using chunks.induct n with
  | case1 =>
    rw [chunks_nil] at h
    cases h
  | case2 xs hxs ih =>
    rw [chunks, if_neg hxs] at h
    rcases List.mem_cons.1 h with rfl | h
    · simpa using hxs
    · exact ih h

theorem length_le_of_mem_chunks {α : Type} {n : Nat} {xs ys : List α} (h : ys ∈ chunks n xs) : ys.length ≤ n + 1 := by
  induction xs using chunks.induct n with
  | case1 =>
    rw [chunks_nil] at h
    cases h
  | case2 xs hxs ih =>
    rw [chunks, if_neg hxs] at h
    rcases List.mem_cons.1 h with rfl | h
    · exact List.length_take_le _ _
    · exact ih h

/-- **All chunks but the last are full.** -/
theorem length_of_mem_dropLast_chunks {α : Type} {n : Nat} {xs ys : List α} (h : ys ∈ (chunks n xs).dropLast) :
    ys.length = n + 1 := by
  induction xs using chunks.induct n with
  | case1 =>
    rw [chunks_nil] at h
    cases h
  | case2 xs hxs ih =>
    rw [chunks, if_neg hxs] at h
    by_cases hrest : xs.drop (n + 1) = []
    · rw [hrest, chunks_nil] at h
      cases h
    · rw [List.dropLast_cons_of_ne_nil (chunks_ne_nil hrest)] at h
      rcases List.mem_cons.1 h with rfl | h
      · have hlong : n + 1 < xs.length := by simpa using hrest
        rw [List.length_take]
        omega
      · exact ih h

theorem sublist_of_mem_chunks {α : Type} {n : Nat} {xs ys : List α} (h : ys ∈ chunks n xs) : ys.Sublist xs := by
  rw [← flatten_chunks n xs]
  exact List.sublist_flatten_of_mem h

namespace Tables

theorem repeatsId_eq_false : repeatsId rs = false ↔ (rs.map Repository.id).Nodup := by
  induction rs with
  | nil => simp [repeatsId]
  | cons r rs ih =>
    rw [repeatsId, Bool.or_eq_false_iff, ih, List.map_cons, List.nodup_cons, ← any_id_iff, Bool.not_eq_true]

/-- **No statement of a save writes a row twice.** -/
theorem repeatsId_of_mem_chunks {n : Nat} {rows : List Repository} (h : rows ∈ chunks n (lastOfEachId rs)) :
    repeatsId rows = false :=
  repeatsId_eq_false.2 (((sublist_of_mem_chunks h).map Repository.id).nodup (nodup_lastOfEachId rs))

end Tables

end AccountStats.Store
