import Mathlib.Tactic
import AccountStats.Store.Tables
/-
What statements do to the rows of the two tables.

Each operation is described by the rows that are there after it. Results:
- `mem_putRow`, `mem_putRows`, `mem_rename`, `mem_prune`: which repositories are there; their ids stay unique (`Keyed`);
- `user?_upsertProfile`: which profile is found under a name, where names are those of accounts up to the case of their
  letters (`sameAccount_iff`).
-/
namespace AccountStats.Store.Tables

variable {rows new : List RepositoryRow} {r x : RepositoryRow} {a b c : String}

/-! ## Repositories -/

/-- every id has one row -/
def Keyed (rows : List RepositoryRow) : Prop := (rows.map RepositoryRow.id).Nodup

theorem any_rowId_iff {id : Int64} : rows.any (·.id == id) = true ↔ ∃ old ∈ rows, old.id = id := by
  simp

theorem mem_putRow : x ∈ putRow rows r ↔ x = r ∨ x ∈ rows ∧ x.id ≠ r.id := by
  rw [putRow]
  split
  · next hany =>
    rw [any_rowId_iff] at hany
    obtain ⟨old, hold, hid⟩ := hany
    rw [List.mem_map]
    constructor
    · rintro ⟨y, hy, rfl⟩
      by_cases h : y.id = r.id
      · rw [if_pos h]
        exact Or.inl rfl
      · rw [if_neg h]
        exact Or.inr ⟨hy, h⟩
    · rintro (rfl | ⟨hx, h⟩)
      · exact ⟨old, hold, if_pos hid⟩
      · exact ⟨x, hx, if_neg h⟩
  · next hnone =>
    rw [any_rowId_iff] at hnone
    rw [List.mem_append, List.mem_singleton, or_comm]
    refine or_congr_right ⟨fun hx => ⟨hx, fun h => hnone ⟨x, hx, h⟩⟩, fun h => h.1⟩

theorem ids_putRow (rows : List RepositoryRow) (r : RepositoryRow) :
    (putRow rows r).map RepositoryRow.id = rows.map RepositoryRow.id ∨
      (putRow rows r).map RepositoryRow.id = rows.map RepositoryRow.id ++ [r.id] ∧
        r.id ∉ rows.map RepositoryRow.id := by
  rw [putRow]
  split
  · left
    rw [List.map_map]
    refine List.map_congr_left fun old _ => ?_
    by_cases h : old.id = r.id
    · simp [h]
    · simp [h]
  · next hnone =>
    right
    rw [any_rowId_iff] at hnone
    exact ⟨by rw [List.map_append, List.map_singleton], fun hmem => hnone (List.mem_map.1 hmem)⟩

theorem keyed_putRow (h : Keyed rows) : Keyed (putRow rows r) := by
  unfold Keyed at h ⊢
  rcases ids_putRow rows r with hsame | ⟨hmore, hnew⟩
  · rwa [hsame]
  · rw [hmore, List.nodup_append]
    refine ⟨h, List.nodup_singleton _, fun a ha b hb hab => hnew ?_⟩
    rw [List.mem_singleton] at hb
    exact hb ▸ hab ▸ ha

/-- **Of the rows that were there before, those under the new ids are replaced.** -/
theorem mem_putRows (hnew : Keyed new) :
    x ∈ new.foldl putRow rows ↔ x ∈ new ∨ x ∈ rows ∧ ∀ r ∈ new, x.id ≠ r.id := by
  induction new generalizing rows with
  | nil => simp
  | cons r new ih =>
    obtain ⟨hr, hnew⟩ := List.nodup_cons.1 hnew
    have hother : ∀ y ∈ new, r.id ≠ y.id := fun y hy hid => hr (List.mem_map.2 ⟨y, hy, hid.symm⟩)
    rw [List.foldl_cons, ih hnew, mem_putRow, List.forall_mem_cons, List.mem_cons]
    constructor
    · rintro (hx | ⟨rfl | ⟨hx, hid⟩, hnot⟩)
      · exact Or.inl (Or.inr hx)
      · exact Or.inl (Or.inl rfl)
      · exact Or.inr ⟨hx, hid, hnot⟩
    · rintro ((rfl | hx) | ⟨hx, hid, hnot⟩)
      · exact Or.inr ⟨Or.inl rfl, hother⟩
      · exact Or.inl hx
      · exact Or.inr ⟨Or.inr ⟨hx, hid⟩, hnot⟩

theorem keyed_putRows (h : Keyed rows) : Keyed (new.foldl putRow rows) := by
  induction new generalizing rows with
  | nil => exact h
  | cons r new ih => exact ih (keyed_putRow h)

theorem mem_rename :
    x ∈ rename a b rows ↔ ∃ old ∈ rows, x = if old.owner = a then { old with owner := b } else old := by
  simp only [rename, List.mem_map, eq_comm]

theorem keyed_rename (h : Keyed rows) : Keyed (rename a b rows) := by
  have hids : (rename a b rows).map RepositoryRow.id = rows.map RepositoryRow.id := by
    rw [rename, List.map_map]
    refine List.map_congr_left fun old _ => ?_
    by_cases ho : old.owner = a
    · simp [ho]
    · simp [ho]
  rwa [Keyed, hids]

theorem mem_prune {t : Tables} {owner : String} {ids : List Int64} :
    x ∈ (t.prune owner ids).2.repositories ↔ x ∈ t.repositories ∧ (x.owner = owner → x.id ∈ ids) := by
  simp only [prune, List.mem_filter, ownedBy, Bool.not_eq_true', Bool.and_eq_false_iff, beq_eq_false_iff_ne,
    Bool.not_eq_false', List.contains_iff_mem]
  exact and_congr_right fun _ => imp_iff_not_or.symm

theorem keyed_prune {t : Tables} {owner : String} {ids : List Int64} (h : Keyed t.repositories) :
    Keyed (t.prune owner ids).2.repositories :=
  (List.filter_sublist.map RepositoryRow.id).nodup h

/-- an account without repositories owns none -/
theorem deleteAll_eq_prune (t : Tables) (owner : String) : t.deleteAll owner = t.prune owner [] := by
  simp [deleteAll, prune]

/-! ## Accounts -/

theorem sameAccount_iff : sameAccount a b = true ↔ Text.lowered a = Text.lowered b := by
  simp [sameAccount]

@[simp] theorem sameAccount_self (a : String) : sameAccount a a = true := sameAccount_iff.2 rfl

theorem sameAccount_comm (a b : String) : sameAccount a b = sameAccount b a := by
  rw [Bool.eq_iff_iff, sameAccount_iff, sameAccount_iff, eq_comm]

/-- names of one account are of the same account as any other name -/
theorem sameAccount_congr (h : sameAccount a b = true) (c : String) : sameAccount c a = sameAccount c b := by
  rw [Bool.eq_iff_iff, sameAccount_iff, sameAccount_iff, sameAccount_iff.1 h]

theorem sameAccount_congr_left (h : sameAccount a b = true) (c : String) : sameAccount a c = sameAccount b c := by
  rw [sameAccount_comm a, sameAccount_comm b, sameAccount_congr h]

/-- an account is found under any of its names -/
theorem user?_congr (t : Tables) (h : sameAccount a b = true) : t.user? a = t.user? b := by
  simp only [user?, sameAccount_congr h]

variable {t : Tables} {p : Profile} {fetchedAt : Int}

/-- no newer profile of the account is stored -/
def Accepts (t : Tables) (username : String) (fetchedAt : Int) : Prop :=
  ∀ old, t.user? username = some old → old.fetchedAt ≤ fetchedAt

/-- the repositories when an account is stored under this name -/
def renamedTo (t : Tables) (username : String) : List RepositoryRow :=
  match t.user? username with
  | none => t.repositories
  | some old => rename old.profile.username username t.repositories

theorem upsertProfile_of_not_accepts (h : ¬ t.Accepts p.username fetchedAt) : t.upsertProfile p fetchedAt = (0, t) := by
  simp only [Accepts, not_forall] at h
  obtain ⟨old, hold, hnewer⟩ := h
  simp only [upsertProfile, hold, hnewer, if_false]

theorem upsertProfile_of_accepts (h : t.Accepts p.username fetchedAt) :
    (t.upsertProfile p fetchedAt).1 = 1 ∧ (t.upsertProfile p fetchedAt).2.repositories = t.renamedTo p.username := by
  unfold upsertProfile renamedTo
  cases hold : t.user? p.username with
  | none => exact ⟨rfl, rfl⟩
  | some old =>
    dsimp only
    rw [if_pos (h old hold)]
    exact ⟨rfl, rfl⟩

/-- **The profile is then found under any name of the account, and all other accounts are as they were.** -/
theorem user?_upsertProfile (h : t.Accepts p.username fetchedAt) (username : String) :
    (t.upsertProfile p fetchedAt).2.user? username =
      if sameAccount p.username username then some ⟨p, fetchedAt⟩ else t.user? username := by
  unfold upsertProfile
  cases hold : t.user? p.username with
  | none =>
    simp only [user?, List.find?_append]
    by_cases hsame : sameAccount p.username username = true
    · have hnone : t.user? username = none := by rw [← user?_congr t hsame, hold]
      rw [user?] at hnone
      simp [hnone, hsame]
    · simp [hsame]
  | some old =>
    simp only [h old hold, if_true]
    -- putting the profile in does not change which row is found
    have hfind (u : UserRow) :
        sameAccount (if sameAccount u.profile.username p.username then (⟨p, fetchedAt⟩ : UserRow) else u).profile.username
          username = sameAccount u.profile.username username := by
      by_cases hu : sameAccount u.profile.username p.username = true
      · simp only [hu, if_true]
        exact (sameAccount_congr_left hu username).symm
      · simp only [hu, Bool.false_eq_true, if_false]
    simp only [user?, List.find?_map, Function.comp_def, hfind]
    by_cases hsame : sameAccount p.username username = true
    · have hsome : t.user? username = some old := by rw [← user?_congr t hsame, hold]
      rw [user?] at hsome hold
      have hfound := List.find?_some hold
      simp [hsome, hsame, hfound]
    · simp only [hsame, Bool.false_eq_true, if_false]
      cases hu : t.users.find? fun u => sameAccount u.profile.username username with
      | none => rfl
      | some u =>
        have hother : sameAccount u.profile.username p.username = false := by
          rw [Bool.eq_false_iff]
          intro hup
          have hfound := List.find?_some hu
          rw [sameAccount_congr_left hup] at hfound
          exact hsame hfound
        simp [hother]

/-- so its repositories can be written -/
theorem any_username_of_user? {username : String} {u : UserRow} (h : t.user? username = some u) :
    t.users.any (·.profile.username == u.profile.username) = true :=
  List.any_eq_true.2 ⟨u, List.mem_of_find?_eq_some h, beq_self_eq_true _⟩

end AccountStats.Store.Tables
