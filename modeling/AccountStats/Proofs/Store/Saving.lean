import Mathlib.Tactic
import AccountStats.Proofs.Store.Listing
import AccountStats.Proofs.Store.Rows
import AccountStats.Proofs.Store.Transactions
/-
What one save does to the tables.

`Tables.saved` is the outcome of a save that is accepted, as one operation on the tables. Results:
- `save_accepted`: such a save succeeds, and commits that outcome;
- `save_rejected`: a save of a snapshot older than the stored one is refused and leaves the tables alone;
- `mem_saved`: which repositories are there after a save.
-/
namespace AccountStats.Store

variable {t : Tables} {owner : String} {s : Snapshot}

/-! ## The outcome of a save -/

namespace Tables

/-- repositories written, which the account then owns -/
def written (t : Tables) (owner : String) (rs : List Repository) : Tables :=
  { t with repositories := (rs.map (RepositoryRow.of owner)).foldl putRow t.repositories }

theorem written_append (t : Tables) (owner : String) (rs more : List Repository) :
    t.written owner (rs ++ more) = (t.written owner rs).written owner more := by
  simp only [written, List.map_append, List.foldl_append]

/-- repositories written, and what else the account owned deleted -/
def reconciled (t : Tables) (owner : String) (rs : List Repository) : Tables :=
  ((t.written owner (lastOfEachId rs)).prune owner ((lastOfEachId rs).map Repository.id)).2

def saved (t : Tables) (s : Snapshot) : Tables :=
  (t.upsertProfile s.profile s.fetchedAt.toMicros).2.reconciled s.username s.repositories

/-- a snapshot of the account that is not older than the stored one -/
abbrev AcceptsSnapshot (t : Tables) (s : Snapshot) : Prop := t.Accepts s.username s.fetchedAt.toMicros

end Tables

open Tables

/-! ## Running a save -/

theorem upsertRepositories_against (c : Tables) (howner : t.users.any (·.profile.username == owner) = true)
    {rows : List Repository} (hrows : repeatsId rows = false) :
    (Attempt.execute (.upsertRepositories owner rows)).against ⟨c, some t⟩ =
      (.ok rows.length, ⟨c, some (t.written owner rows)⟩) := by
  have hexecute : t.execute (.upsertRepositories owner rows) = .ok (rows.length, t.written owner rows) := by
    simp [execute, upsertRepositories, hrows, howner, written]
  exact Attempt.against_execute hexecute

theorem upsertAll_against (c : Tables) (howner : t.users.any (·.profile.username == owner) = true)
    {css : List (List Repository)} (hcss : ∀ rows ∈ css, repeatsId rows = false) :
    (upsertAll owner css).against ⟨c, some t⟩ = (.ok (), ⟨c, some (t.written owner css.flatten)⟩) := by
  induction css generalizing t with
  | nil => rfl
  | cons rows css ih =>
    obtain ⟨hrows, hcss⟩ := List.forall_mem_cons.1 hcss
    have hstored : (t.written owner rows).users.any (·.profile.username == owner) = true := howner
    rw [upsertAll, Attempt.against_bind_ok (upsertRepositories_against c howner hrows), ih hstored hcss,
      List.flatten_cons, written_append]

theorem prune_against (c : Tables) (ids : List Int64) :
    (Attempt.execute (.prune owner ids)).against ⟨c, some t⟩ =
      (.ok (t.prune owner ids).1, ⟨c, some (t.prune owner ids).2⟩) := rfl

theorem reconcile_against (c : Tables) (howner : t.users.any (·.profile.username == owner) = true)
    (rs : List Repository) :
    (reconcile owner rs).against ⟨c, some t⟩ = (.ok (), ⟨c, some (t.reconciled owner rs)⟩) := by
  unfold reconcile
  split
  · next h =>
    have hdelete : (Attempt.execute (.deleteAll owner)).against ⟨c, some t⟩ =
        (.ok (t.deleteAll owner).1, ⟨c, some (t.deleteAll owner).2⟩) := rfl
    rw [Attempt.against_bind_ok hdelete, Attempt.against_pure, deleteAll_eq_prune, h]
    rfl
  · have hchunks : ∀ rows ∈ chunks (chunkSize - 1) (lastOfEachId rs), repeatsId rows = false :=
      fun _ => repeatsId_of_mem_chunks
    have hupsert := upsertAll_against c howner hchunks
    rw [flatten_chunks] at hupsert
    dsimp only
    rw [Attempt.against_bind_ok hupsert, Attempt.against_bind_ok (prune_against c _), Attempt.against_pure]
    rfl

theorem upsertProfile_against (c : Tables) (s : Snapshot) :
    (Attempt.execute (.upsertProfile s.profile s.fetchedAt)).against ⟨c, some t⟩ =
      (.ok (t.upsertProfile s.profile s.fetchedAt.toMicros).1,
        ⟨c, some (t.upsertProfile s.profile s.fetchedAt.toMicros).2⟩) := rfl

/-- the account is stored under the name that its repositories are written for -/
theorem stored_upsertProfile (h : t.AcceptsSnapshot s) :
    (t.upsertProfile s.profile s.fetchedAt.toMicros).2.users.any (·.profile.username == s.username) = true := by
  have hstored := user?_upsertProfile h s.username
  rw [Snapshot.username, sameAccount_self, if_pos rfl] at hstored
  exact any_username_of_user? hstored

theorem saveOnce_accepted (h : t.AcceptsSnapshot s) :
    (saveOnce s).against ⟨t, none⟩ = (.ok true, ⟨t.saved s, none⟩) := by
  have hone : (t.upsertProfile s.profile s.fetchedAt.toMicros).1 = 1 := (upsertProfile_of_accepts h).1
  rw [saveOnce, Attempt.against_transaction]
  dsimp only
  rw [Attempt.against_bind_ok (Attempt.against_setIsolation t t),
    Attempt.against_bind_ok (upsertProfile_against t s), hone, if_neg Nat.one_ne_zero,
    Attempt.against_bind_ok (reconcile_against t (stored_upsertProfile h) _),
    Attempt.against_bind_ok (Attempt.against_commit _)]
  rfl

theorem saveOnce_rejected (h : ¬ t.AcceptsSnapshot s) :
    (saveOnce s).against ⟨t, none⟩ = (.ok false, ⟨t, none⟩) := by
  have hzero : t.upsertProfile s.profile s.fetchedAt.toMicros = (0, t) := upsertProfile_of_not_accepts h
  rw [saveOnce, Attempt.against_transaction]
  dsimp only
  rw [Attempt.against_bind_ok (Attempt.against_setIsolation t t),
    Attempt.against_bind_ok (upsertProfile_against t s), hzero, if_pos rfl,
    Attempt.against_bind_ok (Attempt.against_rollback _)]
  rfl

/-- an attempt that does not fail is the last one -/
theorem run_retry {α : Type} {m : Attempt α} {a : α} {d d' : Database} (h : m.against d = (.ok a, d'))
    (ps : List Nat) : (retry m ps).run Database.answer d = (.ok a, d') := by
  cases ps with
  | nil => exact h
  | cons pause ps =>
    rw [retry, run_bind_eq h]
    rfl

/-- **A save of a snapshot that is not older than the stored one.** -/
theorem save_accepted (h : t.AcceptsSnapshot s) :
    (save s).run Database.answer ⟨t, none⟩ = (.ok (), ⟨t.saved s, none⟩) := by
  rw [save, run_bind_eq (run_retry (saveOnce_accepted h) pauses)]
  rfl

/-- **A save of a snapshot that is older than the stored one changes nothing.** -/
theorem save_rejected (h : ¬ t.AcceptsSnapshot s) :
    (save s).run Database.answer ⟨t, none⟩ =
      (.error (Failure.newerSnapshotStored s.username (Time.Rfc3339.render s.fetchedAt)), ⟨t, none⟩) := by
  rw [save, run_bind_eq (run_retry (saveOnce_rejected h) pauses)]
  rfl

/-! ## The tables after a save -/

/-- the row is one that a save of the snapshot writes -/
def Listed (s : Snapshot) (row : RepositoryRow) : Prop :=
  ∃ q, LastOf s.repositories q ∧ row = RepositoryRow.of s.username q

namespace Tables

/-- what the schema demands: one row for each id, and each repository is owned by a stored account -/
structure Sound (t : Tables) : Prop where
  keyed : Keyed t.repositories
  owned : ∀ row ∈ t.repositories, ∃ u, t.user? row.owner = some u ∧ u.profile.username = row.owner

theorem sound_empty : Sound .empty := ⟨List.nodup_nil, fun _ h => absurd h List.not_mem_nil⟩

theorem keyed_reconciled {rs : List Repository} (h : Keyed t.repositories) :
    Keyed (t.reconciled owner rs).repositories :=
  keyed_prune (keyed_putRows h)

theorem mem_reconciled {rs : List Repository} {row : RepositoryRow} :
    row ∈ (t.reconciled owner rs).repositories ↔
      (∃ q, LastOf rs q ∧ row = RepositoryRow.of owner q) ∨
        (row ∈ t.repositories ∧ row.owner ≠ owner) ∧ ∀ q ∈ rs, q.id ≠ row.id := by
  have hkeyed : Keyed ((lastOfEachId rs).map (RepositoryRow.of owner)) := by
    unfold Keyed
    rw [List.map_map]
    exact nodup_lastOfEachId rs
  have hother : (∀ r ∈ (lastOfEachId rs).map (RepositoryRow.of owner), row.id ≠ r.id) ↔ ∀ q ∈ rs, q.id ≠ row.id := by
    constructor
    · intro h q hq hid
      obtain ⟨p, hp, hpid⟩ := exists_lastOf hq
      exact h _ (List.mem_map_of_mem (mem_lastOfEachId.2 hp)) (hid.symm.trans hpid.symm)
    · rintro h _ hr hid
      obtain ⟨q, hq, rfl⟩ := List.mem_map.1 hr
      exact h q (mem_lastOfEachId.1 hq).mem hid.symm
  rw [reconciled, mem_prune, written, mem_putRows hkeyed, hother]
  constructor
  · rintro ⟨hmem | ⟨hmem, hnot⟩, howner⟩
    · obtain ⟨q, hq, rfl⟩ := List.mem_map.1 hmem
      exact Or.inl ⟨q, mem_lastOfEachId.1 hq, rfl⟩
    · refine Or.inr ⟨⟨hmem, fun h => ?_⟩, hnot⟩
      obtain ⟨q, hq, hid⟩ := mem_ids_lastOfEachId.1 (howner h)
      exact hnot q hq hid
  · rintro (⟨q, hq, rfl⟩ | ⟨⟨hmem, hne⟩, hnot⟩)
    · have hlast := mem_lastOfEachId.2 hq
      exact ⟨Or.inl (List.mem_map_of_mem hlast), fun _ => List.mem_map_of_mem hlast⟩
    · exact ⟨Or.inr ⟨hmem, hnot⟩, fun h => absurd h hne⟩

theorem keyed_renamedTo (h : Keyed t.repositories) (username : String) : Keyed (t.renamedTo username) := by
  unfold renamedTo
  split
  · exact h
  · exact keyed_rename h

/-- of the repositories of other accounts, none is renamed -/
theorem mem_renamedTo (hs : t.Sound) {username : String} {row : RepositoryRow} :
    (row ∈ t.renamedTo username ∧ row.owner ≠ username) ↔
      row ∈ t.repositories ∧ sameAccount row.owner username = false := by
  unfold renamedTo
  cases hold : t.user? username with
  | none =>
    refine and_congr_right fun hrow => ?_
    obtain ⟨u, hu, -⟩ := hs.owned row hrow
    have hother : sameAccount row.owner username = false := by
      rw [Bool.eq_false_iff]
      intro hsame
      rw [user?_congr t hsame, hold] at hu
      cases hu
    refine ⟨fun _ => hother, fun _ h => ?_⟩
    rw [h, sameAccount_self] at hother
    cases hother
  | some old =>
    have hsame : sameAccount old.profile.username username = true := by
      rw [user?] at hold
      simpa using List.find?_some hold
    dsimp only
    rw [mem_rename]
    constructor
    · rintro ⟨⟨r, hr, rfl⟩, hne⟩
      by_cases ho : r.owner = old.profile.username
      · rw [if_pos ho] at hne
        exact absurd rfl hne
      · rw [if_neg ho] at hne ⊢
        refine ⟨hr, Bool.eq_false_iff.2 fun h => ho ?_⟩
        obtain ⟨u, hu, hname⟩ := hs.owned r hr
        rw [user?_congr t h, hold] at hu
        cases hu
        exact hname.symm
    · rintro ⟨hrow, hother⟩
      have hne : row.owner ≠ old.profile.username := by
        intro h
        rw [h, hsame] at hother
        cases hother
      refine ⟨⟨row, hrow, (if_neg hne).symm⟩, fun h => ?_⟩
      rw [h, sameAccount_self] at hother
      cases hother

theorem user?_saved (h : t.AcceptsSnapshot s) (username : String) :
    (t.saved s).user? username =
      if sameAccount s.username username then some ⟨s.profile, s.fetchedAt.toMicros⟩ else t.user? username :=
  user?_upsertProfile h username

/-- **The repositories after a save** are those that it lists, and those of other accounts that it does not list. -/
theorem mem_saved (hs : t.Sound) (h : t.AcceptsSnapshot s) {row : RepositoryRow} :
    row ∈ (t.saved s).repositories ↔
      Listed s row ∨
        (row ∈ t.repositories ∧ sameAccount row.owner s.username = false) ∧ ∀ q ∈ s.repositories, q.id ≠ row.id := by
  rw [saved, mem_reconciled, (upsertProfile_of_accepts h).2, ← mem_renamedTo hs]
  rfl

/-- **A save keeps the tables sound.** -/
theorem sound_saved (hs : t.Sound) (h : t.AcceptsSnapshot s) : (t.saved s).Sound where
  keyed := by
    refine keyed_reconciled ?_
    rw [(upsertProfile_of_accepts h).2]
    exact keyed_renamedTo hs.keyed _
  owned row hrow := by
    rw [user?_saved h]
    rcases (mem_saved hs h).1 hrow with ⟨q, -, rfl⟩ | ⟨⟨hrow, hother⟩, -⟩
    · exact ⟨⟨s.profile, s.fetchedAt.toMicros⟩, if_pos (sameAccount_self s.username), rfl⟩
    · rw [sameAccount_comm, hother]
      exact hs.owned row hrow

end Tables

end AccountStats.Store
