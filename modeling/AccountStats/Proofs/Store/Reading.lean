import Mathlib.Tactic
import AccountStats.Store.Read
import AccountStats.Proofs.Store.Rows
import AccountStats.Proofs.Store.Transactions
import AccountStats.Proofs.Time.WholeMicros
/-
Reading a snapshot back.

A row reads back as what was written if its times are in the calendar (`Readable`). Results:
- `get_stored`: the profile of a stored account with its repositories by id, and `pairwise_repositoriesOf`: each once;
- `get_missing`: an account that is not stored is not found.
-/
namespace AccountStats.Store

variable {t : Tables} {row : RepositoryRow} {owner username : String}

open Tables

/-! ## Values -/

/-- the time is in the calendar -/
def Readable (micros : Option Int) : Prop := ∀ m, micros = some m → (Time.Instant.ofMicros? m).isSome = true

theorem nullable_text (c : Column) (o : Option String) : nullable c Value.text? (.ofOption .text o) = .ok o := by
  cases o <;> rfl

theorem required_instant {c : Column} {m : Int} {a : Time.Instant} (h : Time.Instant.ofMicros? m = some a) :
    required c Value.instant? (.time m) = .ok a := by
  simp only [required, Value.instant?, h]

theorem nullable_instant {c : Column} {micros : Option Int} (h : Readable micros) :
    nullable c Value.instant? (.ofOption .time micros) = .ok (micros.bind Time.Instant.ofMicros?) := by
  cases micros with
  | none => rfl
  | some m =>
    obtain ⟨a, ha⟩ := Option.isSome_iff_exists.1 (h m rfl)
    have hread : nullable c Value.instant? (.time m) = (required c Value.instant? (.time m)).map some := rfl
    rw [Value.ofOption, hread, required_instant ha, Option.bind_some, ha]
    rfl

/-! ## Rows -/

/-- the repository that a row stores -/
def RepositoryRow.repository (row : RepositoryRow) : Repository where
  id := row.id
  owner := row.owner
  pushedAt := row.pushedAt.bind Time.Instant.ofMicros?
  updatedAt := row.updatedAt.bind Time.Instant.ofMicros?
  language := row.language
  stars := row.stars
  isFork := row.isFork
  forks := row.forks

/-- the times of the row are in the calendar -/
def RepositoryRow.Readable (row : RepositoryRow) : Prop := Store.Readable row.pushedAt ∧ Store.Readable row.updatedAt

theorem repositoryOfRow_values (h : row.Readable) :
    repositoryOfRow (Tables.repositoryValues row) = .ok row.repository := by
  simp only [repositoryOfRow, Tables.repositoryValues, nullable_instant h.1, nullable_instant h.2, nullable_text]
  rfl

theorem profileOfRow_values {u : UserRow} {a : Time.Instant} (h : Time.Instant.ofMicros? u.fetchedAt = some a) :
    profileOfRow (userValues u) = .ok ⟨u.profile, a⟩ := by
  simp only [profileOfRow, userValues, nullable_text, required_instant h]
  rfl

/-- a time that the database keeps reads back as it was -/
theorem bind_ofMicros? {o : Option Time.Instant} (h : ∀ a ∈ o.toList, a.Kept) :
    (o.map Time.Instant.toMicros).bind Time.Instant.ofMicros? = o := by
  cases o with
  | none => rfl
  | some a => exact Time.Instant.ofMicros?_toMicros.2 (h a List.mem_cons_self)

theorem readable_of_kept {o : Option Time.Instant} (h : ∀ a ∈ o.toList, a.Kept) :
    Readable (o.map Time.Instant.toMicros) := by
  intro m hm
  obtain ⟨a, rfl, rfl⟩ := Option.map_eq_some_iff.1 hm
  rw [Time.Instant.ofMicros?_toMicros.2 (h a List.mem_cons_self)]
  rfl

variable {r : Repository}

/-- **A repository reads back as it was written**, but for its owner, which is the account it was written for. -/
theorem repository_of (h : ∀ a ∈ r.times, a.Kept) :
    (RepositoryRow.of owner r).repository = { r with owner := owner } := by
  obtain ⟨hpushed, hupdated⟩ := List.forall_mem_append.1 h
  simp only [RepositoryRow.repository, RepositoryRow.of, bind_ofMicros? hpushed, bind_ofMicros? hupdated]

theorem readable_of (h : ∀ a ∈ r.times, a.Kept) : (RepositoryRow.of owner r).Readable :=
  ⟨readable_of_kept (List.forall_mem_append.1 h).1, readable_of_kept (List.forall_mem_append.1 h).2⟩

/-! ## The repositories of an account -/

namespace Tables

theorem mem_repositoriesOf : row ∈ t.repositoriesOf owner ↔ row ∈ t.repositories ∧ row.owner = owner := by
  simp [repositoriesOf, ownedBy]

/-- **Each repository is read once, in the order of the ids.** -/
theorem pairwise_repositoriesOf (h : Keyed t.repositories) :
    (t.repositoriesOf owner).Pairwise fun a b => a.id < b.id := by
  have hle : (t.repositoriesOf owner).Pairwise fun a b => a.id ≤ b.id := by
    refine (List.pairwise_mergeSort (fun a b c => ?_) (fun a b => ?_) _).imp of_decide_eq_true
    · simpa using fun hab hbc => Int64.le_trans hab hbc
    · simpa using Int64.le_total a.id b.id
  have hne : ((t.repositoriesOf owner).map RepositoryRow.id).Nodup :=
    ((List.mergeSort_perm _ _).map RepositoryRow.id).nodup_iff.2 ((List.filter_sublist.map RepositoryRow.id).nodup h)
  exact (hle.and (List.pairwise_map.1 hne)).imp fun hab => Int64.lt_of_le_of_ne hab.1 hab.2

end Tables

/-! ## Running a read -/

theorem mapM_against {rows : List RepositoryRow} (h : ∀ row ∈ rows, row.Readable) (d : Database) :
    Attempt.against
        ((rows.map Tables.repositoryValues).mapM fun row => (repositoryOfRow row : Except DbError Repository)) d =
      (.ok (rows.map RepositoryRow.repository), d) := by
  induction rows with
  | nil => rfl
  | cons row rows ih =>
    obtain ⟨hrow, hrows⟩ := List.forall_mem_cons.1 h
    rw [List.map_cons, List.mapM_cons, Attempt.against_bind_lift (repositoryOfRow_values hrow),
      Attempt.against_bind_ok (ih hrows), Attempt.against_pure, List.map_cons]

theorem readProfile_missing (c : Tables) (h : t.user? username = none) :
    (readProfile username).against ⟨c, some t⟩ = (.ok none, ⟨c, some t⟩) := by
  have hquery : t.query (.selectUser username) = [] := by
    rw [query, h]
    rfl
  rw [readProfile, Attempt.against_bind_ok (Attempt.against_query _ _)]
  simp only [Database.visible, Option.getD_some, hquery, Attempt.against_pure]

theorem readProfile_stored (c : Tables) {u : UserRow} {a : Time.Instant} (h : t.user? username = some u)
    (ha : Time.Instant.ofMicros? u.fetchedAt = some a) :
    (readProfile username).against ⟨c, some t⟩ = (.ok (some ⟨u.profile, a⟩), ⟨c, some t⟩) := by
  have hquery : t.query (.selectUser username) = [userValues u] := by
    rw [query, h]
    rfl
  rw [readProfile, Attempt.against_bind_ok (Attempt.against_query _ _)]
  simp only [Database.visible, Option.getD_some, hquery]
  rw [Attempt.against_bind_lift (profileOfRow_values ha), Attempt.against_pure]

theorem readOnce_missing (h : t.user? username = none) :
    (readOnce username).against ⟨t, none⟩ = (.ok none, ⟨t, none⟩) := by
  rw [readOnce, Attempt.against_transaction]
  dsimp only
  rw [Attempt.against_bind_ok (Attempt.against_setIsolation t t), Attempt.against_bind_ok (readProfile_missing t h),
    Attempt.against_bind_ok (Attempt.against_abandon _)]
  rfl

theorem readOnce_stored {u : UserRow} {a : Time.Instant} (h : t.user? username = some u)
    (ha : Time.Instant.ofMicros? u.fetchedAt = some a)
    (hrows : ∀ row ∈ t.repositoriesOf u.profile.username, row.Readable) :
    (readOnce username).against ⟨t, none⟩ =
      (.ok (some ⟨u.profile, (t.repositoriesOf u.profile.username).map RepositoryRow.repository, a⟩), ⟨t, none⟩) := by
  have hquery : (Attempt.query (.selectRepositories u.profile.username)).against ⟨t, some t⟩ =
      (.ok ((t.repositoriesOf u.profile.username).map Tables.repositoryValues), ⟨t, some t⟩) := rfl
  rw [readOnce, Attempt.against_transaction]
  dsimp only
  rw [Attempt.against_bind_ok (Attempt.against_setIsolation t t), Attempt.against_bind_ok (readProfile_stored t h ha)]
  dsimp only
  rw [Attempt.against_bind_ok hquery, Attempt.against_bind_ok (mapM_against hrows _),
    Attempt.against_bind_ok (Attempt.against_commit _)]
  rfl

/-- **An account that is not stored is not found.** -/
theorem get_missing (h : t.user? username = none) :
    (get username).run Database.answer ⟨t, none⟩ = (.error (Failure.accountNotStored username), ⟨t, none⟩) := by
  rw [get, run_bind_eq (readOnce_missing h)]
  rfl

/-- **The stored profile and the repositories of the account.** -/
theorem get_stored {u : UserRow} {a : Time.Instant} (h : t.user? username = some u)
    (ha : Time.Instant.ofMicros? u.fetchedAt = some a)
    (hrows : ∀ row ∈ t.repositoriesOf u.profile.username, row.Readable) :
    (get username).run Database.answer ⟨t, none⟩ =
      (.ok ⟨u.profile, (t.repositoriesOf u.profile.username).map RepositoryRow.repository, a⟩, ⟨t, none⟩) := by
  rw [get, run_bind_eq (readOnce_stored h ha hrows)]
  rfl

end AccountStats.Store
