import Mathlib.Tactic
import AccountStats.Proofs.Store.Reading
import AccountStats.Proofs.Store.Saving
/-
Any number of saves, and what is read after them.

A ledger of the accepted snapshots, the newest first, is all that the tables amount to: a snapshot is accepted unless
the latest one of its account was fetched later; an account is what the latest snapshot of it says; and it owns the
repositories that this snapshot lists, without those that a later snapshot of another account lists.

`Holds` relates tables to a ledger. Results:
- `holds_saved`, `holds_saves`: saves keep them related;
- `save_history`: whether the next save is accepted, and what a read returns, after any saves of snapshots with times that
  the database keeps;
- `leapSecond_moved`: a time in a leap second is read back as one in the second after it.
-/
namespace AccountStats.Store

variable {t : Tables} {log history : List Snapshot} {s x : Snapshot} {username : String} {row : RepositoryRow}

open Tables

/-! ## The ledger -/

/-- the newest snapshot of an account -/
def latest? (log : List Snapshot) (username : String) : Option Snapshot :=
  log.find? fun s => sameAccount s.username username

/-- the newest snapshot of the account was fetched later than this one -/
def outdated (log : List Snapshot) (s : Snapshot) : Bool :=
  (latest? log s.username).any fun x => s.fetchedAt.before x.fetchedAt

/-- a snapshot is accepted unless it is outdated -/
def record (log : List Snapshot) (s : Snapshot) : List Snapshot := if outdated log s then log else s :: log

/-- the accepted snapshots of a history of saves -/
def ledger (history : List Snapshot) : List Snapshot := history.foldl record []

/-- the row is one of the repositories that the snapshots in the ledger amount to -/
def Current : List Snapshot → RepositoryRow → Prop
  | [], _ => False
  | s :: log, row =>
    Listed s row ∨ (Current log row ∧ sameAccount row.owner s.username = false) ∧ ∀ q ∈ s.repositories, q.id ≠ row.id

theorem latest?_cons (s : Snapshot) (log : List Snapshot) (username : String) :
    latest? (s :: log) username = if sameAccount s.username username then some s else latest? log username := by
  rw [latest?, List.find?_cons]
  cases sameAccount s.username username <;> rfl

theorem latest?_append {later earlier : List Snapshot} (hx : sameAccount x.username username = true)
    (hlater : ∀ y ∈ later, sameAccount y.username username = false) :
    latest? (later ++ x :: earlier) username = some x := by
  refine List.find?_eq_some_iff_append.2 ⟨hx, later, earlier, rfl, fun y hy => ?_⟩
  rw [hlater y hy]
  rfl

/-- **What an account owns** is what its latest snapshot lists, but for what later snapshots of others list. -/
theorem current_append {later earlier : List Snapshot}
    (hlater : ∀ y ∈ later, sameAccount y.username x.username = false) :
    Current (later ++ x :: earlier) row ∧ sameAccount row.owner x.username = true ↔
      Listed x row ∧ ∀ y ∈ later, ∀ q ∈ y.repositories, q.id ≠ row.id := by
  induction later with
  | nil =>
    constructor
    · rintro ⟨hlisted | ⟨⟨-, hother⟩, -⟩, hsame⟩
      · exact ⟨hlisted, fun _ h => absurd h List.not_mem_nil⟩
      · rw [hother] at hsame
        cases hsame
    · rintro ⟨⟨q, hq, rfl⟩, -⟩
      exact ⟨Or.inl ⟨q, hq, rfl⟩, sameAccount_self x.username⟩
  | cons y later ih =>
    obtain ⟨hy, hlater⟩ := List.forall_mem_cons.1 hlater
    rw [List.forall_mem_cons]
    constructor
    · rintro ⟨⟨q, -, rfl⟩ | ⟨⟨hcurrent, -⟩, hnot⟩, hsame⟩
      · have hsame : sameAccount y.username x.username = true := hsame
        rw [hy] at hsame
        cases hsame
      · obtain ⟨hlisted, hrest⟩ := (ih hlater).1 ⟨hcurrent, hsame⟩
        exact ⟨hlisted, hnot, hrest⟩
    · rintro ⟨hlisted, hnot, hrest⟩
      obtain ⟨hcurrent, hsame⟩ := (ih hlater).2 ⟨hlisted, hrest⟩
      refine ⟨Or.inr ⟨⟨hcurrent, ?_⟩, hnot⟩, hsame⟩
      rw [sameAccount_congr_left hsame, sameAccount_comm, hy]

/-! ## Tables and ledger -/

/-- the tables store what the ledger says -/
structure Holds (t : Tables) (log : List Snapshot) : Prop where
  sound : t.Sound
  user : ∀ username, t.user? username = (latest? log username).map fun s => ⟨s.profile, s.fetchedAt.toMicros⟩
  repository : ∀ row, row ∈ t.repositories ↔ Current log row

theorem holds_empty : Holds .empty [] := ⟨sound_empty, fun _ => rfl, fun _ => iff_of_false List.not_mem_nil id⟩

/-- **An accepted save adds its snapshot to the ledger.** -/
theorem holds_saved (h : Holds t log) (hs : t.AcceptsSnapshot s) : Holds (t.saved s) (s :: log) where
  sound := sound_saved h.sound hs
  user username := by
    rw [user?_saved hs, latest?_cons, h.user]
    cases sameAccount s.username username <;> rfl
  repository row := by
    rw [mem_saved h.sound hs, h.repository]
    rfl

/-- all times of a snapshot are such as the database keeps -/
def Keepable (s : Snapshot) : Prop := ∀ a ∈ s.times, a.Kept

theorem Keepable.fetchedAt (h : Keepable s) : s.fetchedAt.Kept := h _ List.mem_cons_self

theorem Keepable.repository {r : Repository} (h : Keepable s) (hr : r ∈ s.repositories) : ∀ a ∈ r.times, a.Kept :=
  fun a ha => h a (Snapshot.times_repository hr ha)

/-- **The guard of a save compares instants**, as the database keeps the stored times. -/
theorem accepts_iff (h : Holds t log) (hlog : ∀ x ∈ log, Keepable x) (hs : Keepable s) :
    t.AcceptsSnapshot s ↔ outdated log s = false := by
  unfold AcceptsSnapshot Accepts outdated
  rw [h.user]
  cases hlatest : latest? log s.username with
  | none => simp
  | some x =>
    have hx : Keepable x := hlog x (List.mem_of_find?_eq_some hlatest)
    rw [Option.any_some, ← Time.Instant.toMicros_le hs.fetchedAt hx.fetchedAt]
    simp

/-- the database after one more save -/
def saveTo (d : Database) (s : Snapshot) : Database := ((save s).run Database.answer d).2

/-- the database after a history of saves -/
def saves (history : List Snapshot) : Database := history.foldl saveTo .empty

theorem holds_saveTo (h : Holds t log) (hlog : ∀ x ∈ log, Keepable x) (hs : Keepable s) :
    ∃ u, saveTo ⟨t, none⟩ s = ⟨u, none⟩ ∧ Holds u (record log s) ∧ ∀ x ∈ record log s, Keepable x := by
  unfold saveTo record
  cases hout : outdated log s with
  | true =>
    have hrejected : ¬ t.AcceptsSnapshot s := by
      rw [accepts_iff h hlog hs, hout]
      simp
    rw [save_rejected hrejected]
    exact ⟨t, rfl, h, hlog⟩
  | false =>
    have haccepted : t.AcceptsSnapshot s := (accepts_iff h hlog hs).2 hout
    rw [save_accepted haccepted]
    exact ⟨t.saved s, rfl, holds_saved h haccepted, List.forall_mem_cons.2 ⟨hs, hlog⟩⟩

theorem holds_foldl (h : Holds t log) (hlog : ∀ x ∈ log, Keepable x) (hhistory : ∀ s ∈ history, Keepable s) :
    ∃ u, history.foldl saveTo ⟨t, none⟩ = ⟨u, none⟩ ∧ Holds u (history.foldl record log) ∧
      ∀ x ∈ history.foldl record log, Keepable x := by
  induction history generalizing t log with
  | nil => exact ⟨t, rfl, h, hlog⟩
  | cons s history ih =>
    obtain ⟨hs, hhistory⟩ := List.forall_mem_cons.1 hhistory
    obtain ⟨u, hu, hholds, hrecord⟩ := holds_saveTo h hlog hs
    rw [List.foldl_cons, List.foldl_cons, hu]
    exact ih hholds hrecord hhistory

/-- **After any saves, the tables store what the ledger says.** -/
theorem holds_saves (hhistory : ∀ s ∈ history, Keepable s) :
    ∃ t, saves history = ⟨t, none⟩ ∧ Holds t (ledger history) ∧ ∀ x ∈ ledger history, Keepable x :=
  holds_foldl holds_empty (fun _ h => absurd h List.not_mem_nil) hhistory

/-! ## Reading -/

theorem readable_of_listed (hs : Keepable s) (h : Listed s row) : row.Readable := by
  obtain ⟨q, hq, rfl⟩ := h
  exact readable_of (hs.repository hq.mem)

/-- the rows that a read of the account finds -/
theorem mem_repositoriesOf_latest {later earlier : List Snapshot} (h : Holds t (later ++ x :: earlier))
    (hlater : ∀ y ∈ later, sameAccount y.username x.username = false) :
    row ∈ t.repositoriesOf x.username ↔ Listed x row ∧ ∀ y ∈ later, ∀ q ∈ y.repositories, q.id ≠ row.id := by
  rw [mem_repositoriesOf, h.repository, ← current_append hlater]
  constructor
  · rintro ⟨hcurrent, howner⟩
    exact ⟨hcurrent, by rw [howner, sameAccount_self]⟩
  · rintro ⟨hcurrent, hsame⟩
    obtain ⟨⟨q, -, hrow⟩, -⟩ := (current_append hlater).1 ⟨hcurrent, hsame⟩
    exact ⟨hcurrent, by rw [hrow]; rfl⟩

/-- the repositories that a snapshot lists, as they are read back: the last of each id, owned by the account -/
def LastListed (x : Snapshot) (r : Repository) : Prop :=
  ∃ q, LastOf x.repositories q ∧ r = { q with owner := x.username }

theorem get_latest {later earlier : List Snapshot} (h : Holds t (later ++ x :: earlier)) (hx : Keepable x)
    (hlater : ∀ y ∈ later, sameAccount y.username x.username = false)
    (hsame : sameAccount x.username username = true) :
    ∃ rs, (get username).run Database.answer ⟨t, none⟩ = (.ok ⟨x.profile, rs, x.fetchedAt⟩, ⟨t, none⟩) ∧
      rs.Pairwise (fun a b => a.id < b.id) ∧
      ∀ r, r ∈ rs ↔ LastListed x r ∧ ∀ y ∈ later, ∀ q ∈ y.repositories, q.id ≠ r.id := by
  have hother : ∀ y ∈ later, sameAccount y.username username = false := fun y hy => by
    rw [← sameAccount_congr hsame, hlater y hy]
  have huser : t.user? username = some ⟨x.profile, x.fetchedAt.toMicros⟩ := by
    rw [h.user, latest?_append hsame hother]
    rfl
  have hrow : ∀ row, row ∈ t.repositoriesOf x.username ↔
      Listed x row ∧ ∀ y ∈ later, ∀ q ∈ y.repositories, q.id ≠ row.id := fun _ => mem_repositoriesOf_latest h hlater
  have hread : ∀ row ∈ t.repositoriesOf x.username, row.Readable := fun row hmem =>
    readable_of_listed hx ((hrow row).1 hmem).1
  refine ⟨(t.repositoriesOf x.username).map RepositoryRow.repository,
    get_stored huser (Time.Instant.ofMicros?_toMicros.2 hx.fetchedAt) hread, ?_, fun r => ?_⟩
  · exact List.pairwise_map.2 (pairwise_repositoriesOf h.sound.keyed)
  · rw [List.mem_map]
    constructor
    · rintro ⟨row, hmem, rfl⟩
      obtain ⟨⟨q, hq, rfl⟩, hnot⟩ := (hrow row).1 hmem
      exact ⟨⟨q, hq, repository_of (hx.repository hq.mem)⟩, hnot⟩
    · rintro ⟨⟨q, hq, rfl⟩, hnot⟩
      exact ⟨RepositoryRow.of x.username q, (hrow _).2 ⟨⟨q, hq, rfl⟩, hnot⟩, repository_of (hx.repository hq.mem)⟩

/-- what a history of saves, from an empty database, comes to -/
structure Reconciled (history : List Snapshot) (next : Snapshot) : Prop where
  /-- the next save is refused if a later snapshot of its account is stored, and then it changes nothing -/
  refused : outdated (ledger history) next = true →
    (save next).run Database.answer (saves history) =
      (.error ⟨.nothingChanged, "A newer snapshot is already stored", Failure.fields [("username", next.username),
        ("fetched_at", Time.Rfc3339.render next.fetchedAt)]⟩, saves history)
  accepted : outdated (ledger history) next = false → ((save next).run Database.answer (saves history)).1 = .ok ()
  /-- an account that no accepted snapshot is of is not found, under any case of its name -/
  missing : ∀ username, (∀ x ∈ ledger history, sameAccount x.username username = false) →
    (get username).run Database.answer (saves history) =
      (.error ⟨.nothingFound, "Account not stored", Failure.fields [("username", username)]⟩, saves history)
  /-- else a read returns the profile of the latest accepted snapshot `x` of the account and, sorted by id, one
  repository for each id that `x` lists, as it is listed last, but for the ids that an accepted snapshot `later` than
  `x` lists -/
  found : ∀ username later x earlier, ledger history = later ++ x :: earlier → sameAccount x.username username = true →
    (∀ y ∈ later, sameAccount y.username x.username = false) →
    ∃ rs, (get username).run Database.answer (saves history) = (.ok ⟨x.profile, rs, x.fetchedAt⟩, saves history) ∧
      rs.Pairwise (fun a b => a.id < b.id) ∧
      ∀ r, r ∈ rs ↔ LastListed x r ∧ ∀ y ∈ later, ∀ q ∈ y.repositories, q.id ≠ r.id

/-- **Any history of saves is reconciled**, of snapshots whose times are whole microseconds in no leap second. -/
theorem save_history (history : List Snapshot) (next : Snapshot)
    (whole : ∀ s ∈ next :: history, ∀ a ∈ s.times, a.WholeMicros)
    (ordinary : ∀ s ∈ next :: history, ∀ a ∈ s.times, a.Ordinary) : Reconciled history next := by
  have hkept : ∀ s ∈ next :: history, Keepable s := fun s hs a ha => ⟨ordinary s hs a ha, whole s hs a ha⟩
  obtain ⟨hnext, hhistory⟩ := List.forall_mem_cons.1 hkept
  obtain ⟨t, ht, h, hlog⟩ := holds_saves hhistory
  constructor
  all_goals rw [ht]
  case refused =>
    intro hout
    refine save_rejected fun haccepted => ?_
    rw [(accepts_iff h hlog hnext).1 haccepted] at hout
    cases hout
  case accepted =>
    intro hout
    rw [save_accepted ((accepts_iff h hlog hnext).2 hout)]
  case missing =>
    intro username hnone
    have hlatest : latest? (ledger history) username = none :=
      List.find?_eq_none.2 fun x hx => by rw [hnone x hx]; exact Bool.false_ne_true
    refine get_missing ?_
    rw [h.user, hlatest]
    rfl
  case found =>
    intro username later x earlier hledger hsame hlater
    rw [hledger] at h hlog
    exact get_latest h (hlog x (by simp)) hlater hsame

/-- a repository that names another owner than the account that lists it -/
def plainRepository (id : Int64) (language : String) : Repository :=
  ⟨id, "octocat", some .epoch, none, some language, 0, false, 0⟩

def annListsTwice : Snapshot :=
  .ofRepositories "Ann" [plainRepository 1 "C", plainRepository 2 "C", plainRepository 1 "Rust"] .epoch

def bobListsOne : Snapshot := .ofRepositories "bob" [plainRepository 2 "C"] .epoch

/-- of the two repositories of one account, one moves to the other account, and one is listed twice -/
theorem save_history_moved : ∃ rs,
    (get "aNN").run Database.answer (saves [annListsTwice, bobListsOne]) =
      (.ok ⟨annListsTwice.profile, rs, .epoch⟩, saves [annListsTwice, bobListsOne]) ∧
    { plainRepository 1 "Rust" with owner := "Ann" } ∈ rs ∧ ∀ r ∈ rs, r.id ≠ 2 := by
  obtain ⟨rs, hget, -, hmem⟩ := (save_history [annListsTwice, bobListsOne] annListsTwice (by decide +kernel)
    (by decide +kernel)).found
    "aNN" [bobListsOne] annListsTwice [] (by decide) (by decide) (by decide)
  refine ⟨rs, hget, (hmem _).2 ⟨⟨plainRepository 1 "Rust", ?_, rfl⟩, by decide⟩, fun r hr hid => ?_⟩
  · exact ⟨[plainRepository 1 "C", plainRepository 2 "C"], [], rfl, fun _ h => absurd h List.not_mem_nil⟩
  · exact ((hmem r).1 hr).2 bobListsOne (by decide) (plainRepository 2 "C") (by decide) hid.symm

/-- 2015-06-30T23:59:60, a leap second, and the second after it -/
def inLeapSecond : Time.Instant := (Time.Instant.ofParts? 1435708799 1000000000).getD .epoch
def afterLeapSecond : Time.Instant := (Time.Instant.ofSeconds? 1435708800).getD .epoch

def annFetchedAt (a : Time.Instant) : Snapshot := .ofRepositories "ann" [] a

/-- **A time in a leap second is not kept**: it is read back as the same time of the next second. -/
theorem leapSecond_moved : ¬ ∀ (history : List Snapshot) (next : Snapshot),
    (∀ s ∈ next :: history, ∀ a ∈ s.times, a.WholeMicros) → Reconciled history next := by
  intro hall
  have hread : ((get "ann").run Database.answer (saves [annFetchedAt inLeapSecond])).1.toOption.map Snapshot.fetchedAt =
      some afterLeapSecond := by
    decide +kernel
  have hreconciled := hall [annFetchedAt inLeapSecond] (annFetchedAt inLeapSecond) (by decide +kernel)
  obtain ⟨rs, hget, -⟩ := hreconciled.found "ann" [] (annFetchedAt inLeapSecond) [] (by rfl) (by decide)
    fun _ h => absurd h List.not_mem_nil
  rw [hget] at hread
  have hsame : inLeapSecond = afterLeapSecond := Option.some.inj hread
  exact absurd hsame (by decide)

end AccountStats.Store
