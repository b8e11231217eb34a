import AccountStats.Store.Calls
import AccountStats.Time.Rfc3339
/-
Saving a snapshot: in one transaction the profile is written, then every repository, then what the account owns and the
snapshot does not list is deleted. If a newer snapshot is stored, nothing is written.

A save that lost a race against another one is tried again, after pauses.
-/
namespace AccountStats.Store

/-- rows in one statement at most -/
def chunkSize : Nat := 500

/-- the items in chunks of `n + 1`, the last of which may be shorter -/
def chunks (n : Nat) (xs : List α) : List (List α) :=
  if xs = [] then [] else xs.take (n + 1) :: chunks n (xs.drop (n + 1))
termination_by xs.length
decreasing_by
  cases xs with
  | nil => contradiction
  | cons x xs => simp only [List.drop_succ_cons, List.length_drop, List.length_cons]; omega

/-- repositories without repeated ids: of each id the last one, in the order of these -/
def lastOfEachId : List Repository → List Repository
  | [] => []
  | r :: rest => if rest.any (·.id == r.id) then lastOfEachId rest else r :: lastOfEachId rest

/-- writes the chunks of repositories one after the other -/
def upsertAll (owner : String) : List (List Repository) → Attempt Unit
  | [] => return ()
  | rows :: rest => do
    let _ ← Attempt.execute (.upsertRepositories owner rows)
    upsertAll owner rest

/-- the repositories that an account owns from now on -/
def reconcile (owner : String) (repositories : List Repository) : Attempt Unit := do
  if repositories = [] then
    let _ ← Attempt.execute (.deleteAll owner)
  else
    let unique := lastOfEachId repositories
    upsertAll owner (chunks (chunkSize - 1) unique)
    let _ ← Attempt.execute (.prune owner (unique.map Repository.id))

/-- one attempt; says whether the snapshot was written -/
def saveOnce (s : Snapshot) : Attempt Bool :=
  Attempt.transaction do
    let _ ← Attempt.execute .setIsolation
    let affected ← Attempt.execute (.upsertProfile s.profile s.fetchedAt)
    if affected = 0 then
      Attempt.rollback
      return false
    reconcile s.username s.repositories
    Attempt.commit
    return true

/-- pauses before further attempts, in milliseconds at most -/
def pauses : List Nat := [20, 40, 80]

/-- attempts until one does not lose a race, or the pauses are used up -/
def retry (attempt : Attempt α) : List Nat → Program Calls (Except DbError α)
  | [] => attempt.run
  | pause :: rest => do
    match ← attempt.run with
    | .ok a => return .ok a
    | .error e =>
      if e.isSerializationFailure then
        let () ← ask (.pause pause)
        retry attempt rest
      else return .error e

/-- saves a snapshot -/
def save (s : Snapshot) : Program Calls (Except Failure Unit) := do
  match ← retry (saveOnce s) pauses with
  | .ok true => return .ok ()
  | .ok false => return .error (Failure.newerSnapshotStored s.username (Time.Rfc3339.render s.fetchedAt))
  | .error e => return .error e.toFailure

end AccountStats.Store
