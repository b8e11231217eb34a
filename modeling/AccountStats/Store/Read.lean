import AccountStats.Store.Calls
/-
Reading accounts back: one by name, whatever the case of its letters, and the names of all.
-/
namespace AccountStats.Store

/-! ## Rows -/

/-- what is said of a null where a value must be -/
def unexpectedNull : String := "unexpected null; try decoding as an `Option`"

/-- what is said of a value of another type than is read -/
def mismatched : String := "mismatched types"

/-- a value that must be there -/
def required (column : Column) (read : Value → Option α) : Value → Except DbError α
  | .null => .error (.columnDecode column unexpectedNull)
  | v => match read v with
    | some a => .ok a
    | none => .error (.columnDecode column mismatched)

/-- a value that may be missing -/
def nullable (column : Column) (read : Value → Option α) : Value → Except DbError (Option α)
  | .null => .ok none
  | v => (required column read v).map some

namespace Value

def text? : Value → Option String
  | .text s => some s
  | _ => none

def int4? : Value → Option Int32
  | .int4 n => some n
  | _ => none

def int8? : Value → Option Int64
  | .int8 n => some n
  | _ => none

def bool? : Value → Option Bool
  | .bool b => some b
  | _ => none

def instant? : Value → Option Time.Instant
  | .time micros => Time.Instant.ofMicros? micros
  | _ => none

end Value

/-- a profile and when it was fetched -/
structure StoredProfile where
  profile : Profile
  fetchedAt : Time.Instant
deriving DecidableEq, Repr

/-- a row with another number of columns than were asked for -/
def malformedRow : DbError := .protocol "unexpected number of columns"

def profileOfRow : Row → Except DbError StoredProfile
  | [username, name, company, location, bio, publicRepos, followers, following, fetchedAt] => do
    let profile : Profile := {
      username := ← required (.named "username") Value.text? username
      name := ← nullable (.named "name") Value.text? name
      company := ← nullable (.named "company") Value.text? company
      location := ← nullable (.named "location") Value.text? location
      bio := ← nullable (.named "bio") Value.text? bio
      publicRepos := ← required (.named "public_repos_count") Value.int4? publicRepos
      followers := ← required (.named "followers_count") Value.int4? followers
      following := ← required (.named "following_count") Value.int4? following }
    return ⟨profile, ← required (.named "fetched_at") Value.instant? fetchedAt⟩
  | _ => .error malformedRow

def repositoryOfRow : Row → Except DbError Repository
  | [id, owner, pushedAt, updatedAt, language, stars, isFork, forks] => do
    return {
      id := ← required (.named "github_id") Value.int8? id
      owner := ← required (.named "owner_username") Value.text? owner
      pushedAt := ← nullable (.named "pushed_at") Value.instant? pushedAt
      updatedAt := ← nullable (.named "updated_at") Value.instant? updatedAt
      language := ← nullable (.named "language") Value.text? language
      stars := ← required (.named "stars_count") Value.int4? stars
      isFork := ← required (.named "is_fork") Value.bool? isFork
      forks := ← required (.named "forks_count") Value.int4? forks }
  | _ => .error malformedRow

/-- the one value of a row with one column -/
def single (read : Value → Option α) : Row → Except DbError α
  | v :: _ => required (.at 0) read v
  | [] => .error malformedRow

/-! ## Reading -/

/-- the stored profile of an account, if there is one -/
def readProfile (username : String) : Attempt (Option StoredProfile) := do
  match ← Attempt.query (.selectUser username) with
  | [] => return none
  | row :: _ => return some (← profileOfRow row)

/-- the snapshot of an account; profile and repositories come from one state of the database -/
def readOnce (username : String) : Attempt (Option Snapshot) :=
  Attempt.transaction do
    let _ ← Attempt.execute .setIsolation
    match ← readProfile username with
    | none =>
      let () ← ExceptT.lift (ask .abandon)
      return none
    | some p =>
      let repositories ← (← Attempt.query (.selectRepositories p.profile.username)).mapM fun row =>
        (repositoryOfRow row : Except DbError Repository)
      Attempt.commit
      return some ⟨p.profile, repositories, p.fetchedAt⟩

/-- the stored snapshot of an account -/
def get (username : String) : Program Calls (Except Failure Snapshot) := do
  match ← (readOnce username).run with
  | .ok (some s) => return .ok s
  | .ok none => return .error (Failure.accountNotStored username)
  | .error e => return .error e.toFailure

/-- the names of all accounts in order -/
def listUsernames : Program Calls (Except Failure (List String)) := do
  match ← ask (.query .listUsernames) with
  | .ok rows => return (rows.mapM (single Value.text?)).mapError DbError.toFailure
  | .error e => return .error e.toFailure

/-! ## Checks -/

/-- whether the database answers -/
def ping : Program Calls (Except DbError Unit) := do
  match ← ask (.query .ping) with
  | .ok (_ :: _) => return .ok ()
  | .ok [] => return .error .rowNotFound
  | .error e => return .error e

/-- how many accounts are stored -/
def countUsers : Program Calls (Except DbError Int64) := do
  match ← ask (.query .countUsers) with
  | .ok (row :: _) => return single Value.int8? row
  | .ok [] => return .error .rowNotFound
  | .error e => return .error e

end AccountStats.Store
