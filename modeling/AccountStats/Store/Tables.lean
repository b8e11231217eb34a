import AccountStats.Store.Calls
import AccountStats.Text.Case
/-
The two tables of the database and what the statements do to them.

Accounts are unique up to the case of ASCII letters. A repository has one row, under its id, and is owned by a stored
account; when the account is renamed, its repositories follow. A transaction works on tables of its own, which replace
the common ones when it commits.
-/
namespace AccountStats.Store

/-- a row of the table of accounts -/
structure UserRow where
  profile : Profile
  fetchedAt : Int
deriving DecidableEq, Repr

/-- a row of the table of repositories; times are in microseconds -/
structure RepositoryRow where
  id : Int64
  owner : String
  pushedAt : Option Int
  updatedAt : Option Int
  language : Option String
  stars : Int32
  isFork : Bool
  forks : Int32
deriving DecidableEq, Repr

/-- the row that stores a repository of an account -/
def RepositoryRow.of (owner : String) (r : Repository) : RepositoryRow where
  id := r.id
  owner
  pushedAt := r.pushedAt.map Time.Instant.toMicros
  updatedAt := r.updatedAt.map Time.Instant.toMicros
  language := r.language
  stars := r.stars
  isFork := r.isFork
  forks := r.forks

structure Tables where
  users : List UserRow
  repositories : List RepositoryRow
deriving DecidableEq, Repr

namespace Tables

def empty : Tables := ⟨[], []⟩

/-- the two names are of one account -/
def sameAccount (a b : String) : Bool := Text.lowered a == Text.lowered b

def user? (t : Tables) (username : String) : Option UserRow :=
  t.users.find? fun u => sameAccount u.profile.username username

/-! ## Writing -/

/-- repositories after their owner was renamed -/
def rename (old new : String) (rs : List RepositoryRow) : List RepositoryRow :=
  rs.map fun r => if r.owner = old then { r with owner := new } else r

/-- writes a profile unless a newer one is stored; says how many rows that affected -/
def upsertProfile (t : Tables) (p : Profile) (fetchedAt : Int) : Nat × Tables :=
  match t.user? p.username with
  | none => (1, { t with users := t.users ++ [⟨p, fetchedAt⟩] })
  | some old =>
    if old.fetchedAt ≤ fetchedAt then
      (1, {
        users := t.users.map fun u => if sameAccount u.profile.username p.username then ⟨p, fetchedAt⟩ else u
        repositories := rename old.profile.username p.username t.repositories })
    else (0, t)

def ownedBy (owner : String) (r : RepositoryRow) : Bool := r.owner == owner

def deleteAll (t : Tables) (owner : String) : Nat × Tables :=
  ((t.repositories.filter (ownedBy owner)).length,
    { t with repositories := t.repositories.filter fun r => !ownedBy owner r })

/-- puts a row under its id -/
def putRow (rows : List RepositoryRow) (r : RepositoryRow) : List RepositoryRow :=
  if rows.any (·.id == r.id) then rows.map fun old => if old.id = r.id then r else old
  else rows ++ [r]

/-- what is said of one statement that writes a row twice -/
def repeatedRow : DbError :=
  .server "21000" "ON CONFLICT DO UPDATE command cannot affect row a second time" none

/-- what is said of a repository whose owner is not stored -/
def unknownOwner : DbError :=
  .server "23503" ("insert or update on table \"repositories\" violates foreign key constraint " ++
    "\"repositories_owner_username_fkey\"") (some "repositories_owner_username_fkey")

/-- whether some id is repeated -/
def repeatsId : List Repository → Bool
  | [] => false
  | r :: rest => rest.any (·.id == r.id) || repeatsId rest

def upsertRepositories (t : Tables) (owner : String) (rows : List Repository) : Except DbError (Nat × Tables) :=
  if repeatsId rows then .error repeatedRow
  else if !t.users.any (·.profile.username == owner) then .error unknownOwner
  else .ok (rows.length, { t with repositories := (rows.map (RepositoryRow.of owner)).foldl putRow t.repositories })

def prune (t : Tables) (owner : String) (ids : List Int64) : Nat × Tables :=
  let doomed (r : RepositoryRow) : Bool := ownedBy owner r && !ids.contains r.id
  ((t.repositories.filter doomed).length, { t with repositories := t.repositories.filter fun r => !doomed r })

/-! ## Reading -/

def userValues (u : UserRow) : Row :=
  [.text u.profile.username, .ofOption .text u.profile.name, .ofOption .text u.profile.company,
    .ofOption .text u.profile.location, .ofOption .text u.profile.bio, .int4 u.profile.publicRepos,
    .int4 u.profile.followers, .int4 u.profile.following, .time u.fetchedAt]

def repositoryValues (r : RepositoryRow) : Row :=
  [.int8 r.id, .text r.owner, .ofOption .time r.pushedAt, .ofOption .time r.updatedAt,
    .ofOption .text r.language, .int4 r.stars, .bool r.isFork, .int4 r.forks]

/-- the repositories of an account by id -/
def repositoriesOf (t : Tables) (owner : String) : List RepositoryRow :=
  (t.repositories.filter (ownedBy owner)).mergeSort fun a b => a.id ≤ b.id

def usernames (t : Tables) : List String := (t.users.map fun u => u.profile.username).mergeSort (· ≤ ·)

/-! ## Statements -/

/-- a statement without result columns -/
def execute (t : Tables) : Statement → Except DbError (Nat × Tables)
  | .upsertProfile p fetchedAt => .ok (t.upsertProfile p fetchedAt.toMicros)
  | .deleteAll owner => .ok (t.deleteAll owner)
  | .upsertRepositories owner rows => t.upsertRepositories owner rows
  | .prune owner ids => .ok (t.prune owner ids)
  | _ => .ok (0, t)

/-- a statement with result columns -/
def query (t : Tables) : Statement → List Row
  | .selectUser username => (t.user? username).toList.map userValues
  | .selectRepositories owner => (t.repositoriesOf owner).map repositoryValues
  | .listUsernames => t.usernames.map fun u => [.text u]
  | .ping => [[.int4 1]]
  | .countUsers => [[.int8 (Int64.ofNat t.users.length)]]
  | _ => []

end Tables

/-! ## Transactions -/

/-- the common tables, and those of the transaction that runs -/
structure Database where
  committed : Tables
  working : Option Tables
deriving DecidableEq, Repr

namespace Database

def empty : Database := ⟨.empty, none⟩

/-- the tables that a statement sees -/
def visible (d : Database) : Tables := d.working.getD d.committed

/-- changes them -/
def write (d : Database) (t : Tables) : Database :=
  match d.working with
  | some _ => { d with working := some t }
  | none => { d with committed := t }

def answer (r : Ask) (d : Database) : r.Reply × Database :=
  match r with
  | .begin => (.ok (), { d with working := some d.committed })
  | .commit => (.ok (), ⟨d.visible, none⟩)
  | .rollback => (.ok (), { d with working := none })
  | .abandon => ((), { d with working := none })
  | .execute s =>
    match d.visible.execute s with
    | .ok (n, t) => (.ok n, d.write t)
    | .error e => (.error e, d)
  | .query s => (.ok (d.visible.query s), d)
  | .pause _ => ((), d)

end Database

end AccountStats.Store
