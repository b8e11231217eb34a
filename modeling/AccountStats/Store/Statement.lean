import AccountStats.Account.Repository
import AccountStats.Time.Micros
/-
The statements that the service sends to the database, with the values bound in them.
-/
namespace AccountStats.Store

/-- a value of a column, or one bound in a statement -/
inductive Value where
  | null
  | text (s : String)
  | int4 (n : Int32)
  | int8 (n : Int64)
  | bool (b : Bool)
  /-- a time in microseconds from 2000-01-01 -/
  | time (micros : Int)
  | int8s (ns : List Int64)
deriving DecidableEq, Repr

namespace Value

/-- a value that may be missing -/
def ofOption (f : α → Value) : Option α → Value
  | some a => f a
  | none => .null

def ofInstant (a : Time.Instant) : Value := .time a.toMicros

end Value

inductive Statement where
  /-- makes a transaction see one state of the database throughout -/
  | setIsolation
  /-- writes a profile, unless a newer one of the same account is stored -/
  | upsertProfile (profile : Profile) (fetchedAt : Time.Instant)
  /-- deletes the repositories of an account -/
  | deleteAll (owner : String)
  /-- writes repositories, which are then owned by the account -/
  | upsertRepositories (owner : String) (rows : List Repository)
  /-- deletes the repositories of an account whose ids are not listed -/
  | prune (owner : String) (ids : List Int64)
  | selectUser (username : String)
  | selectRepositories (owner : String)
  | listUsernames
  | ping
  | countUsers
deriving DecidableEq, Repr

namespace Statement

/-- the values of one repository row; it is owned by the account it is written for, whatever owner it names -/
def repositoryValues (owner : String) (r : Repository) : List Value :=
  [.int8 r.id, .text owner, .ofOption .ofInstant r.pushedAt, .ofOption .ofInstant r.updatedAt,
    .ofOption .text r.language, .int4 r.stars, .bool r.isFork, .int4 r.forks]

/-- the values bound in a statement, in order -/
def values : Statement → List Value
  | .setIsolation | .listUsernames | .ping | .countUsers => []
  | .upsertProfile p fetchedAt =>
    [.text p.username, .ofOption .text p.name, .ofOption .text p.company, .ofOption .text p.location,
      .ofOption .text p.bio, .int4 p.publicRepos, .int4 p.followers, .int4 p.following, .ofInstant fetchedAt]
  | .deleteAll owner => [.text owner]
  | .upsertRepositories owner rows => rows.flatMap (repositoryValues owner)
  | .prune owner ids => [.text owner, .int8s ids]
  | .selectUser username => [.text username]
  | .selectRepositories owner => [.text owner]

end Statement

end AccountStats.Store
