import AccountStats.Account.Wire
/-
What GitHub answers, in JSON: a user, a listed repository, and the quota of a credential.
-/
namespace AccountStats.GitHub

/-- the profile that GitHub gives; counts that are missing are zero -/
structure User where
  login : String
  name : Option String
  company : Option String
  location : Option String
  bio : Option String
  publicRepos : Int32
  followers : Int32
  following : Int32
deriving DecidableEq, Repr

namespace User

def fieldNames : List String :=
  ["login", "name", "company", "location", "bio", "public_repos", "followers", "following"]

def ofJson? (j : Json) : Option User :=
  match j.slots fieldNames with
  | some [login, name, company, location, bio, publicRepos, followers, following] => do
    return { login := ← login.required Json.string?
             name := ← name.optional Json.string?
             company := ← company.optional Json.string?
             location := ← location.optional Json.string?
             bio := ← bio.optional Json.string?
             publicRepos := ← publicRepos.orElse Json.int32? 0
             followers := ← followers.orElse Json.int32? 0
             following := ← following.orElse Json.int32? 0 }
  | _ => none

/-- the profile under its own login -/
def toProfile (u : User) : Profile :=
  ⟨u.login, u.name, u.company, u.location, u.bio, u.publicRepos, u.followers, u.following⟩

end User

/-- the owner of a listed repository -/
structure Owner where
  login : String
deriving DecidableEq, Repr

def Owner.ofJson? (j : Json) : Option Owner :=
  match j.slots ["login"] with
  | some [login] => do return ⟨← login.required Json.string?⟩
  | _ => none

/-- a repository as GitHub lists it; counts that are missing are zero, and what is not marked as a fork is none -/
structure ListedRepository where
  id : Int64
  owner : Owner
  pushedAt : Option Time.Instant
  updatedAt : Option Time.Instant
  language : Option String
  stargazersCount : Int32
  fork : Bool
  forksCount : Int32
deriving DecidableEq, Repr

namespace ListedRepository

def fieldNames : List String :=
  ["id", "owner", "pushed_at", "updated_at", "language", "stargazers_count", "fork", "forks_count"]

def ofJson? (j : Json) : Option ListedRepository :=
  match j.slots fieldNames with
  | some [id, owner, pushedAt, updatedAt, language, stargazersCount, fork, forksCount] => do
    return { id := ← id.required Json.int64?
             owner := ← owner.required Owner.ofJson?
             pushedAt := ← pushedAt.optional Json.instant?
             updatedAt := ← updatedAt.optional Json.instant?
             language := ← language.optional Json.string?
             stargazersCount := ← stargazersCount.orElse Json.int32? 0
             fork := ← fork.orElse Json.bool? false
             forksCount := ← forksCount.orElse Json.int32? 0 }
  | _ => none

/-- the repository under the login of its owner -/
def toRepository (r : ListedRepository) : Repository :=
  ⟨r.id, r.owner.login, r.pushedAt, r.updatedAt, r.language, r.stargazersCount, r.fork, r.forksCount⟩

end ListedRepository

/-- the core quota: requests left, and the Unix second at which it is full again -/
def coreQuota? (j : Json) : Option (UInt32 × Int64) :=
  match j.slots ["resources"] with
  | some [resources] => resources.required fun r =>
    match r.slots ["core"] with
    | some [core] => core.required fun c =>
      match c.slots ["remaining", "reset"] with
      | some [remaining, reset] => do return (← remaining.required Json.uint32?, ← reset.required Json.int64?)
      | _ => none
    | _ => none
  | _ => none

end AccountStats.GitHub
