import AccountStats.Account.Stats
import AccountStats.Json.Shape
import AccountStats.Json.Writer
/-
Accounts and statistics in JSON: how each record is written, and how it is read back.
-/
namespace AccountStats

/-! ## Repositories -/

namespace Repository

def toJson (r : Repository) : Json :=
  .record [
    ("id", .int r.id.toInt), ("owner_username", .text r.owner),
    ("pushed_at", .ofOption .ofInstant r.pushedAt), ("updated_at", .ofOption .ofInstant r.updatedAt),
    ("language", .ofOption .text r.language), ("star_count", .int r.stars.toInt),
    ("is_fork", .bool r.isFork), ("fork_count", .int r.forks.toInt)]

def fieldNames : List String :=
  ["id", "owner_username", "pushed_at", "updated_at", "language", "star_count", "is_fork", "fork_count"]

def ofJson? (j : Json) : Option Repository :=
  match j.slots fieldNames with
  | some [id, owner, pushedAt, updatedAt, language, stars, isFork, forks] => do
    return { id := ← id.required Json.int64?
             owner := ← owner.required Json.string?
             pushedAt := ← pushedAt.optional Json.instant?
             updatedAt := ← updatedAt.optional Json.instant?
             language := ← language.optional Json.string?
             stars := ← stars.required Json.int32?
             isFork := ← isFork.required Json.bool?
             forks := ← forks.required Json.int32? }
  | _ => none

end Repository

/-! ## Snapshots -/

namespace Snapshot

def toJson (s : Snapshot) : Json :=
  .record [
    ("username", .text s.profile.username), ("name", .ofOption .text s.profile.name),
    ("company", .ofOption .text s.profile.company), ("location", .ofOption .text s.profile.location),
    ("bio", .ofOption .text s.profile.bio), ("public_repo_count", .int s.profile.publicRepos.toInt),
    ("follower_count", .int s.profile.followers.toInt), ("following_count", .int s.profile.following.toInt),
    ("repositories", .array (s.repositories.map Repository.toJson)), ("fetched_at", .ofInstant s.fetchedAt)]

def fieldNames : List String :=
  ["username", "name", "company", "location", "bio", "public_repo_count", "follower_count", "following_count",
    "repositories", "fetched_at"]

def ofJson? (j : Json) : Option Snapshot :=
  match j.slots fieldNames with
  | some [username, name, company, location, bio, publicRepos, followers, following, repositories, fetchedAt] => do
    return { profile := { username := ← username.required Json.string?
                          name := ← name.optional Json.string?
                          company := ← company.optional Json.string?
                          location := ← location.optional Json.string?
                          bio := ← bio.optional Json.string?
                          publicRepos := ← publicRepos.required Json.int32?
                          followers := ← followers.required Json.int32?
                          following := ← following.required Json.int32? }
             repositories := ← repositories.required (Json.list? Repository.ofJson?)
             fetchedAt := ← fetchedAt.required Json.instant? }
  | _ => none

end Snapshot

/-! ## Statistics -/

namespace LanguageCounts

def toJson (c : LanguageCounts) : Json := .record (c.entries.map fun (k, n) => (k, .int n.toInt))

def ofJson? (j : Json) : Option LanguageCounts := (j.pairs? Json.int64?).map ofList

end LanguageCounts

namespace Stats

def members (s : Stats) : List (String × Json) := [
  ("totalRepos", .int s.totalRepos.toInt), ("originalRepos", .int s.originalRepos.toInt),
  ("forkedRepos", .int s.forkedRepos.toInt), ("totalStars", .int s.totalStars.toInt),
  ("totalForks", .int s.totalForks.toInt), ("languages", s.languages.toJson)]

def toJson (s : Stats) : Json := .record s.members

def fieldNames : List String :=
  ["totalRepos", "originalRepos", "forkedRepos", "totalStars", "totalForks", "languages"]

def ofJson? (j : Json) : Option Stats :=
  match j.slots fieldNames with
  | some [totalRepos, originalRepos, forkedRepos, totalStars, totalForks, languages] => do
    return { totalRepos := ← totalRepos.required Json.int64?
             originalRepos := ← originalRepos.required Json.int64?
             forkedRepos := ← forkedRepos.required Json.int64?
             totalStars := ← totalStars.required Json.int64?
             totalForks := ← totalForks.required Json.int64?
             languages := ← languages.required LanguageCounts.ofJson? }
  | _ => none

end Stats

namespace Entry

def toJson (e : Entry) : Json := .record [("stats", e.stats.toJson), ("updated_at", .ofInstant e.updatedAt)]

def fieldNames : List String := ["stats", "updated_at"]

def ofJson? (j : Json) : Option Entry :=
  match j.slots fieldNames with
  | some [stats, updatedAt] => do
    return { stats := ← stats.required Stats.ofJson?, updatedAt := ← updatedAt.required Json.instant? }
  | _ => none

/-- the answer to a request for the statistics of an account: its name and the time beside the counts -/
def toAnswer (username : String) (e : Entry) : Json :=
  .record (("username", .text username) :: ("updatedAt", .ofInstant e.updatedAt) :: e.stats.members)

end Entry

end AccountStats
