import AccountStats.Time.Instant
/-
What is known of an account: its repositories and its profile, as fetched at one instant.
-/
namespace AccountStats

/-- one repository. Its identity is `id`; the owner may change. -/
structure Repository where
  id : Int64
  owner : String
  pushedAt : Option Time.Instant
  updatedAt : Option Time.Instant
  language : Option String
  stars : Int32
  isFork : Bool
  forks : Int32
deriving DecidableEq, Repr

/-- the profile of an account, without its repositories -/
structure Profile where
  username : String
  name : Option String
  company : Option String
  location : Option String
  bio : Option String
  publicRepos : Int32
  followers : Int32
  following : Int32
deriving DecidableEq, Repr

/-- profile and complete repository list of one account -/
structure Snapshot where
  profile : Profile
  repositories : List Repository
  fetchedAt : Time.Instant
deriving DecidableEq, Repr

namespace Snapshot

def username (s : Snapshot) : String := s.profile.username

/-- a snapshot with an empty profile that counts the given repositories -/
def ofRepositories (username : String) (repositories : List Repository) (fetchedAt : Time.Instant) : Snapshot :=
  { profile := { username, name := none, company := none, location := none, bio := none,
                 publicRepos := Int32.ofNat repositories.length, followers := 0, following := 0 }
    repositories, fetchedAt }

end Snapshot

end AccountStats
