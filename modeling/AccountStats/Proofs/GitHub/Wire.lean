import Mathlib.Tactic
import AccountStats.GitHub.Wire
import AccountStats.Proofs.Json.Shape
/-
What is read of GitHub's JSON.

GitHub writes more of a user, a repository or a rate limit than is read here, in any order. What is read depends only on
the members for the fields, however many others there are, as long as no two have one name. Results:
- `User.ofJson?_of_fields`, `ListedRepository.ofJson?_of_fields`, `coreQuota?_of_fields`: each field is read from the
  member of its name;
- `ListedRepository.ofJson?_of_few`: a listed repository of which only its id and owner are said.
-/
namespace AccountStats.GitHub

open AccountStats.Json

variable {members : List (String × Json)}

namespace User

/-- the members of which a user is read -/
def fields (u : User) : List (String × Json) :=
  [("login", .text u.login), ("name", .ofOption .text u.name), ("company", .ofOption .text u.company),
    ("location", .ofOption .text u.location), ("bio", .ofOption .text u.bio),
    ("public_repos", .int u.publicRepos.toInt), ("followers", .int u.followers.toInt),
    ("following", .int u.following.toInt)]

theorem ofJson?_of_fields (u : User) (hnodup : (members.map Prod.fst).Nodup) (h : u.fields ⊆ members) :
    ofJson? (.record members) = some u := by
  rw [ofJson?, slots_of_subset (by rfl) hnodup h]
  simp only [fields, List.map_cons, List.map_nil, Slot.required, Slot.orElse, undoes_text.reads, undoes_int32.reads,
    optional_text, Option.bind_eq_bind, Option.bind_some]
  rfl

end User

theorem Owner.ofJson?_of_fields (o : Owner) (hnodup : (members.map Prod.fst).Nodup)
    (h : [("login", Json.text o.login)] ⊆ members) : ofJson? (.record members) = some o := by
  rw [ofJson?, slots_of_subset (by rfl) hnodup h]
  rfl

namespace ListedRepository

/-- the members of which a listed repository is read, with that for its owner -/
def fields (r : ListedRepository) (owner : Json) : List (String × Json) :=
  [("id", .int r.id.toInt), ("owner", owner), ("pushed_at", .ofOption .ofInstant r.pushedAt),
    ("updated_at", .ofOption .ofInstant r.updatedAt), ("language", .ofOption .text r.language),
    ("stargazers_count", .int r.stargazersCount.toInt), ("fork", .bool r.fork),
    ("forks_count", .int r.forksCount.toInt)]

theorem ofJson?_of_fields (r : ListedRepository) {owner : Json} (howner : Owner.ofJson? owner = some r.owner)
    (hnodup : (members.map Prod.fst).Nodup) (h : r.fields owner ⊆ members) :
    ofJson? (.record members) = some r := by
  rw [ofJson?, slots_of_subset (by rfl) hnodup h]
  simp only [fields, List.map_cons, List.map_nil, Slot.required, Slot.orElse, howner, undoes_int64.reads,
    undoes_int32.reads, undoes_bool.reads, optional_instant, optional_text, Option.bind_eq_bind, Option.bind_some]
  rfl

/-- a repository of which nothing else is said has no stars and no forks, and is no fork -/
theorem ofJson?_of_few {id : Int64} {owner : Json} {o : Owner} (howner : Owner.ofJson? owner = some o) :
    ofJson? (.record [("id", .int id.toInt), ("owner", owner)]) = some ⟨id, o, none, none, none, 0, false, 0⟩ := by
  have hslots : slots fieldNames (.record [("id", .int id.toInt), ("owner", owner)]) =
      some [.given (.int id.toInt), .given owner, .absent, .absent, .absent, .absent, .absent, .absent] := rfl
  rw [ofJson?, hslots]
  simp only [Slot.required, Slot.orElse, Slot.optional, howner, undoes_int64.reads, Option.bind_eq_bind,
    Option.bind_some]
  rfl

end ListedRepository

/-- the quota is read at its place, whatever else GitHub tells of its limits -/
theorem coreQuota?_of_fields (remaining : UInt32) (reset : Int64) {core resources : List (String × Json)}
    (hcore : (core.map Prod.fst).Nodup) (hresources : (resources.map Prod.fst).Nodup)
    (hnodup : (members.map Prod.fst).Nodup)
    (hquota : [("remaining", .int remaining.toNat), ("reset", .int reset.toInt)] ⊆ core)
    (hplace : [("core", .record core)] ⊆ resources) (h : [("resources", .record resources)] ⊆ members) :
    coreQuota? (.record members) = some (remaining, reset) := by
  have hcoreSlot : slots ["core"] (.record resources) = some [.given (.record core)] :=
    slots_of_subset (by rfl) hresources hplace
  have hquotaSlots : slots ["remaining", "reset"] (.record core) =
      some [.given (.int remaining.toNat), .given (.int reset.toInt)] :=
    slots_of_subset (by rfl) hcore hquota
  rw [coreQuota?, slots_of_subset (by rfl) hnodup h]
  simp only [List.map_cons, List.map_nil, Slot.required, hcoreSlot, hquotaSlots, undoes_uint32.reads,
    undoes_int64.reads, Option.bind_eq_bind, Option.bind_some]
  rfl

end AccountStats.GitHub
