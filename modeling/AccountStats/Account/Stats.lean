import AccountStats.Account.Repository
/-
Statistics over the repositories of an account.

All repositories count towards the totals; stars, forks and languages are tallied over those that are not forks
themselves. Counts are 64-bit words. Languages are kept sorted by name, each with how many repositories use it.
-/
namespace AccountStats

/-- counts by language, sorted by name -/
structure LanguageCounts where
  entries : List (String × Int64)
  sorted : entries.Pairwise (fun a b => a.1 < b.1)
deriving DecidableEq, Repr

namespace LanguageCounts

def empty : LanguageCounts := ⟨[], .nil⟩

/-- puts the result of `f` on the present count (if any) under a name, in its place -/
def alterEntries (f : Option Int64 → Int64) (name : String) : List (String × Int64) → List (String × Int64)
  | [] => [(name, f none)]
  | (k, n) :: rest =>
    if name < k then (name, f none) :: (k, n) :: rest
    else if name = k then (k, f (some n)) :: rest
    else (k, n) :: alterEntries f name rest

theorem lt_of_mem_alterEntries {f : Option Int64 → Int64} {name low : String} {es : List (String × Int64)}
    (hlow : low < name) (hall : ∀ e ∈ es, low < e.1) : ∀ e ∈ alterEntries f name es, low < e.1 := by
  induction es with
  | nil => simpa [alterEntries] using hlow
  | cons e es ih =>
    obtain ⟨k, n⟩ := e
    have hk : low < k := hall (k, n) (by simp)
    have hrest : ∀ e ∈ es, low < e.1 := fun e he => hall e (by simp [he])
    intro e he
    simp only [alterEntries] at he
    split at he
    · rcases List.mem_cons.1 he with rfl | he
      · exact hlow
      · exact hall e he
    · split at he
      · rcases List.mem_cons.1 he with rfl | he
        · exact hk
        · exact hrest e he
      · rcases List.mem_cons.1 he with rfl | he
        · exact hk
        · exact ih hrest e he

theorem sorted_alterEntries (f : Option Int64 → Int64) (name : String) {es : List (String × Int64)}
    (h : es.Pairwise (fun a b => a.1 < b.1)) : (alterEntries f name es).Pairwise (fun a b => a.1 < b.1) := by
  induction es with
  | nil => simp [alterEntries]
  | cons e es ih =>
    obtain ⟨k, n⟩ := e
    obtain ⟨hk, hrest⟩ := List.pairwise_cons.1 h
    simp only [alterEntries]
    split
    · next hlt =>
      refine List.pairwise_cons.2 ⟨fun e he => ?_, h⟩
      rcases List.mem_cons.1 he with rfl | he
      · exact hlt
      · exact String.lt_trans hlt (hk e he)
    · next hnlt =>
      split
      · exact List.pairwise_cons.2 ⟨hk, hrest⟩
      · next hne =>
        refine List.pairwise_cons.2 ⟨lt_of_mem_alterEntries ?_ hk, ih hrest⟩
        exact Decidable.byContradiction fun hnot =>
          hne (String.le_antisymm (String.not_lt.1 hnot) (String.not_lt.1 hnlt))

/-- the counts after `f` has been applied to one of them -/
def alter (c : LanguageCounts) (f : Option Int64 → Int64) (name : String) : LanguageCounts :=
  ⟨alterEntries f name c.entries, sorted_alterEntries f name c.sorted⟩

/-- one more repository in a language -/
def increment (c : LanguageCounts) (name : String) : LanguageCounts := c.alter (fun n => n.getD 0 + 1) name

/-- a count written down, replacing one under the same name -/
def insert (c : LanguageCounts) (name : String) (n : Int64) : LanguageCounts := c.alter (fun _ => n) name

/-- the counts that a list of pairs gives; of a repeated name the last pair counts -/
def ofList (pairs : List (String × Int64)) : LanguageCounts := pairs.foldl (fun c (k, n) => c.insert k n) empty

end LanguageCounts

structure Stats where
  totalRepos : Int64
  originalRepos : Int64
  forkedRepos : Int64
  totalStars : Int64
  totalForks : Int64
  languages : LanguageCounts
deriving DecidableEq, Repr

namespace Stats

/-- no repositories counted, of so many -/
def start (total : Int64) : Stats := ⟨total, 0, 0, 0, 0, .empty⟩

/-- one more repository counted -/
def count (s : Stats) (r : Repository) : Stats :=
  if r.isFork then { s with forkedRepos := s.forkedRepos + 1 }
  else
    { s with
      originalRepos := s.originalRepos + 1
      totalStars := s.totalStars + r.stars.toInt64
      totalForks := s.totalForks + r.forks.toInt64
      languages := match r.language with
        | some name => s.languages.increment name
        | none => s.languages }

/-- the statistics of a repository list -/
def ofRepositories (rs : List Repository) : Stats := rs.foldl count (start (Int64.ofNat rs.length))

end Stats

/-- statistics and when they were computed -/
structure Entry where
  stats : Stats
  updatedAt : Time.Instant
deriving DecidableEq, Repr

end AccountStats
