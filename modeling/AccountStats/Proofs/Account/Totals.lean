import Mathlib.Tactic
import AccountStats.Proofs.Account.Stats
/-
Statistics in whole numbers.

The numbers in statistics are 64-bit words, counted up from one repository to the next. What is counted so far are the
whole numbers, as far as words can hold them; and in a listing of fewer than 2 ^ 32 repositories they can, on the way
and at the end, whatever the repositories say of themselves. Results:
- `tallied_foldl`: what is counted so far are the whole numbers, in words;
- `fitsWord_sumOver`: a sum over so few repositories is within the range of a word;
- `ofRepositories_append`: the statistics of two listings are added up to those of both;
- `tallies_exact`: so the statistics of a listing are those of the whole numbers, which no order can change.
-/
namespace AccountStats

/-! ## Whole numbers -/

/-- the repositories that are not forks -/
def originals (rs : List Repository) : List Repository := rs.filter fun r => !r.isFork

/-- one of their counts, added up -/
def sumOver (f : Repository → Int32) (rs : List Repository) : Int := ((originals rs).map fun r => (f r).toInt).sum

/-- their languages, once for each that has one -/
def languagesOf (rs : List Repository) : List String := (originals rs).filterMap Repository.language

/-- a whole number that a word can hold -/
def FitsWord (n : Int) : Prop := -2 ^ 63 ≤ n ∧ n < 2 ^ 63

variable {rs ts : List Repository} {r : Repository} {f : Repository → Int32}

theorem originals_append (rs ts : List Repository) : originals (rs ++ ts) = originals rs ++ originals ts :=
  List.filter_append ..

theorem originals_fork (h : r.isFork = true) : originals [r] = [] := by simp [originals, h]

theorem originals_original (h : r.isFork = false) : originals [r] = [r] := by simp [originals, h]

theorem length_originals (rs : List Repository) : (originals rs).length + rs.countP Repository.isFork = rs.length := by
  have hsplit := List.length_eq_countP_add_countP (p := Repository.isFork) (l := rs)
  rw [originals, ← List.countP_eq_length_filter]
  simp only [Bool.not_eq_true, Bool.decide_eq_false] at hsplit
  omega

theorem sumOver_append (f : Repository → Int32) (rs ts : List Repository) :
    sumOver f (rs ++ ts) = sumOver f rs + sumOver f ts := by
  simp [sumOver, originals_append]

theorem languagesOf_append (rs ts : List Repository) : languagesOf (rs ++ ts) = languagesOf rs ++ languagesOf ts := by
  simp [languagesOf, originals_append]

/-- no repository adds more than a count can say -/
theorem sumOver_bounds (f : Repository → Int32) (rs : List Repository) :
    -2 ^ 31 * rs.length ≤ sumOver f rs ∧ sumOver f rs ≤ 2 ^ 31 * rs.length := by
  induction rs with
  | nil => simp [sumOver, originals]
  | cons r rs ih =>
    have hlow := (f r).le_toInt
    have hhigh := (f r).toInt_lt
    have hone : -2 ^ 31 ≤ sumOver f [r] ∧ sumOver f [r] ≤ 2 ^ 31 := by
      cases hr : r.isFork with
      | true => simp [sumOver, originals_fork hr]
      | false =>
        simp only [sumOver, originals_original hr, List.map_cons, List.map_nil, List.sum_singleton]
        omega
    have hsum : sumOver f (r :: rs) = sumOver f [r] + sumOver f rs := sumOver_append f [r] rs
    rw [hsum, List.length_cons]
    push_cast
    omega

/-- **A sum over fewer than 2 ^ 32 repositories is within the range of a word.** -/
theorem fitsWord_sumOver (f : Repository → Int32) (h : rs.length < 2 ^ 32) : FitsWord (sumOver f rs) := by
  obtain ⟨hlow, hhigh⟩ := sumOver_bounds f rs
  constructor <;> omega

/-! ## Whole numbers in words -/

/-- how often a name is listed, in a word; nothing if it is not -/
def wordCount (names : List String) (name : String) : Option Int64 :=
  if name ∈ names then some (.ofNat (names.count name)) else none

theorem wordCount_append (names more : List String) (name : String) :
    wordCount (names ++ more) name = (wordCount names name).merge (· + ·) (wordCount more name) := by
  have hcount : (names ++ more).count name = names.count name + more.count name := List.count_append
  by_cases h : name ∈ names
  · by_cases hmore : name ∈ more
    · simp [wordCount, h, hmore, hcount, Int64.ofNat_add]
    · simp [wordCount, h, hmore, hcount, List.count_eq_zero_of_not_mem hmore]
  · by_cases hmore : name ∈ more
    · simp [wordCount, h, hmore, hcount, List.count_eq_zero_of_not_mem h]
    · simp [wordCount, h, hmore]

namespace LanguageCounts

/-- the counts of both, added up -/
def merge (c d : LanguageCounts) : LanguageCounts :=
  d.entries.foldl (fun c (name, n) => c.alter (fun m => m.getD 0 + n) name) c

theorem get?_merge (c d : LanguageCounts) (name : String) :
    (c.merge d).get? name = (c.get? name).merge (· + ·) (d.get? name) := by
  rw [merge, get?_foldl_alter d.sorted (fun n m => m.getD 0 + n), ← get?]
  cases hd : d.get? name with
  | none => simp
  | some n => cases hc : c.get? name <;> simp

end LanguageCounts

namespace Stats

/-- the numbers of both, added up -/
def add (s t : Stats) : Stats where
  totalRepos := s.totalRepos + t.totalRepos
  originalRepos := s.originalRepos + t.originalRepos
  forkedRepos := s.forkedRepos + t.forkedRepos
  totalStars := s.totalStars + t.totalStars
  totalForks := s.totalForks + t.totalForks
  languages := s.languages.merge t.languages

/-- of so many repositories these have been counted: each number is the whole one, as far as a word can hold it -/
structure Tallied (total : Nat) (ts : List Repository) (s : Stats) : Prop where
  total : s.totalRepos = .ofNat total
  original : s.originalRepos = .ofNat (originals ts).length
  forked : s.forkedRepos = .ofNat (ts.countP Repository.isFork)
  stars : s.totalStars = .ofInt (sumOver Repository.stars ts)
  forks : s.totalForks = .ofInt (sumOver Repository.forks ts)
  languages : ∀ name, s.languages.get? name = wordCount (languagesOf ts) name

variable {m n : Nat} {s t : Stats}

theorem tallied_start (n : Nat) : Tallied n [] (start (.ofNat n)) where
  total := rfl
  original := rfl
  forked := rfl
  stars := rfl
  forks := rfl
  languages _ := rfl

/-- the words say all that there is to say -/
theorem Tallied.unique (h : Tallied n ts s) (k : Tallied n ts t) : s = t := by
  have hlanguages : s.languages = t.languages :=
    LanguageCounts.ext_get? fun name => (h.languages name).trans (k.languages name).symm
  cases s
  cases t
  rw [Stats.mk.injEq]
  exact ⟨h.total.trans k.total.symm, h.original.trans k.original.symm, h.forked.trans k.forked.symm,
    h.stars.trans k.stars.symm, h.forks.trans k.forks.symm, hlanguages⟩

/-- one more repository -/
theorem Tallied.count (h : Tallied n ts s) (r : Repository) : Tallied n (ts ++ [r]) (s.count r) := by
  unfold Stats.count
  cases hr : r.isFork with
  | true =>
    have hsame : originals (ts ++ [r]) = originals ts := by
      rw [originals_append, originals_fork hr, List.append_nil]
    constructor
    · exact h.total
    · rw [hsame]
      exact h.original
    · rw [List.countP_append, List.countP_singleton, if_pos hr, Int64.ofNat_add, ← h.forked]
      rfl
    · rw [sumOver, hsame]
      exact h.stars
    · rw [sumOver, hsame]
      exact h.forks
    · rw [languagesOf, hsame]
      exact h.languages
  | false =>
    have hmore : originals (ts ++ [r]) = originals ts ++ [r] := by
      rw [originals_append, originals_original hr]
    have hsum : ∀ f : Repository → Int32, Int64.ofInt (sumOver f (ts ++ [r])) =
        .ofInt (sumOver f ts) + (f r).toInt64 := by
      intro f
      have hone : sumOver f [r] = (f r).toInt64.toInt := by simp [sumOver, originals_original hr]
      rw [sumOver_append, Int64.ofInt_add, hone, Int64.ofInt_toInt]
    constructor
    · exact h.total
    · rw [hmore, List.length_append, Int64.ofNat_add, ← h.original]
      rfl
    · rw [List.countP_append, List.countP_singleton, if_neg (Bool.eq_false_iff.1 hr), Nat.add_zero]
      exact h.forked
    · rw [hsum, ← h.stars]
      rfl
    · rw [hsum, ← h.forks]
      rfl
    · intro name
      rw [languagesOf, hmore, List.filterMap_append, ← languagesOf, wordCount_append, ← h.languages name]
      cases hlanguage : r.language with
      | none => simp [hlanguage, wordCount]
      | some l =>
        have hincrement : (s.languages.increment l).get? name =
            if name = l then some ((s.languages.get? l).getD 0 + 1) else s.languages.get? name :=
          LanguageCounts.get?_alter
        by_cases hname : name = l
        · subst hname
          simp only [Bool.false_eq_true, if_false, hincrement, if_true]
          cases s.languages.get? name <;> simp [hlanguage, wordCount]
        · simp [hincrement, hlanguage, wordCount, hname]

/-- **What is counted so far are the whole numbers, in words.** -/
theorem tallied_foldl (n : Nat) (ts : List Repository) : Tallied n ts (ts.foldl Stats.count (start (.ofNat n))) := by
  induction ts using List.reverseRecOn with
  | nil => exact tallied_start n
  | append_singleton ts r ih =>
    rw [List.foldl_concat]
    exact ih.count r

theorem tallied_ofRepositories (rs : List Repository) : Tallied rs.length rs (ofRepositories rs) :=
  tallied_foldl rs.length rs

theorem Tallied.add (h : Tallied m rs s) (k : Tallied n ts t) : Tallied (m + n) (rs ++ ts) (s.add t) where
  total := by
    rw [Int64.ofNat_add, ← h.total, ← k.total]
    rfl
  original := by
    rw [originals_append, List.length_append, Int64.ofNat_add, ← h.original, ← k.original]
    rfl
  forked := by
    rw [List.countP_append, Int64.ofNat_add, ← h.forked, ← k.forked]
    rfl
  stars := by
    rw [sumOver_append, Int64.ofInt_add, ← h.stars, ← k.stars]
    rfl
  forks := by
    rw [sumOver_append, Int64.ofInt_add, ← h.forks, ← k.forks]
    rfl
  languages name := by
    rw [languagesOf_append, wordCount_append, ← h.languages, ← k.languages]
    exact LanguageCounts.get?_merge ..

/-- **The statistics of two listings are added up to those of both.** -/
theorem ofRepositories_append (rs ts : List Repository) :
    ofRepositories (rs ++ ts) = (ofRepositories rs).add (ofRepositories ts) := by
  have hboth := tallied_ofRepositories (rs ++ ts)
  rw [List.length_append] at hboth
  exact hboth.unique ((tallied_ofRepositories rs).add (tallied_ofRepositories ts))

/-! ## No word overflows -/

/-- these repositories have been counted, in whole numbers -/
structure Counted (ts : List Repository) (s : Stats) : Prop where
  original : s.originalRepos.toInt = (originals ts).length
  forked : s.forkedRepos.toInt = ts.countP Repository.isFork
  stars : s.totalStars.toInt = sumOver Repository.stars ts
  forks : s.totalForks.toInt = sumOver Repository.forks ts
  /-- a language is there just if a repository that is no fork has it, with the number of those that do -/
  languages : ∀ name n, (name, n) ∈ s.languages.entries ↔
    name ∈ languagesOf ts ∧ n.toInt = (languagesOf ts).count name
  inOrder : s.languages.entries.Pairwise fun a b => a.1 < b.1

/-- these are the statistics of a listing, in whole numbers -/
structure Exact (rs : List Repository) (s : Stats) : Prop extends Counted rs s where
  total : s.totalRepos.toInt = rs.length
  addsUp : s.totalRepos.toInt = s.originalRepos.toInt + s.forkedRepos.toInt
  languageSum : (s.languages.entries.map fun e => e.2.toInt).sum = (originals rs).countP (·.language.isSome)

theorem toInt_ofNat {k : Nat} (h : k ≤ n) (hn : n < 2 ^ 32) : (Int64.ofNat k).toInt = k :=
  Int64.toInt_ofNat_of_lt (by omega)

theorem length_languagesOf (rs : List Repository) :
    (languagesOf rs).length = (originals rs).countP (·.language.isSome) :=
  List.length_filterMap_eq_countP

theorem count_languagesOf_le (ts : List Repository) (name : String) : (languagesOf ts).count name ≤ ts.length := by
  calc (languagesOf ts).count name ≤ (languagesOf ts).length := List.count_le_length
    _ ≤ (originals ts).length := List.length_filterMap_le ..
    _ ≤ ts.length := List.length_filter_le ..

theorem Tallied.mem_entries (h : Tallied n ts s) (name : String) (k : Int64) :
    (name, k) ∈ s.languages.entries ↔ name ∈ languagesOf ts ∧ k = .ofNat ((languagesOf ts).count name) := by
  have hlookup : s.languages.entries.lookup name = wordCount (languagesOf ts) name := h.languages name
  rw [LanguageCounts.mem_iff_lookup s.languages.sorted, hlookup, wordCount]
  split
  · next hmem => simp [hmem, eq_comm]
  · next hnot => simp [hnot]

theorem Tallied.perm_names (h : Tallied n ts s) :
    (s.languages.entries.map Prod.fst).Perm (languagesOf ts).dedup := by
  have hnodup : (s.languages.entries.map Prod.fst).Nodup :=
    List.pairwise_map.2 (s.languages.sorted.imp String.ne_of_lt)
  rw [List.perm_ext_iff_of_nodup hnodup (List.nodup_dedup _)]
  intro name
  rw [List.mem_dedup, List.mem_map]
  constructor
  · rintro ⟨⟨_, k⟩, he, rfl⟩
    exact ((h.mem_entries _ k).1 he).1
  · intro hname
    exact ⟨_, (h.mem_entries name _).2 ⟨hname, rfl⟩, rfl⟩

/-- **No number of so few repositories is out of the range of its word.** -/
theorem Tallied.counted (h : Tallied n ts s) (hts : ts.length < 2 ^ 32) : Counted ts s where
  original := by
    rw [h.original]
    exact toInt_ofNat (List.length_filter_le ..) hts
  forked := by
    rw [h.forked]
    exact toInt_ofNat List.countP_le_length hts
  stars := by
    obtain ⟨hlow, hhigh⟩ := fitsWord_sumOver Repository.stars hts
    rw [h.stars, Int64.toInt_ofInt_of_le hlow hhigh]
  forks := by
    obtain ⟨hlow, hhigh⟩ := fitsWord_sumOver Repository.forks hts
    rw [h.forks, Int64.toInt_ofInt_of_le hlow hhigh]
  languages name k := by
    have hword : (Int64.ofNat ((languagesOf ts).count name)).toInt = (languagesOf ts).count name :=
      toInt_ofNat (count_languagesOf_le ts name) hts
    rw [h.mem_entries, ← hword, Int64.toInt_inj]
  inOrder := s.languages.sorted

/-- the counts of all languages make the number of repositories that have one -/
theorem Tallied.languageSum (h : Tallied n ts s) (hts : ts.length < 2 ^ 32) :
    (s.languages.entries.map fun e => e.2.toInt).sum = (languagesOf ts).length := by
  have hvalues : s.languages.entries.map (fun e => e.2.toInt) =
      (s.languages.entries.map Prod.fst).map fun name => ((languagesOf ts).count name : Int) := by
    rw [List.map_map]
    apply List.map_congr_left
    intro e he
    exact (((h.counted hts).languages e.1 e.2).1 he).2
  calc (s.languages.entries.map fun e => e.2.toInt).sum
      = ((s.languages.entries.map Prod.fst).map fun name => ((languagesOf ts).count name : Int)).sum := by rw [hvalues]
    _ = ((languagesOf ts).dedup.map fun name => ((languagesOf ts).count name : Int)).sum :=
      (h.perm_names.map _).sum_eq
    _ = (((languagesOf ts).dedup.map fun name => (languagesOf ts).count name).sum : Nat) := by
      simp [Function.comp_def]
    _ = (languagesOf ts).length := by rw [List.sum_map_count_dedup_eq_length]

theorem exact_ofRepositories (h : rs.length < 2 ^ 32) : Exact rs (ofRepositories rs) := by
  have htallied := tallied_ofRepositories rs
  have hcounted := htallied.counted h
  have htotal : (ofRepositories rs).totalRepos.toInt = rs.length := by
    rw [htallied.total]
    exact toInt_ofNat le_rfl h
  refine { hcounted with total := htotal, addsUp := ?_, languageSum := ?_ }
  · rw [htotal, hcounted.original, hcounted.forked]
    exact_mod_cast (length_originals rs).symm
  · rw [htallied.languageSum h, length_languagesOf]

/-- the statistics of a listing are those of the whole numbers -/
structure Whole (rs : List Repository) : Prop where
  exact : Exact rs (ofRepositories rs)
  /-- and so they are on the way, where no sum leaves the range of a word -/
  onTheWay : ∀ ts, ts <+: rs → Counted ts (ts.foldl Stats.count (start (.ofNat rs.length))) ∧
    FitsWord (sumOver Repository.stars ts) ∧ FitsWord (sumOver Repository.forks ts)
  /-- in any order -/
  anyOrder : ∀ ts, ts.Perm rs → ofRepositories ts = ofRepositories rs
  /-- and of its parts -/
  parts : ∀ before after, rs = before ++ after →
    ofRepositories rs = (ofRepositories before).add (ofRepositories after)

/-- **The statistics of fewer than 2 ^ 32 repositories are those of the whole numbers**, whatever the repositories say
of themselves. -/
theorem tallies_exact (h : rs.length < 2 ^ 32) : Whole rs where
  exact := exact_ofRepositories h
  onTheWay ts hprefix := by
    have hts : ts.length < 2 ^ 32 := hprefix.length_le.trans_lt h
    exact ⟨(tallied_foldl rs.length ts).counted hts, fitsWord_sumOver _ hts, fitsWord_sumOver _ hts⟩
  anyOrder _ := ofRepositories_perm
  parts before after hsplit := by
    rw [hsplit]
    exact ofRepositories_append before after

/-- repositories that say the most and the least that they can, and a fork of which nothing counts -/
def extremes : List Repository := [
  ⟨1, "ann", none, none, some "Rust", .minValue, false, .maxValue⟩, ⟨2, "ann", none, none, some "C", 100, true, 40⟩,
  ⟨3, "ann", none, none, some "Go", .minValue, false, .maxValue⟩, ⟨4, "ann", none, none, none, -1, false, 0⟩,
  ⟨5, "ann", none, none, some "Rust", 0, false, 7⟩]

theorem tallies_exact_extremes : extremes.length < 2 ^ 32 ∧ Whole extremes ∧
    (ofRepositories extremes).totalStars = -4294967297 ∧
    (ofRepositories extremes).languages.entries = [("Go", 1), ("Rust", 2)] :=
  ⟨by decide, tallies_exact (by decide), by decide, by decide⟩

end Stats

end AccountStats
