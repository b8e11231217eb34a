import Mathlib.Tactic
import AccountStats.Account.Stats
import AccountStats.Proofs.Association
/-
What statistics depend on.

Results:
- `LanguageCounts.ext_get?`: counts are what they say of each name;
- `LanguageCounts.ofList_entries`: written out as pairs, they are collected again;
- `Stats.ofRepositories_perm`: the order of the repositories does not matter;
- `Stats.ofRepositories_map`: nor do their ids, owners and times.
-/
namespace AccountStats

namespace LanguageCounts

open Association (lookup_cons)

variable {c d : LanguageCounts} {f g : Option Int64 → Int64} {a b : String}

/-! ## The count of a name -/

/-- the count under a name -/
def get? (c : LanguageCounts) (name : String) : Option Int64 := c.entries.lookup name

theorem lookup_eq_none {es : List (String × Int64)} (h : ∀ e ∈ es, b < e.1) : es.lookup b = none := by
  rw [List.lookup_eq_none_iff]
  intro e he
  exact bne_iff_ne.2 (String.ne_of_lt (h e he))

theorem mem_iff_lookup {es : List (String × Int64)} (h : es.Pairwise (fun a b => a.1 < b.1)) {n : Int64} :
    (b, n) ∈ es ↔ es.lookup b = some n := by
  induction es with
  | nil => simp
  | cons e es ih =>
    obtain ⟨hlow, hes⟩ := List.pairwise_cons.1 h
    rw [List.mem_cons, lookup_cons, ih hes]
    split
    · next heq =>
      subst heq
      rw [lookup_eq_none hlow, Option.some_inj, Prod.mk.injEq]
      simp [eq_comm]
    · next hne =>
      refine ⟨fun hmem => hmem.resolve_left fun heq => hne (congrArg Prod.fst heq), Or.inr⟩

theorem lookup_alterEntries {es : List (String × Int64)} (h : es.Pairwise (fun a b => a.1 < b.1)) :
    (alterEntries f a es).lookup b = if b = a then some (f (es.lookup a)) else es.lookup b := by
  induction es with
  | nil => rw [alterEntries, lookup_cons]; rfl
  | cons e es ih =>
    obtain ⟨k, n⟩ := e
    obtain ⟨hlow, hes⟩ := List.pairwise_cons.1 h
    rw [alterEntries]
    split
    · next hlt =>
      have hnone : List.lookup a ((k, n) :: es) = none := lookup_eq_none
        (List.forall_mem_cons.2 ⟨hlt, fun e he => String.lt_trans hlt (hlow e he)⟩)
      rw [lookup_cons, hnone]
    · split
      · next heq =>
        subst heq
        simp only [lookup_cons, if_true]
        split <;> rfl
      · next hne =>
        simp only [lookup_cons, ih hes, if_neg hne]
        split
        · next hb => rw [if_neg fun hba => hne (hba.symm.trans hb)]
        · rfl

/-- **An altered count is altered, and no other.** -/
theorem get?_alter : (c.alter f a).get? b = if b = a then some (f (c.get? a)) else c.get? b :=
  lookup_alterEntries c.sorted

/-- **Counts are what they say of each name.** -/
theorem ext_get? (h : ∀ name, c.get? name = d.get? name) : c = d := by
  have nodup : ∀ x : LanguageCounts, x.entries.Nodup := fun x =>
    x.sorted.imp fun hlt heq => String.ne_of_lt hlt (congrArg Prod.fst heq)
  have hperm : c.entries.Perm d.entries := by
    rw [List.perm_ext_iff_of_nodup (nodup c) (nodup d)]
    rintro ⟨name, n⟩
    rw [mem_iff_lookup c.sorted, mem_iff_lookup d.sorted]
    exact Eq.congr_left (h name)
  have hentries : c.entries = d.entries :=
    hperm.eq_of_pairwise (fun _ _ _ _ hab hba => absurd hba (String.lt_asymm hab)) c.sorted d.sorted
  cases c
  cases d
  cases hentries
  rfl

/-- counts that are altered one after the other, each by its own number -/
theorem get?_foldl_alter {es : List (String × Int64)} (h : es.Pairwise (fun a b => a.1 < b.1))
    (f : Int64 → Option Int64 → Int64) : (es.foldl (fun c (k, n) => c.alter (f n) k) c).get? b =
      (es.lookup b).elim (c.get? b) fun n => some (f n (c.get? b)) := by
  induction es generalizing c with
  | nil => rfl
  | cons e es ih =>
    obtain ⟨k, n⟩ := e
    obtain ⟨hlow, hes⟩ := List.pairwise_cons.1 h
    rw [List.foldl_cons, ih hes, get?_alter, lookup_cons]
    split
    · next heq =>
      rw [heq, lookup_eq_none hlow]
      rfl
    · rfl

/-- **Written out as pairs, counts are collected again.** -/
theorem ofList_entries (c : LanguageCounts) : ofList c.entries = c := by
  refine ext_get? fun name => ?_
  have hinserted : (ofList c.entries).get? name = (c.get? name).elim none some :=
    get?_foldl_alter c.sorted fun n _ => n
  rw [hinserted]
  cases c.get? name <;> rfl

theorem alter_comm (hne : a ≠ b) : (c.alter f a).alter g b = (c.alter g b).alter f a := by
  refine ext_get? fun name => ?_
  simp only [get?_alter]
  split_ifs <;> simp_all

theorem increment_comm : (c.increment a).increment b = (c.increment b).increment a := by
  by_cases h : a = b
  · rw [h]
  · exact alter_comm h

end LanguageCounts

namespace Stats

/-! ## The order of the repositories -/

variable {rs ts : List Repository}

theorem add_swap (a b c : Int64) : a + b + c = a + c + b := by
  rw [Int64.add_assoc, Int64.add_comm b, Int64.add_assoc]

theorem count_comm (s : Stats) (r q : Repository) : (s.count r).count q = (s.count q).count r := by
  unfold count
  cases hr : r.isFork <;> cases hq : q.isFork
  · cases r.language <;> cases q.language <;>
      simp [add_swap _ r.stars.toInt64, add_swap _ r.forks.toInt64, LanguageCounts.increment_comm]
  all_goals simp

/-- **The order of the repositories does not matter.** -/
theorem ofRepositories_perm (h : rs.Perm ts) : ofRepositories rs = ofRepositories ts := by
  have : RightCommutative count := ⟨count_comm⟩
  rw [ofRepositories, ofRepositories, h.length_eq]
  exact h.foldl_eq _

theorem totalRepos_ofRepositories (rs : List Repository) : (ofRepositories rs).totalRepos = Int64.ofNat rs.length := by
  have hcount : ∀ s : Stats, (rs.foldl count s).totalRepos = s.totalRepos := by
    induction rs with
    | nil => exact fun _ => rfl
    | cons r rs ih =>
      intro s
      rw [List.foldl_cons, ih, count]
      split <;> rfl
  exact hcount _

/-- **Nor do their ids, owners and times.** -/
theorem ofRepositories_map {f : Repository → Repository}
    (h : ∀ r, (f r).language = r.language ∧ (f r).stars = r.stars ∧ (f r).isFork = r.isFork ∧ (f r).forks = r.forks) :
    ofRepositories (rs.map f) = ofRepositories rs := by
  have hcount : ∀ s r, count s (f r) = count s r := by
    intro s r
    obtain ⟨hlanguage, hstars, hfork, hforks⟩ := h r
    rw [count, count, hlanguage, hstars, hfork, hforks]
  rw [ofRepositories, ofRepositories, List.length_map, List.foldl_map]
  simp only [hcount]

end Stats

end AccountStats
