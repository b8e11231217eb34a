import Mathlib.Tactic
import AccountStats.GitHub.Fetch
import AccountStats.Sync.Lookup
import AccountStats.Proofs.Account.Stats
import AccountStats.Proofs.Store.Reading
import AccountStats.Proofs.Store.Saving
/-
Statistics of what was fetched, and of what is stored.

A synchronization computes statistics from all repositories that were listed. A save keeps the last one of each id, and
a later lookup computes from those. Results:
- `stored_stats`: what is computed from the store, and when the two are the same;
- `fetched_stats_differ`: they are not if a repository is listed on two pages.
-/
namespace AccountStats

variable {t : Store.Tables} {s x : Snapshot} {username : String}

/-! ## What is stored -/

namespace Store

open Tables

namespace Tables

/-- the repositories of an account as they are read back -/
def storedRepositories (t : Tables) (owner : String) : List Repository :=
  (t.repositoriesOf owner).map RepositoryRow.repository

/-- **What an account owns after a save** is the last listed of each id. -/
theorem repositoriesOf_saved (hs : t.Sound) (h : t.AcceptsSnapshot s) :
    ((t.saved s).repositoriesOf s.username).Perm ((lastOfEachId s.repositories).map (RepositoryRow.of s.username)) := by
  have hstored : ((t.saved s).repositoriesOf s.username).Nodup :=
    (pairwise_repositoriesOf (sound_saved hs h).keyed).imp fun {a b} (hlt : a.id < b.id) heq =>
      Int64.lt_irrefl (heq ▸ hlt)
  have hlisted : ((lastOfEachId s.repositories).map (RepositoryRow.of s.username)).Nodup := by
    refine List.Nodup.of_map RepositoryRow.id ?_
    rw [List.map_map]
    exact nodup_lastOfEachId s.repositories
  refine (List.perm_ext_iff_of_nodup hstored hlisted).2 fun row => ?_
  rw [mem_repositoriesOf, mem_saved hs h, List.mem_map]
  constructor
  · rintro ⟨⟨q, hq, rfl⟩ | ⟨⟨-, hother⟩, -⟩, howner⟩
    · exact ⟨q, mem_lastOfEachId.2 hq, rfl⟩
    · rw [howner, sameAccount_self] at hother
      cases hother
  · rintro ⟨q, hq, rfl⟩
    exact ⟨Or.inl ⟨q, mem_lastOfEachId.1 hq, rfl⟩, rfl⟩

end Tables

theorem ofRepositories_saved (hs : t.Sound) (h : t.AcceptsSnapshot s) :
    Stats.ofRepositories ((t.saved s).storedRepositories s.username) =
      Stats.ofRepositories (lastOfEachId s.repositories) := by
  rw [storedRepositories, Stats.ofRepositories_perm ((repositoriesOf_saved hs h).map RepositoryRow.repository),
    List.map_map]
  exact Stats.ofRepositories_map fun _ => ⟨rfl, rfl, rfl, rfl⟩

theorem ofNat_inj {m n : Nat} (hm : m < 2 ^ 64) (hn : n < 2 ^ 64) (h : Int64.ofNat m = Int64.ofNat n) : m = n := by
  have hbits : m % 2 ^ 64 = n % 2 ^ 64 := congrArg (fun i => i.toBitVec.toNat) h
  rwa [Nat.mod_eq_of_lt hm, Nat.mod_eq_of_lt hn] at hbits

/-- the two statistics agree just if no id is listed twice -/
theorem ofRepositories_lastOfEachId (hlength : s.repositories.length < 2 ^ 64) :
    Stats.ofRepositories (lastOfEachId s.repositories) = Stats.ofRepositories s.repositories ↔
      (s.repositories.map Repository.id).Nodup := by
  constructor
  · intro heq
    have htotal := congrArg Stats.totalRepos heq
    rw [Stats.totalRepos_ofRepositories, Stats.totalRepos_ofRepositories] at htotal
    have hshorter := length_lastOfEachId_le s.repositories
    refine length_lastOfEachId_eq.1 ?_
    exact ofNat_inj (by omega) hlength htotal
  · intro hnodup
    rw [lastOfEachId_eq_self hnodup]

/-- **What is computed from the store after a save** that is accepted: the statistics of the last listed of each id.
They are those of the listing just if it repeats no id. -/
theorem stored_stats (hs : t.Sound) (h : t.AcceptsSnapshot s) (hlength : s.repositories.length < 2 ^ 64) :
    (save s).run Database.answer ⟨t, none⟩ = (.ok (), ⟨t.saved s, none⟩) ∧
    (∀ a, Time.Instant.ofMicros? s.fetchedAt.toMicros = some a →
      (∀ r ∈ s.repositories, (RepositoryRow.of s.username r).Readable) →
      (get s.username).run Database.answer ⟨t.saved s, none⟩ =
        (.ok ⟨s.profile, (t.saved s).storedRepositories s.username, a⟩, ⟨t.saved s, none⟩)) ∧
    Stats.ofRepositories ((t.saved s).storedRepositories s.username) =
      Stats.ofRepositories (lastOfEachId s.repositories) ∧
    (Stats.ofRepositories ((t.saved s).storedRepositories s.username) = Stats.ofRepositories s.repositories ↔
      (s.repositories.map Repository.id).Nodup) := by
  refine ⟨save_accepted h, fun a ha hreadable => ?_, ofRepositories_saved hs h, ?_⟩
  · have huser : (t.saved s).user? s.username = some ⟨s.profile, s.fetchedAt.toMicros⟩ := by
      rw [user?_saved h, sameAccount_self, if_pos rfl]
    refine get_stored huser ha fun row hrow => ?_
    obtain ⟨q, hq, rfl⟩ := List.mem_map.1 ((repositoriesOf_saved hs h).mem_iff.1 hrow)
    exact hreadable q (mem_lastOfEachId.1 hq).mem
  · rw [ofRepositories_saved hs h]
    exact ofRepositories_lastOfEachId hlength

theorem accepts_empty (s : Snapshot) : Tables.empty.AcceptsSnapshot s := nofun

/-- a repository that is listed for ann -/
def annsRepository (id : Int64) (language : String) : Repository := ⟨id, "ann", none, none, some language, 5, false, 0⟩

/-- while the pages are read, the list moves on by one: the last of the first page comes up again on the second -/
def movedOn : Snapshot :=
  .ofRepositories "ann" ([annsRepository 1 "C", annsRepository 2 "Rust"] ++ [annsRepository 2 "Rust"]) .epoch

theorem stored_stats_movedOn : Tables.empty.Sound ∧ Tables.empty.AcceptsSnapshot movedOn ∧
    movedOn.repositories.length < 2 ^ 64 ∧
    (save movedOn).run Database.answer ⟨.empty, none⟩ = (.ok (), ⟨Tables.empty.saved movedOn, none⟩) ∧
    (get "ann").run Database.answer ⟨Tables.empty.saved movedOn, none⟩ =
      (.ok ⟨movedOn.profile, (Tables.empty.saved movedOn).storedRepositories "ann", .epoch⟩,
        ⟨Tables.empty.saved movedOn, none⟩) ∧
    Stats.ofRepositories ((Tables.empty.saved movedOn).storedRepositories "ann") ≠
      Stats.ofRepositories movedOn.repositories := by
  obtain ⟨hsave, hget, -, hsame⟩ := stored_stats sound_empty (accepts_empty movedOn) (by decide)
  have huntimed : ∀ r ∈ movedOn.repositories, r.pushedAt = none ∧ r.updatedAt = none := by decide
  have hreadable : ∀ r ∈ movedOn.repositories, (RepositoryRow.of "ann" r).Readable := by
    intro r hr
    obtain ⟨hpushed, hupdated⟩ := huntimed r hr
    simp [RepositoryRow.Readable, Store.Readable, RepositoryRow.of, hpushed, hupdated]
  exact ⟨sound_empty, accepts_empty movedOn, by decide, hsave, hget .epoch rfl hreadable,
    fun heq => absurd (hsame.1 heq) (by decide)⟩

end Store

/-! ## A listing of two pages -/

namespace GitHub

open Program (Exchange Runs)

variable {token : String} {tokens : List String} {page next : UInt32} {more : List Repository}
  {es : List (Exchange Calls)}

/-- one page is listed, paid for by the first credential -/
def listed (token username : String) (page : UInt32) (body : List ListedRepository) (next : Option UInt32) :
    List (Exchange Calls) :=
  [⟨.check 0, .reserved⟩, ⟨.listRepositories token username page, .ok ⟨body, .none, next⟩⟩, ⟨.record 0 .none, ()⟩]

theorem runs_fetchPages_last (body : List ListedRepository) :
    Runs (fetchPages (token :: tokens) username page) (listed token username page body none)
      (.ok (body.map ListedRepository.toRepository)) := by
  rw [fetchPages]
  exact .ask (.ask (.ask (.done _)))

theorem runs_fetchPages_next (body : List ListedRepository) (hlt : page < next)
    (h : Runs (fetchPages (token :: tokens) username next) es (.ok more)) :
    Runs (fetchPages (token :: tokens) username page) (listed token username page body (some next) ++ es)
      (.ok (body.map ListedRepository.toRepository ++ more)) := by
  rw [fetchPages]
  refine .ask (.ask (.ask ?_))
  change Runs (if page < next then _ else _) es _
  rw [if_pos hlt, ← List.append_nil es]
  exact h.append (.done _)

/-- an account is fetched, whatever its pages list -/
theorem runs_fetchAccount (hlogin : isLogin username = true) (user : User) (now : Time.Instant)
    (h : Runs (fetchPages (token :: tokens) username 1) es (.ok more)) :
    ∃ fs, Runs (fetchAccount (token :: tokens) username) fs (.ok ⟨user.toProfile, more, now⟩) := by
  refine ⟨[⟨.check 0, .reserved⟩, ⟨.getUser token username, .ok ⟨user, .none, none⟩⟩, ⟨.record 0 .none, ()⟩] ++
    (es ++ [⟨.now, now⟩]), ?_⟩
  rw [fetchAccount, if_pos hlogin]
  exact .ask (.ask (.ask (h.append (.ask (.done _)))))

def annsListed (id : Int64) (language : String) : ListedRepository :=
  ⟨id, ⟨"ann"⟩, none, none, some language, 5, false, 0⟩

/-- **A repository that is listed on two pages counts twice in the statistics of the fetch, and once in those of the
store.** -/
theorem fetched_stats_differ :
    ¬ ∀ (tokens : List String) (username : String) (es : List (Exchange Calls)) (s : Snapshot) (t : Store.Tables),
      Runs (fetchAccount tokens username) es (.ok s) → t.Sound → t.AcceptsSnapshot s →
      Stats.ofRepositories s.repositories = Stats.ofRepositories ((t.saved s).storedRepositories s.username) := by
  intro h
  obtain ⟨es, hruns⟩ := runs_fetchAccount (by decide : isLogin "ann" = true)
    ⟨"ann", none, none, none, none, 3, 0, 0⟩ .epoch
    (runs_fetchPages_next [annsListed 1 "C", annsListed 2 "Rust"] (by decide : (1 : UInt32) < 2)
      (runs_fetchPages_last [annsListed 2 "Rust"]))
  have heq := h ["tok"] "ann" es Store.movedOn .empty hruns Store.Tables.sound_empty (Store.accepts_empty _)
  rw [Store.ofRepositories_saved Store.Tables.sound_empty (Store.accepts_empty _)] at heq
  exact absurd ((Store.ofRepositories_lastOfEachId (by decide)).1 heq.symm) (by decide)

end GitHub

end AccountStats
