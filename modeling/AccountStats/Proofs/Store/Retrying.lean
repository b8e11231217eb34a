import Mathlib.Tactic
import AccountStats.Proofs.Store.Attempts
/-
How often a save is tried.

Its attempts are what lies between its pauses. Results:
- `tried_of_runs`: an attempt is followed by another just if it has lost a race and a pause is left;
- `attempts_bounded`: so there are four of them at most;
- `fourth_attempt`: and there may be four, as each of three pauses is followed by one more.
-/
namespace AccountStats.Store

open Program (Exchange Replied Runs exists_runs runs_ask runs_done)

variable {α : Type} {m : Attempt α} {pauses : List Nat} {es : List (Exchange Calls)} {s : Snapshot}
  {tries : List (List (Exchange Calls))} {r : Except DbError α}

/-! ## Attempts and pauses -/

def isPause (e : Exchange Calls) : Bool :=
  match e.request with
  | .pause _ => true
  | _ => false

/-- the attempts that exchanges are made of -/
def attempts (es : List (Exchange Calls)) : List (List (Exchange Calls)) := es.splitOnP isPause

/-- some exchanges end with the error of a transaction that could not be put in order with others -/
def LostRace (es : List (Exchange Calls)) : Prop :=
  ∃ message constraint, error? es = some (.server "40001" message constraint)

/-- attempts, each of which but the last has lost a race and had a pause left; the last has not lost one, or had none
left -/
inductive Tried (m : Attempt α) : List Nat → List (List (Exchange Calls)) → Except DbError α → Prop where
  | last {pauses : List Nat} {es : List (Exchange Calls)} {r : Except DbError α} : Runs m.run es r →
      (∀ e, r = .error e → e.isSerializationFailure = true → pauses = []) → Tried m pauses [es] r
  | again {pause : Nat} {pauses : List Nat} {es : List (Exchange Calls)} {tries : List (List (Exchange Calls))}
      {e : DbError} {r : Except DbError α} : Runs m.run es (.error e) → e.isSerializationFailure = true →
      Tried m pauses tries r → Tried m (pause :: pauses) (es :: tries) r

theorem runs_retry_last (h : Runs m.run es r) : Runs (retry m []) es r := h

theorem runs_retry_again (pause : Nat) {e : DbError} {fs : List (Exchange Calls)} (h : Runs m.run es (.error e))
    (hlost : e.isSerializationFailure = true) (hrest : Runs (retry m pauses) fs r) :
    Runs (retry m (pause :: pauses)) (es ++ ⟨.pause pause, ()⟩ :: fs) r := by
  refine h.append ?_
  dsimp only
  rw [if_pos hlost]
  exact .ask hrest

/-- **An attempt is followed by another just if it has lost a race and a pause is left.** -/
theorem tried_of_runs (hpauses : ∀ es r, Runs m.run es r → ∀ e ∈ es, isPause e = false)
    (h : Runs (retry m pauses) es r) : Tried m pauses (attempts es) r := by
  induction pauses generalizing es with
  | nil =>
    rw [attempts, List.splitOnP_eq_singleton (hpauses es r h)]
    exact .last h fun _ _ _ => rfl
  | cons pause pauses ih =>
    obtain ⟨es₁, es₂, x, rfl, hm, hrest⟩ := Runs.split (p := m.run) h
    have honce : es₂ = [] → attempts (es₁ ++ es₂) = [es₁] := by
      rintro rfl
      rw [List.append_nil, attempts, List.splitOnP_eq_singleton (hpauses es₁ x hm)]
    cases x with
    | ok a =>
      obtain ⟨rfl, rfl⟩ := runs_done.1 hrest
      rw [honce rfl]
      exact .last hm nofun
    | error e =>
      dsimp only at hrest
      split at hrest
      · next hlost =>
        obtain ⟨⟨⟩, fs, rfl, hagain⟩ := runs_ask.1 hrest
        rw [attempts, List.splitOnP_append_cons_of_forall_mem (hpauses es₁ _ hm) _ rfl]
        exact .again hm hlost (ih hagain)
      · next hwon =>
        obtain ⟨rfl, rfl⟩ := runs_done.1 hrest
        rw [honce rfl]
        refine .last hm fun e' he hlost => ?_
        cases he
        exact absurd hlost hwon

namespace Tried

theorem each (h : Tried m pauses tries r) : ∀ a ∈ tries, ∃ x, Runs m.run a x := by
  induction h with
  | last hruns _ => exact List.forall_mem_singleton.2 ⟨_, hruns⟩
  | again hruns _ _ ih => exact List.forall_mem_cons.2 ⟨⟨_, hruns⟩, ih⟩

/-- the last attempt is the one whose result counts -/
theorem exists_getLast (h : Tried m pauses tries r) : ∃ a, tries.getLast? = some a ∧ Runs m.run a r := by
  induction h with
  | last hruns _ => exact ⟨_, rfl, hruns⟩
  | again _ _ _ ih =>
    obtain ⟨a, hlast, hruns⟩ := ih
    exact ⟨a, by rw [List.getLast?_cons, hlast, Option.getD_some], hruns⟩

theorem length_pos (h : Tried m pauses tries r) : 0 < tries.length := by
  cases h <;> simp

theorem length_le (h : Tried m pauses tries r) : tries.length ≤ pauses.length + 1 := by
  induction h with
  | last _ _ => simp
  | again _ _ _ ih => simpa using ih

/-- an attempt is followed by another just if it has lost a race and a pause is left -/
theorem followed_iff (hlost : ∀ a x, Runs m.run a x →
      (LostRace a ↔ ∃ e, x = .error e ∧ e.isSerializationFailure = true)) (h : Tried m pauses tries r) :
    ∀ k a, tries[k]? = some a → (k + 1 < tries.length ↔ LostRace a ∧ k < pauses.length) := by
  induction h with
  | last hruns hstop =>
    intro k a hk
    obtain ⟨hfirst, rfl⟩ := List.getElem?_eq_some_iff.1 hk
    obtain rfl := Nat.lt_one_iff.1 hfirst
    refine iff_of_false (by simp) ?_
    rintro ⟨hrace, hleft⟩
    obtain ⟨e, he, hfailure⟩ := (hlost _ _ hruns).1 hrace
    rw [hstop e he hfailure] at hleft
    exact Nat.not_lt_zero _ hleft
  | again hruns hfailure hrest ih =>
    intro k a hk
    cases k with
    | zero =>
      obtain rfl : _ = a := Option.some.inj hk
      have hmore := hrest.length_pos
      exact iff_of_true (by simpa using hmore) ⟨(hlost _ _ hruns).2 ⟨_, rfl, hfailure⟩, by simp⟩
    | succ k => simpa using ih k a hk

end Tried

/-! ## Saving -/

/-- what a save comes to, by what its last attempt did -/
def outcome (s : Snapshot) : Except DbError Bool → Except Failure Unit
  | .ok true => .ok ()
  | .ok false => .error (Failure.newerSnapshotStored s.username (Time.Rfc3339.render s.fetchedAt))
  | .error e => .error e.toFailure

theorem runs_save {result : Except Failure Unit} :
    Runs (save s) es result ↔ ∃ r, Runs (retry (saveOnce s) Store.pauses) es r ∧ result = outcome s r := by
  have hsave : save s = (retry (saveOnce s) Store.pauses).bind fun r => .done (outcome s r) := by
    refine congrArg _ (funext fun r => ?_)
    rcases r with e | _ | _ <;> rfl
  rw [hsave]
  constructor
  · intro h
    obtain ⟨es₁, es₂, r, rfl, hretry, hdone⟩ := Runs.split h
    obtain ⟨rfl, rfl⟩ := runs_done.1 hdone
    exact ⟨r, by rwa [List.append_nil], rfl⟩
  · rintro ⟨r, hretry, rfl⟩
    simpa using hretry.append (f := fun r => .done (outcome s r)) (.done (outcome s r))

theorem noPause_of_runs {x : Except DbError Bool} (h : Runs (saveOnce s).run es x) :
    ∀ e ∈ es, isPause e = false := by
  intro e he
  have hrequest : ∀ r, e.request = r → (∀ n, r ≠ .pause n) → isPause e = false := by
    rintro r rfl hr
    unfold isPause
    split
    · next n hn => exact absurd hn (hr n)
    · rfl
  rcases (attempted_of_runs h).request he with hbegin | habandon | ⟨writing, hplanned⟩
  · exact hrequest _ hbegin nofun
  · exact hrequest _ habandon nofun
  · refine hrequest _ rfl ?_
    rintro n hn
    rw [hn] at hplanned
    cases writing <;> simp [planOf] at hplanned

theorem lostRace_iff {x : Except DbError Bool} (h : Runs (saveOnce s).run es x) :
    LostRace es ↔ ∃ e, x = .error e ∧ e.isSerializationFailure = true := by
  rw [LostRace, (attempted_of_runs h).error?_eq]
  cases x with
  | ok written => simp
  | error e => cases e <;> simp [DbError.isSerializationFailure, DbError.serializationFailure]

theorem save_tried {result : Except Failure Unit} (h : Runs (save s) es result) :
    ∃ r, Tried (saveOnce s) Store.pauses (attempts es) r ∧ result = outcome s r := by
  obtain ⟨r, hretry, rfl⟩ := runs_save.1 h
  exact ⟨r, tried_of_runs (fun es x => noPause_of_runs) hretry, rfl⟩

/-- **How often a save is tried**, whatever it is replied: as soon as an attempt has not lost a race, that is the last
one; else it is tried again, unless this was the fourth attempt. -/
theorem attempts_bounded {σ : Type} (answer : (r : Calls.Request) → σ → Calls.Reply r × σ) (s : Snapshot) (w : σ) :
    ∃ es, Runs (save s) es ((save s).run answer w).1 ∧ Replied answer w es ((save s).run answer w).2 ∧
      (∀ a ∈ attempts es, ∃ r, Attempted s a r) ∧ 1 ≤ (attempts es).length ∧ (attempts es).length ≤ 4 ∧
      ∀ k a, (attempts es)[k]? = some a → (k + 1 < (attempts es).length ↔ LostRace a ∧ k + 1 < 4) := by
  obtain ⟨es, hruns, hreplied⟩ := exists_runs answer (save s) w
  obtain ⟨r, htried, -⟩ := save_tried hruns
  refine ⟨es, hruns, hreplied, fun a ha => ?_, htried.length_pos, htried.length_le, fun k a hk => ?_⟩
  · obtain ⟨x, hx⟩ := htried.each a ha
    exact ⟨x, attempted_of_runs hx⟩
  · rw [htried.followed_iff (fun a x => lostRace_iff) k a hk]
    exact and_congr_right fun _ => Nat.succ_lt_succ_iff.symm

/-- a transaction could not be put in order with another one -/
def raceError : DbError := .server "40001" "could not serialize access due to concurrent update" none

/-- an attempt whose profile another save has written meanwhile -/
def losing (s : Snapshot) : List (Exchange Calls) :=
  [⟨.begin, .ok ()⟩, ⟨.execute .setIsolation, .ok 0⟩, ⟨.execute (profileStatement s), .error raceError⟩, ⟨.abandon, ()⟩]

theorem runs_losing (s : Snapshot) : Runs (saveOnce s).run (losing s) (.error raceError) :=
  .ask (.ask (.ask (.ask (.done _))))

/-- **After each of the three pauses there is one more attempt**: a save that loses every race is tried four times. -/
theorem fourth_attempt : ¬ ∀ s es result, Runs (save s) es result → (attempts es).length ≤ 3 := by
  intro hthree
  let s : Snapshot := .ofRepositories "ann" [] .epoch
  have hretry := runs_retry_again 20 (runs_losing s) rfl <|
    runs_retry_again 40 (runs_losing s) rfl <|
    runs_retry_again 80 (runs_losing s) rfl (runs_retry_last (runs_losing s))
  have hlength := hthree s _ _ (runs_save.2 ⟨_, hretry, rfl⟩)
  revert hlength
  decide

end AccountStats.Store
