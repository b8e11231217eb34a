import Mathlib.Tactic
import AccountStats.Store.Save
import AccountStats.Proofs.Program.Running
/-
What an attempt to save asks of the database, whatever it is replied.

It goes through the requests of a transaction, one after another, up to the first that fails, and then gives the
transaction up. Which requests these are is a matter of the snapshot, but for one reply: where a newer snapshot is
stored, nothing else is written. Results:
- `Through.split`: what a part that goes through some requests has done before each of them;
- `attempted_of_runs`: through which requests an attempt goes, and how it ends.
-/
namespace AccountStats.Store

open Program (Exchange Runs runs_ask runs_done)

variable {α β : Type} {es : List (Exchange Calls)} {s : Snapshot}

/-! ## Exchanges with the database -/

/-- the error that a request was replied to with, if it was one -/
def failure? : Exchange Calls → Option DbError
  | ⟨.begin, .error e⟩ | ⟨.commit, .error e⟩ | ⟨.rollback, .error e⟩ | ⟨.execute _, .error e⟩
  | ⟨.query _, .error e⟩ => some e
  | _ => none

/-- the first error of some exchanges -/
def error? (es : List (Exchange Calls)) : Option DbError := es.findSome? failure?

theorem error?_cons {e : Exchange Calls} (h : failure? e = none) (es : List (Exchange Calls)) :
    error? (e :: es) = error? es := by
  rw [error?, List.findSome?_cons, h, error?]

theorem error?_append (es fs : List (Exchange Calls)) : error? (es ++ fs) = (error? es).or (error? fs) :=
  List.findSome?_append

/-- the statement that a request sends, if it sends one -/
def Ask.statement? : Ask → Option Statement
  | .execute st | .query st => some st
  | _ => none

/-- the statements sent, in their order -/
def statementsOf (es : List (Exchange Calls)) : List Statement := (es.map Exchange.request).filterMap Ask.statement?

/-- goes through some requests, one after another, up to the first that fails; with its error, if there is one -/
inductive Through : List Ask → List (Exchange Calls) → Option DbError → Prop where
  | done : Through [] [] none
  | failed {e : Exchange Calls} {rest : List Ask} {err : DbError} : failure? e = some err →
      Through (e.request :: rest) [e] (some err)
  | next {e : Exchange Calls} {rest : List Ask} {es : List (Exchange Calls)} {err? : Option DbError} :
      failure? e = none → Through rest es err? → Through (e.request :: rest) (e :: es) err?

namespace Through

variable {plan more : List Ask} {err? : Option DbError} {fs : List (Exchange Calls)}

theorem append (h : Through plan es none) (k : Through more fs err?) : Through (plan ++ more) (es ++ fs) err? := by
  generalize hnone : (none : Option DbError) = none' at h
  induction h with
  | done => exact k
  | failed _ => cases hnone
  | next he _ ih => exact .next he (ih hnone)

/-- what follows in the plan is not reached -/
theorem stop {err : DbError} (h : Through plan es (some err)) (more : List Ask) :
    Through (plan ++ more) es (some err) := by
  generalize hsome : some err = err? at h
  induction h with
  | done => cases hsome
  | failed he =>
    cases hsome
    exact .failed he
  | next he _ ih => exact .next he (ih hsome)

theorem error?_eq (h : Through plan es err?) : error? es = err? := by
  induction h with
  | done => rfl
  | failed he => simp [error?, he]
  | next he _ ih => simpa [error?, he] using ih

theorem requests_prefix (h : Through plan es err?) : es.map Exchange.request <+: plan := by
  induction h with
  | done => exact List.prefix_rfl
  | failed _ => exact List.prefix_append [_] _
  | next _ _ ih => exact List.prefix_cons_inj _ |>.2 ih

theorem requests_eq (h : Through plan es none) : es.map Exchange.request = plan := by
  generalize hnone : (none : Option DbError) = none' at h
  induction h with
  | done => rfl
  | failed _ => cases hnone
  | next _ _ ih => rw [List.map_cons, ih hnone]

theorem succeeded (h : Through plan es none) : ∀ e ∈ es, failure? e = none := by
  have hnone : es.findSome? failure? = none := h.error?_eq
  exact List.findSome?_eq_none_iff.1 hnone

/-- **All requests before one of them succeeded**, and if it failed it is the last. -/
theorem split {before after : List (Exchange Calls)} {e : Exchange Calls}
    (h : Through plan (before ++ e :: after) err?) :
    (∃ rest, plan = before.map Exchange.request ++ e.request :: rest) ∧ (∀ x ∈ before, failure? x = none) ∧
      (failure? e ≠ none → after = []) := by
  induction before generalizing plan with
  | nil =>
    cases h with
    | failed _ => exact ⟨⟨_, rfl⟩, List.forall_mem_nil _, fun _ => rfl⟩
    | next he _ => exact ⟨⟨_, rfl⟩, List.forall_mem_nil _, fun hne => absurd he hne⟩
  | cons x before ih =>
    generalize hes : x :: before ++ e :: after = es at h
    cases h with
    | done => cases hes
    | failed _ => simp at hes
    | next hx h =>
      cases hes
      obtain ⟨⟨rest, rfl⟩, hbefore, hafter⟩ := ih h
      exact ⟨⟨rest, rfl⟩, List.forall_mem_cons.2 ⟨hx, hbefore⟩, hafter⟩

end Through

/-! ## Parts of an attempt -/

theorem runs_request {r : Ask} {x : r.Reply} : Runs (ask r) es x ↔ es = [⟨r, x⟩] := by
  constructor
  · intro h
    obtain ⟨y, rest, rfl, hdone⟩ := runs_ask.1 h
    obtain ⟨rfl, rfl⟩ := runs_done.1 hdone
    rfl
  · rintro rfl
    exact .ask (.done x)

namespace Attempt

variable {m : Attempt α} {f : α → Attempt β}

/-- an attempt ends with its first error, or goes on with what its first part came to -/
theorem runs_bind {r : Except DbError β} (h : Runs (m >>= f).run es r) :
    (∃ e, Runs m.run es (.error e) ∧ r = .error e) ∨
      ∃ a es₁ es₂, Runs m.run es₁ (.ok a) ∧ Runs (f a).run es₂ r ∧ es = es₁ ++ es₂ := by
  rw [ExceptT.run_bind] at h
  obtain ⟨es₁, es₂, x, rfl, hm, hrest⟩ := Runs.split (p := m.run) h
  cases x with
  | error e =>
    obtain ⟨rfl, rfl⟩ := runs_done.1 hrest
    exact Or.inl ⟨e, by rwa [List.append_nil], rfl⟩
  | ok a => exact Or.inr ⟨a, es₁, es₂, hm, hrest, rfl⟩

/-- a part goes through these requests; if all of them succeed, its result is as described -/
def Goes (m : Attempt α) (plan : List Ask) (result : α → Prop) : Prop :=
  ∀ es r, Runs m.run es r → match r with
    | .ok a => Through plan es none ∧ result a
    | .error e => Through plan es (some e)

variable {plan more : List Ask} {result : α → Prop} {final : β → Prop}

theorem goes_execute (st : Statement) : (execute st).Goes [.execute st] fun _ => True := by
  intro es r h
  obtain rfl := runs_request.1 h
  cases r with
  | ok n => exact ⟨.next (e := ⟨.execute st, .ok n⟩) rfl .done, trivial⟩
  | error e => exact .failed (e := ⟨.execute st, .error e⟩) rfl

theorem goes_commit : commit.Goes [.commit] fun _ => True := by
  intro es r h
  obtain rfl := runs_request.1 h
  cases r with
  | ok _ => exact ⟨.next (e := ⟨.commit, .ok ()⟩) rfl .done, trivial⟩
  | error e => exact .failed (e := ⟨.commit, .error e⟩) rfl

theorem goes_rollback : rollback.Goes [.rollback] fun _ => True := by
  intro es r h
  obtain rfl := runs_request.1 h
  cases r with
  | ok _ => exact ⟨.next (e := ⟨.rollback, .ok ()⟩) rfl .done, trivial⟩
  | error e => exact .failed (e := ⟨.rollback, .error e⟩) rfl

theorem goes_pure {a : α} (h : result a) : (pure a : Attempt α).Goes [] result := by
  intro es r hruns
  obtain ⟨rfl, rfl⟩ := runs_done.1 hruns
  exact ⟨.done, h⟩

theorem Goes.bind (hm : m.Goes plan result) (hf : ∀ a, result a → (f a).Goes more final) :
    (m >>= f).Goes (plan ++ more) final := by
  intro es r h
  rcases runs_bind h with ⟨e, hfailed, rfl⟩ | ⟨a, es₁, es₂, hm₁, hf₂, rfl⟩
  · exact (hm es _ hfailed).stop more
  · obtain ⟨hfirst, hresult⟩ := hm es₁ _ hm₁
    have hsecond := hf a hresult es₂ r hf₂
    cases r with
    | ok b => exact ⟨hfirst.append hsecond.1, hsecond.2⟩
    | error e => exact hfirst.append hsecond

/-- a transaction begins, and is given up after an error in its body -/
theorem runs_transaction {body : Attempt α} {r : Except DbError α} (h : Runs (transaction body).run es r) :
    (∃ e, es = [⟨.begin, .error e⟩] ∧ r = .error e) ∨
      (∃ a work, es = ⟨.begin, .ok ()⟩ :: work ∧ Runs body.run work (.ok a) ∧ r = .ok a) ∨
      ∃ e work, es = ⟨.begin, .ok ()⟩ :: (work ++ [⟨.abandon, ()⟩]) ∧ Runs body.run work (.error e) ∧ r = .error e := by
  rcases runs_bind h with ⟨e, hfailed, rfl⟩ | ⟨⟨⟩, es₁, es₂, hbegin, hrest, rfl⟩
  · exact Or.inl ⟨e, runs_request.1 hfailed, rfl⟩
  · obtain rfl := runs_request.1 hbegin
    obtain ⟨work, last, x, rfl, hwork, hlast⟩ := Runs.split (p := body.run) hrest
    cases x with
    | ok a =>
      obtain ⟨rfl, rfl⟩ := runs_done.1 hlast
      exact Or.inr (Or.inl ⟨a, work, by simp, hwork, rfl⟩)
    | error e =>
      obtain ⟨⟨⟩, tail, rfl, hthrow⟩ := runs_ask.1 hlast
      obtain ⟨rfl, rfl⟩ := runs_done.1 hthrow
      exact Or.inr (Or.inr ⟨e, work, rfl, hwork, rfl⟩)

end Attempt

/-! ## One attempt -/

/-- the statements that bring the repositories of an account up to date -/
def repositoryStatements (owner : String) (rs : List Repository) : List Statement :=
  if rs = [] then [.deleteAll owner]
  else (chunks (chunkSize - 1) (lastOfEachId rs)).map (.upsertRepositories owner) ++
    [.prune owner ((lastOfEachId rs).map Repository.id)]

/-- the statement that writes the profile -/
def profileStatement (s : Snapshot) : Statement := .upsertProfile s.profile s.fetchedAt

/-- all statements that save a snapshot -/
def statements (s : Snapshot) : List Statement :=
  .setIsolation :: profileStatement s :: repositoryStatements s.username s.repositories

/-- the requests of a transaction once it has begun, by whether it writes the snapshot or leaves a newer one alone -/
def planOf (s : Snapshot) : Bool → List Ask
  | true => (statements s).map .execute ++ [.commit]
  | false => [.execute .setIsolation, .execute (profileStatement s), .rollback]

theorem goes_upsertAll (owner : String) (css : List (List Repository)) :
    (upsertAll owner css).Goes (css.map fun rows => .execute (.upsertRepositories owner rows)) fun _ => True := by
  induction css with
  | nil => exact Attempt.goes_pure trivial
  | cons rows css ih => exact (Attempt.goes_execute (.upsertRepositories owner rows)).bind fun _ _ => ih

theorem goes_reconcile (owner : String) (rs : List Repository) :
    (reconcile owner rs).Goes ((repositoryStatements owner rs).map .execute) fun _ => True := by
  unfold reconcile repositoryStatements
  split
  · exact (Attempt.goes_execute (.deleteAll owner)).bind fun _ _ => Attempt.goes_pure trivial
  · rw [List.map_append, List.map_map]
    exact (goes_upsertAll owner _).bind fun _ _ =>
      (Attempt.goes_execute (.prune owner _)).bind fun _ _ => Attempt.goes_pure trivial

/-- the profile was not written, as a newer one is stored -/
def Declined (s : Snapshot) (es : List (Exchange Calls)) : Prop := ⟨.execute (profileStatement s), .ok 0⟩ ∈ es

/-- how an attempt goes, and what it comes to -/
inductive Attempted (s : Snapshot) : List (Exchange Calls) → Except DbError Bool → Prop where
  | unopened (e : DbError) : Attempted s [⟨.begin, .error e⟩] (.error e)
  | ended {work : List (Exchange Calls)} {written : Bool} : Through (planOf s written) work none →
      (Declined s work ↔ written = false) → Attempted s (⟨.begin, .ok ()⟩ :: work) (.ok written)
  | failed {work : List (Exchange Calls)} {writing : Bool} {e : DbError} : Through (planOf s writing) work (some e) →
      (Declined s work ↔ writing = false) →
      Attempted s (⟨.begin, .ok ()⟩ :: (work ++ [⟨.abandon, ()⟩])) (.error e)

/-- an attempt from the profile on -/
def afterProfile (s : Snapshot) (affected : Nat) : Attempt Bool :=
  if affected = 0 then do
    Attempt.rollback
    return false
  else do
    reconcile s.username s.repositories
    Attempt.commit
    return true

theorem saveOnce_eq (s : Snapshot) : saveOnce s = Attempt.transaction (do
    let _ ← Attempt.execute .setIsolation
    afterProfile s (← Attempt.execute (profileStatement s))) := rfl

theorem goes_declining (s : Snapshot) : (afterProfile s 0).Goes [.rollback] fun written => written = false :=
  Attempt.goes_rollback.bind fun _ _ => Attempt.goes_pure rfl

theorem goes_writing {affected : Nat} (h : affected ≠ 0) :
    (afterProfile s affected).Goes ((repositoryStatements s.username s.repositories).map .execute ++ [.commit])
      fun written => written = true := by
  rw [afterProfile, if_neg h]
  exact (goes_reconcile s.username s.repositories).bind fun _ _ =>
    Attempt.goes_commit.bind fun _ _ => Attempt.goes_pure rfl

theorem profileStatement_notMem (s : Snapshot) (owner : String) (rs : List Repository) :
    profileStatement s ∉ repositoryStatements owner rs := by
  unfold repositoryStatements profileStatement
  split <;> simp

/-- after the profile has been written, that is not taken back -/
theorem not_declined {rest : List (Exchange Calls)} {err? : Option DbError}
    (h : Through ((repositoryStatements s.username s.repositories).map .execute ++ [.commit]) rest err?) :
    ¬ Declined s rest := by
  intro hmem
  have hplanned := h.requests_prefix.subset (List.mem_map_of_mem hmem)
  have hnot := profileStatement_notMem s s.username s.repositories
  simp at hplanned
  exact hnot hplanned

/-- what an attempt does once its transaction has begun -/
theorem work_of_runs {r : Except DbError Bool}
    (h : Runs (do
      let _ ← Attempt.execute .setIsolation
      afterProfile s (← Attempt.execute (profileStatement s)) : Attempt Bool).run es r) :
    ∃ writing, (Declined s es ↔ writing = false) ∧ match r with
      | .ok written => Through (planOf s writing) es none ∧ written = writing
      | .error e => Through (planOf s writing) es (some e) := by
  rcases Attempt.runs_bind h with ⟨e, hfailed, rfl⟩ | ⟨n, es₁, es₂, hisolated, hrest, rfl⟩
  · obtain rfl := runs_request.1 hfailed
    exact ⟨true, by simp [Declined, profileStatement], .failed (e := ⟨.execute .setIsolation, .error e⟩) rfl⟩
  obtain rfl := runs_request.1 hisolated
  have hisolated : failure? ⟨.execute .setIsolation, .ok n⟩ = none := rfl
  rcases Attempt.runs_bind hrest with ⟨e, hfailed, rfl⟩ | ⟨affected, es₃, es₄, hprofile, hafter, rfl⟩
  · obtain rfl := runs_request.1 hfailed
    refine ⟨true, by simp [Declined, profileStatement], .next hisolated ?_⟩
    exact .failed (e := ⟨.execute (profileStatement s), .error e⟩) rfl
  obtain rfl := runs_request.1 hprofile
  have hprofile : failure? ⟨.execute (profileStatement s), .ok affected⟩ = none := rfl
  by_cases hnone : affected = 0
  · subst hnone
    refine ⟨false, by simp [Declined], ?_⟩
    have hgoes := goes_declining s es₄ r hafter
    cases r with
    | ok written => exact ⟨.next hisolated (.next hprofile hgoes.1), hgoes.2⟩
    | error e => exact .next hisolated (.next hprofile hgoes)
  · have hgoes := goes_writing hnone es₄ r hafter
    have hdeclined : ¬ Declined s es₄ := by
      cases r with
      | ok written => exact not_declined hgoes.1
      | error e => exact not_declined hgoes
    refine ⟨true, ?_, ?_⟩
    · simpa [Declined, profileStatement, Ne.symm hnone] using hdeclined
    · cases r with
      | ok written => exact ⟨.next hisolated (.next hprofile hgoes.1), hgoes.2⟩
      | error e => exact .next hisolated (.next hprofile hgoes)

/-- **Through which requests an attempt goes, and how it ends.** -/
theorem attempted_of_runs {r : Except DbError Bool} (h : Runs (saveOnce s).run es r) : Attempted s es r := by
  rw [saveOnce_eq] at h
  rcases Attempt.runs_transaction h with ⟨e, rfl, rfl⟩ | ⟨a, work, rfl, hwork, rfl⟩ | ⟨e, work, rfl, hwork, rfl⟩
  · exact .unopened e
  · obtain ⟨writing, hdeclined, hthrough, rfl⟩ := work_of_runs hwork
    exact .ended hthrough hdeclined
  · obtain ⟨writing, hdeclined, hthrough⟩ := work_of_runs hwork
    exact .failed hthrough hdeclined

namespace Attempted

variable {r : Except DbError Bool}

theorem error?_eq (h : Attempted s es r) : error? es = match r with
    | .ok _ => none
    | .error e => some e := by
  cases h with
  | unopened e => rfl
  | ended hwork _ => exact hwork.error?_eq
  | failed hwork _ => rw [error?_cons rfl, error?_append, hwork.error?_eq, Option.some_or]

/-- the requests of an attempt -/
theorem request (h : Attempted s es r) {e : Exchange Calls} (he : e ∈ es) :
    e.request = .begin ∨ e.request = .abandon ∨ ∃ writing, e.request ∈ planOf s writing := by
  cases h with
  | unopened e =>
    obtain rfl := List.mem_singleton.1 he
    exact Or.inl rfl
  | @ended work written hwork _ =>
    rcases List.mem_cons.1 he with rfl | he
    · exact Or.inl rfl
    · exact Or.inr (Or.inr ⟨written, hwork.requests_prefix.subset (List.mem_map_of_mem he)⟩)
  | @failed work writing e hwork _ =>
    rcases List.mem_cons.1 he with rfl | he
    · exact Or.inl rfl
    rcases List.mem_append.1 he with he | he
    · exact Or.inr (Or.inr ⟨writing, hwork.requests_prefix.subset (List.mem_map_of_mem he)⟩)
    · obtain rfl := List.mem_singleton.1 he
      exact Or.inr (Or.inl rfl)

end Attempted

end AccountStats.Store
