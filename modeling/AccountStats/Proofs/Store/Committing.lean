import Mathlib.Tactic
import AccountStats.Proofs.Store.Retrying
/-
That a save says what was committed, whatever it is replied.

Each attempt has its own transaction, and it is committed only when all else has succeeded. Results:
- `Attempted.transacted`: an attempt sends its statements in order, stops at the first failure, and commits at its end;
- `Attempted.commits`: it has its commit acknowledged just if it says that it has written the snapshot;
- `save_faithful`: so a save that succeeds has committed once, and one that fails has not; why it failed is up to its
  last attempt.
-/
namespace AccountStats.Store

open Program (Exchange Replied Runs exists_runs)

variable {s : Snapshot} {es work : List (Exchange Calls)} {r : Except DbError Bool}

/-! ## The requests of a transaction -/

theorem commit_notMem_statements (s : Snapshot) : Ask.commit ∉ (statements s).map Ask.execute := by
  simp

theorem commit_notMem_planOf (s : Snapshot) : Ask.commit ∉ planOf s false := by
  simp [planOf]

theorem begin_notMem_planOf (s : Snapshot) (writing : Bool) : Ask.begin ∉ planOf s writing := by
  cases writing <;> simp [planOf]

theorem statements_planOf (s : Snapshot) (writing : Bool) :
    (planOf s writing).filterMap Ask.statement? <+: statements s := by
  cases writing with
  | true =>
    have hall : (planOf s true).filterMap Ask.statement? = statements s ++ [] := by
      rw [planOf, List.filterMap_append, List.filterMap_map]
      exact congrArg (· ++ []) List.filterMap_some
    rw [hall, List.append_nil]
  | false => exact List.prefix_append [.setIsolation, profileStatement s] _

namespace Through

variable {plan : List Ask} {last : Ask}

/-- where something failed, the last request of the plan was not reached or failed itself -/
theorem last_failed {e : DbError} (h : Through (plan ++ [last]) es (some e)) (hlast : last ∉ plan) :
    ∀ x ∈ es, x.request = last → failure? x ≠ none := by
  induction plan generalizing es with
  | nil =>
    cases h with
    | failed hfailed => simp [hfailed]
    | next _ hrest => cases hrest
  | cons first plan ih =>
    simp only [List.mem_cons, not_or] at hlast
    cases h with
    | failed hfailed => simp [hfailed]
    | next _ hrest => exact List.forall_mem_cons.2 ⟨fun heq => absurd heq.symm hlast.1, ih hrest hlast.2⟩

/-- where nothing failed, all of the plan was done -/
theorem last_done (h : Through (plan ++ [last]) es none) : ∃ before x, es = before ++ [x] ∧
    before.map Exchange.request = plan ∧ x.request = last ∧ failure? x = none := by
  obtain ⟨before, after, rfl, hbefore, hafter⟩ := List.map_eq_append_iff.1 h.requests_eq
  obtain ⟨x, rfl, hx⟩ := List.map_eq_singleton_iff.1 hafter
  exact ⟨before, x, rfl, hbefore, hx, h.succeeded x (by simp)⟩

/-- what was done before the last request of a plan is all of the rest -/
theorem before_last {err? : Option DbError} {before after : List (Exchange Calls)} {e : Exchange Calls}
    (h : Through (plan ++ [last]) (before ++ e :: after) err?) (hlast : last ∉ plan) (he : e.request = last) :
    before.map Exchange.request = plan ∧ ∀ x ∈ before, failure? x = none := by
  obtain ⟨⟨rest, hplan⟩, hbefore, -⟩ := h.split
  have hprefix : before.map Exchange.request ++ [last] <+: plan ++ [last] := ⟨rest, by simp [hplan, he]⟩
  refine ⟨?_, hbefore⟩
  rcases List.prefix_concat_iff.1 hprefix with hall | hpart
  · exact List.append_cancel_right hall
  · exact absurd (hpart.subset (by simp)) hlast

end Through

/-! ## Each attempt -/

/-- a transaction of its own: it sends the statements in order up to the first failure, after which it is given up, and
commits when all of them have succeeded -/
structure Transacted (s : Snapshot) (a : List (Exchange Calls)) : Prop where
  opened : ∃ x rest, a = ⟨.begin, x⟩ :: rest ∧ ∀ e ∈ rest, e.request ≠ .begin
  same : statementsOf a <+: statements s
  stopped : ∀ before e after, a = before ++ e :: after → failure? e ≠ none →
    after = if e.request = .begin then [] else [⟨.abandon, ()⟩]
  whole : ∀ before e after, a = before ++ e :: after → e.request = .commit →
    statementsOf before = statements s ∧ ∀ x ∈ before, failure? x = none

/-- an attempt that has not begun, or whose work is given up if it has failed -/
theorem Attempted.worked (h : Attempted s es r) : (∃ e, es = [⟨.begin, .error e⟩]) ∨
    ∃ writing work err?, Through (planOf s writing) work err? ∧ (Declined s work ↔ writing = false) ∧
      es = ⟨.begin, .ok ()⟩ :: (work ++ if err? = none then [] else [⟨.abandon, ()⟩]) := by
  cases h with
  | unopened e => exact Or.inl ⟨e, rfl⟩
  | @ended work written hwork hdeclined => exact Or.inr ⟨written, work, none, hwork, hdeclined, by simp⟩
  | @failed work writing e hwork hdeclined => exact Or.inr ⟨writing, work, some e, hwork, hdeclined, by simp⟩

/-- an exchange of an attempt that does not begin it or give it up is part of its work -/
theorem split_work {before after tail : List (Exchange Calls)} {e : Exchange Calls}
    (h : ⟨.begin, .ok ()⟩ :: (work ++ tail) = before ++ e :: after) (hbegin : e ≠ ⟨.begin, .ok ()⟩) (htail : e ∉ tail) :
    ∃ before' after',
      before = ⟨.begin, .ok ()⟩ :: before' ∧ work = before' ++ e :: after' ∧ after = after' ++ tail := by
  cases before with
  | nil =>
    cases h
    exact absurd rfl hbegin
  | cons first before =>
    obtain ⟨rfl, hrest⟩ := List.cons.inj h
    rcases List.append_eq_append_iff.1 hrest with ⟨as, rfl, rfl⟩ | ⟨bs, rfl, hbs⟩
    · simp at htail
    · cases bs with
      | nil =>
        rw [List.nil_append] at hbs
        simp [← hbs] at htail
      | cons _ bs =>
        obtain ⟨rfl, rfl⟩ := List.cons.inj hbs
        exact ⟨before, bs, rfl, rfl, rfl⟩

theorem statementsOf_work (err? : Option DbError) :
    statementsOf (⟨.begin, .ok ()⟩ :: (work ++ if err? = none then [] else [⟨.abandon, ()⟩])) = statementsOf work := by
  have htail : statementsOf (if err? = none then [] else [⟨.abandon, ()⟩]) = [] := by
    split <;> rfl
  have happend : statementsOf (work ++ if err? = none then [] else [⟨.abandon, ()⟩]) = statementsOf work := by
    rw [statementsOf, List.map_append, List.filterMap_append]
    exact (congrArg (statementsOf work ++ ·) htail).trans (List.append_nil _)
  exact happend

theorem transacted_unopened (e : DbError) : Transacted s [⟨.begin, .error e⟩] where
  opened := ⟨.error e, [], rfl, List.forall_mem_nil _⟩
  same := List.nil_prefix
  stopped before x after h _ := by
    obtain ⟨-, hx⟩ | ⟨-, hx⟩ := List.append_eq_singleton_iff.1 h.symm
    · obtain ⟨rfl, rfl⟩ := List.cons.inj hx
      exact (if_pos rfl).symm
    · cases hx
  whole before x after h hcommit := by
    have hx : x ∈ [(⟨.begin, .error e⟩ : Exchange Calls)] := by simp [h]
    obtain rfl := List.mem_singleton.1 hx
    cases hcommit

theorem transacted_work {writing : Bool} {err? : Option DbError} (h : Through (planOf s writing) work err?) :
    Transacted s (⟨.begin, .ok ()⟩ :: (work ++ if err? = none then [] else [⟨.abandon, ()⟩])) := by
  have htail : ∀ {x : Exchange Calls}, x ∈ (if err? = none then [] else [⟨.abandon, ()⟩]) → x = ⟨.abandon, ()⟩ := by
    intro x hx
    split at hx
    · cases hx
    · exact List.mem_singleton.1 hx
  refine ⟨⟨_, _, rfl, ?_⟩, ?_, ?_, ?_⟩
  · intro e he hbegin
    rcases List.mem_append.1 he with he | he
    · exact begin_notMem_planOf s writing (hbegin ▸ h.requests_prefix.subset (List.mem_map_of_mem he))
    · rw [htail he] at hbegin
      cases hbegin
  · rw [statementsOf_work]
    exact (h.requests_prefix.filterMap _).trans (statements_planOf s writing)
  · intro before e after hsplit hfailed
    obtain ⟨before, rest, rfl, rfl, rfl⟩ := split_work hsplit (fun he => hfailed (he ▸ rfl))
      (fun he => hfailed (htail he ▸ rfl))
    obtain ⟨⟨more, hplan⟩, hbefore, hlast⟩ := h.split
    obtain rfl := hlast hfailed
    have hbegin : e.request ≠ .begin := fun hbegin => begin_notMem_planOf s writing (by simp [hplan, hbegin])
    have herr : err? ≠ none := by
      rintro rfl
      exact hfailed (h.succeeded e (by simp))
    rw [if_neg hbegin, if_neg herr, List.nil_append]
  · intro before e after hsplit hcommit
    obtain ⟨before, rest, rfl, rfl, rfl⟩ := split_work hsplit (fun he => by cases he ▸ hcommit)
      (fun he => by cases htail he ▸ hcommit)
    cases writing with
    | false =>
      obtain ⟨⟨more, hplan⟩, -, -⟩ := h.split
      exact absurd (by simp [hplan, hcommit]) (commit_notMem_planOf s)
    | true =>
      obtain ⟨hall, hbefore⟩ := h.before_last (commit_notMem_statements s) hcommit
      refine ⟨?_, List.forall_mem_cons.2 ⟨rfl, hbefore⟩⟩
      rw [statementsOf, List.map_cons, hall, List.filterMap_cons, List.filterMap_map]
      exact List.filterMap_some

/-- **Each attempt is a transaction of its own.** -/
theorem Attempted.transacted (h : Attempted s es r) : Transacted s es := by
  rcases h.worked with ⟨e, rfl⟩ | ⟨writing, work, err?, hwork, -, rfl⟩
  · exact transacted_unopened e
  · exact transacted_work hwork

/-! ## What is committed -/

/-- a commit that was acknowledged -/
def isCommitted : Exchange Calls → Bool
  | ⟨.commit, .ok _⟩ => true
  | _ => false

theorem isCommitted_of {e : Exchange Calls} (hcommit : e.request = .commit) (hok : failure? e = none) :
    isCommitted e = true := by
  obtain ⟨request, reply⟩ := e
  obtain rfl : request = .commit := hcommit
  cases reply with
  | ok _ => rfl
  | error _ => cases hok

theorem isCommitted_iff {e : Exchange Calls} : isCommitted e = true ↔ e = ⟨.commit, .ok ()⟩ := by
  constructor
  · intro h
    unfold isCommitted at h
    split at h
    · rfl
    · cases h
  · rintro rfl
    rfl

theorem countP_isCommitted_eq_zero (h : ∀ e ∈ es, e.request = .commit → failure? e ≠ none) :
    es.countP isCommitted = 0 := by
  refine List.countP_eq_zero.2 fun e he hcommitted => ?_
  obtain rfl := isCommitted_iff.1 hcommitted
  exact h _ he rfl rfl

/-- how often an attempt that comes to this has committed -/
def commits : Except DbError Bool → Nat
  | .ok true => 1
  | _ => 0

/-- **An attempt has its commit acknowledged just if it says that it has written the snapshot.** -/
theorem Attempted.commits (h : Attempted s es r) : es.countP isCommitted = commits r := by
  cases h with
  | unopened e => rfl
  | @ended work written hwork _ =>
    cases written with
    | true =>
      obtain ⟨before, x, rfl, hbefore, hx, hok⟩ := hwork.last_done
      have hnone : before.countP isCommitted = 0 := countP_isCommitted_eq_zero fun e he hcommit =>
        absurd (hbefore ▸ hcommit ▸ List.mem_map_of_mem he) (commit_notMem_statements s)
      rw [List.countP_cons_of_neg (by simp [isCommitted]), List.countP_append, hnone, List.countP_singleton,
        if_pos (isCommitted_of hx hok)]
      rfl
    | false =>
      refine countP_isCommitted_eq_zero (List.forall_mem_cons.2 ⟨nofun, fun e he hcommit => ?_⟩)
      exact absurd (hcommit ▸ hwork.requests_prefix.subset (List.mem_map_of_mem he)) (commit_notMem_planOf s)
  | @failed work writing e hwork _ =>
    refine countP_isCommitted_eq_zero (List.forall_mem_cons.2 ⟨nofun, List.forall_mem_append.2 ⟨?_, by simp⟩⟩)
    cases writing with
    | true => exact hwork.last_failed (commit_notMem_statements s)
    | false =>
      exact fun e he hcommit =>
        absurd (hcommit ▸ hwork.requests_prefix.subset (List.mem_map_of_mem he)) (commit_notMem_planOf s)

theorem Attempted.committed_iff (h : Attempted s es r) : ⟨.commit, .ok ()⟩ ∈ es ↔ r = .ok true := by
  have hpos : ⟨.commit, .ok ()⟩ ∈ es ↔ 0 < es.countP isCommitted := by
    rw [List.countP_pos_iff]
    constructor
    · intro hmem
      exact ⟨_, hmem, rfl⟩
    · rintro ⟨e, hmem, he⟩
      exact isCommitted_iff.1 he ▸ hmem
  rw [hpos, h.commits]
  rcases r with e | _ | _ <;> simp [Store.commits]

theorem countP_splitOnP {α : Type} {p q : α → Bool} (h : ∀ a, p a = true → q a = false) (as : List α) :
    ((as.splitOnP p).map (List.countP q)).sum = as.countP q := by
  induction as with
  | nil => rfl
  | cons a as ih =>
    rw [List.splitOnP_cons_eq_if_modifyHead]
    by_cases ha : p a = true
    · rw [if_pos ha, List.map_cons, List.sum_cons, ih, List.countP_cons_of_neg (by simp [h a ha]), List.countP_nil,
        Nat.zero_add]
    · rw [if_neg ha]
      obtain ⟨first, rest, hsplit⟩ := List.exists_cons_of_ne_nil (List.splitOnP_ne_nil p as)
      rw [hsplit, List.map_cons, List.sum_cons] at ih
      rw [hsplit, List.modifyHead_cons, List.map_cons, List.sum_cons, List.countP_cons, List.countP_cons]
      omega

/-- the attempts together have committed just if the last one says so -/
theorem Tried.commits {pauses : List Nat} {tries : List (List (Exchange Calls))}
    (h : Tried (saveOnce s) pauses tries r) : (tries.map (List.countP isCommitted)).sum = Store.commits r := by
  induction h with
  | last hruns _ =>
    rw [List.map_singleton, List.sum_singleton]
    exact (attempted_of_runs hruns).commits
  | again hruns _ _ ih =>
    rw [List.map_cons, List.sum_cons, (attempted_of_runs hruns).commits, ih]
    exact Nat.zero_add _

/-! ## What is said of it -/

theorem declined_work (err? : Option DbError) :
    Declined s (⟨.begin, .ok ()⟩ :: (work ++ if err? = none then [] else [⟨.abandon, ()⟩])) ↔ Declined s work := by
  unfold Declined
  split <;> simp

/-- an attempt has left a newer snapshot alone just if it says so -/
theorem Attempted.declined_iff (h : Attempted s es r) :
    (Declined s es ∧ ⟨.rollback, .ok ()⟩ ∈ es) ↔ r = .ok false := by
  have hnot : Ask.rollback ∉ [Ask.execute .setIsolation, .execute (profileStatement s)] := by simp
  cases h with
  | unopened e => simp [Declined]
  | @ended work written hwork hdeclined =>
    have hmem : Declined s (⟨.begin, .ok ()⟩ :: work) ↔ written = false := by
      rw [← hdeclined]
      simp [Declined]
    rw [hmem, Except.ok.injEq, and_iff_left_iff_imp]
    rintro rfl
    have hplan : Through ([.execute .setIsolation, .execute (profileStatement s)] ++ [.rollback]) work none := hwork
    obtain ⟨before, ⟨request, reply⟩, rfl, -, hlast, hok⟩ := hplan.last_done
    obtain rfl : request = .rollback := hlast
    cases reply with
    | ok _ => simp
    | error e => cases hok
  | @failed work writing e hwork hdeclined =>
    refine iff_of_false ?_ (by simp)
    rintro ⟨hmem, hrolled⟩
    obtain rfl := hdeclined.1 (by simpa [Declined] using hmem)
    have hrolled : ⟨.rollback, .ok ()⟩ ∈ work := by simpa using hrolled
    exact hwork.last_failed hnot _ hrolled rfl rfl

/-- once the profile is declined no repository is sent -/
theorem Attempted.declined (h : Attempted s es r) (hdeclined : Declined s es) :
    statementsOf es = [.setIsolation, profileStatement s] := by
  rcases h.worked with ⟨e, rfl⟩ | ⟨writing, work, err?, hwork, hwriting, rfl⟩
  · simp [Declined] at hdeclined
  rw [declined_work] at hdeclined
  obtain rfl := hwriting.1 hdeclined
  rw [statementsOf_work]
  have hprefix : statementsOf work <+: [.setIsolation] ++ [profileStatement s] := hwork.requests_prefix.filterMap _
  have hmem : profileStatement s ∈ statementsOf work :=
    List.mem_filterMap.2 ⟨_, List.mem_map_of_mem hdeclined, rfl⟩
  rcases List.prefix_concat_iff.1 hprefix with hall | hpart
  · exact hall
  · exact absurd (hpart.subset hmem) (by simp [profileStatement])

/-- the failure for an error of the database: a conflict if a uniqueness constraint refused a row, nothing found if a
row is missing, and internal else -/
structure Told (e : DbError) (f : Failure) : Prop where
  conflict : f.kind = .conflict ↔ ∃ message constraint, e = .server "23505" message constraint
  nothingFound : f.kind = .nothingFound ↔ e = .rowNotFound
  else_internal : f.kind ∈ [Failure.Kind.conflict, .nothingFound, .internal]

theorem DbError.told (e : DbError) : Told e e.toFailure := by
  cases e with
  | server code message constraint =>
    by_cases hcode : code = "23505" <;> constructor <;> simp [DbError.toFailure, DbError.uniqueViolation, hcode]
  | _ => constructor <;> simp [DbError.toFailure]

/-- what a save says by its last attempt -/
structure Concluded (s : Snapshot) (a : List (Exchange Calls)) (result : Except Failure Unit) : Prop where
  succeeded : result = .ok () ↔ ⟨.commit, .ok ()⟩ ∈ a
  changedNothing : (∃ f, result = .error f ∧ f.kind = .nothingChanged) ↔ Declined s a ∧ ⟨.rollback, .ok ()⟩ ∈ a
  declined : Declined s a → statementsOf a = [.setIsolation, profileStatement s]
  failed : ∀ f, result = .error f → f.kind ≠ .nothingChanged →
    ∃ e, error? a = some e ∧ f = e.toFailure ∧ Told e f

theorem Attempted.concluded (h : Attempted s es r) : Concluded s es (outcome s r) where
  succeeded := by
    rw [h.committed_iff]
    rcases r with e | _ | _ <;> simp [outcome]
  changedNothing := by
    rw [h.declined_iff]
    rcases r with e | _ | _
    · have hkind := e.told.else_internal
      refine iff_of_false ?_ nofun
      rintro ⟨f, hf, hnothing⟩
      obtain rfl : e.toFailure = f := Except.error.inj hf
      simp [hnothing] at hkind
    · exact iff_of_true ⟨_, rfl, rfl⟩ rfl
    · simp [outcome]
  declined := h.declined
  failed f hf hkind := by
    rcases r with e | _ | _
    · obtain rfl : e.toFailure = f := Except.error.inj hf
      exact ⟨e, h.error?_eq, rfl, e.told⟩
    · obtain rfl : Failure.newerSnapshotStored _ _ = f := Except.error.inj hf
      exact absurd rfl hkind
    · cases hf

/-- what a save says is what was committed: each attempt is a transaction of its own, the last one decides what is said,
and one commit is acknowledged if the save has succeeded, none else -/
structure Faithful (s : Snapshot) (es : List (Exchange Calls)) (result : Except Failure Unit) : Prop where
  each : ∀ a ∈ attempts es, Transacted s a
  last : ∃ a, (attempts es).getLast? = some a ∧ Concluded s a result
  committed : es.countP isCommitted = match result with
    | .ok () => 1
    | .error _ => 0

/-- **A save says what was committed**, whatever it is replied. -/
theorem save_faithful {σ : Type} (answer : (r : Calls.Request) → σ → Calls.Reply r × σ) (s : Snapshot) (w : σ) :
    ∃ es, Runs (save s) es ((save s).run answer w).1 ∧ Replied answer w es ((save s).run answer w).2 ∧
      Faithful s es ((save s).run answer w).1 := by
  obtain ⟨es, hruns, hreplied⟩ := exists_runs answer (save s) w
  refine ⟨es, hruns, hreplied, ?_⟩
  obtain ⟨r, htried, hresult⟩ := save_tried hruns
  rw [hresult]
  obtain ⟨a, hlast, ha⟩ := htried.exists_getLast
  refine ⟨fun a ha => ?_, ⟨a, hlast, (attempted_of_runs ha).concluded⟩, ?_⟩
  · obtain ⟨x, hx⟩ := htried.each a ha
    exact (attempted_of_runs hx).transacted
  · have hpause : ∀ e, isPause e = true → isCommitted e = false := by
      intro e he
      refine Bool.eq_false_iff.2 fun hcommitted => ?_
      obtain rfl := isCommitted_iff.1 hcommitted
      cases he
    rw [← countP_splitOnP hpause]
    refine htried.commits.trans ?_
    rcases r with e | _ | _ <;> rfl

end AccountStats.Store
