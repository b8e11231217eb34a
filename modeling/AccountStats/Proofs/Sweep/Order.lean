import Mathlib.Tactic
import AccountStats.Proofs.Sweep.Steps
/-
Runs of a sweep, and the order that all of its runs keep.

`Orderly` says who may hold the lock, that the supervisor joins stopped tasks only, and that the consumer sees the end
of a stream only when both are closed. Results:
- `run_preserves`: what every step preserves, every run preserves;
- `orderly_of_run`: every run of a sweep is orderly;
- `stopped_of_closed`: once the streams are closed, every task has stopped;
- `closed_streams_final`: after that nothing more is sent on either of them.
-/
namespace AccountStats.Sweep

variable {I : Interface} {σ : Type} {plan : Plan I} {answer : (r : I.Request) → σ → I.Reply r × σ}
  {s t u : State I σ} {op : Op} {ops : List Op}

open State

/-! ## Runs -/

theorem run?_cons : s.run? plan answer (op :: ops) = some u ↔
    ∃ t, Step plan answer s op t ∧ t.run? plan answer ops = some u := by
  simp only [run?, Option.bind_eq_some_iff, step?_eq_some]

/-- **What every step preserves, every run preserves.** -/
theorem run_preserves {P : State I σ → Prop}
    (hstep : ∀ s op t, op ∈ ops → Step plan answer s op t → P s → P t)
    (hrun : s.run? plan answer ops = some t) (hs : P s) : P t := by
  induction ops generalizing s with
  | nil => cases hrun; exact hs
  | cons o ops ih =>
    obtain ⟨v, hv, hrun⟩ := run?_cons.1 hrun
    exact ih (fun s op t hop => hstep s op t (List.mem_cons_of_mem _ hop)) hrun
      (hstep s o v List.mem_cons_self hv hs)

/-! ## Orderly sweeps -/

/-- what the tasks of a sweep rely on -/
structure Orderly (plan : Plan I) (s : State I σ) : Prop where
  workers : s.workers.length = plan.config.concurrency
  /-- a worker that has the lock does nothing else -/
  holder : ∀ i, s.holder = some i → s.workers[i]? = some .free
  /-- the consumer keeps draining -/
  wantsRefreshed : s.wantsRefreshed = true
  wantsProblems : s.wantsProblems = true
  joined_le : s.joined ≤ s.workers.length + 1
  joined : ∀ k < s.joined, s.taskStopped k = true
  endedRefreshed : s.endedRefreshed = true → s.closed = true ∧ s.refreshed = []
  endedProblems : s.endedProblems = true → s.closed = true ∧ s.problems = []

theorem orderly_init (plan : Plan I) (world : σ) (cancelled : Bool) : Orderly plan (init plan world cancelled) := by
  constructor <;> simp [init]

theorem closed_iff : s.closed = true ↔ s.joined = s.workers.length + 1 := by
  simp [closed]

/-- once the streams are closed, every task has stopped -/
theorem stopped_of_closed (h : Orderly plan s) (hc : s.closed = true) :
    s.producer = .stopped ∧ ∀ w ∈ s.workers, w = .stopped := by
  rw [closed_iff] at hc
  refine ⟨(producerStopped_iff s).1 (h.joined 0 (by omega)), fun w hw => ?_⟩
  obtain ⟨i, hi, rfl⟩ := List.getElem_of_mem hw
  have := (workerStopped_iff s i).1 (h.joined (i + 1) (by omega))
  rw [List.getElem?_eq_getElem hi] at this
  exact Option.some.inj this

theorem not_closed_of_worker (h : Orderly plan s) {i : Nat} {w : Worker I} (hi : s.workers[i]? = some w)
    (hw : w ≠ .stopped) : s.closed = false :=
  Bool.eq_false_iff.2 fun hc => hw ((stopped_of_closed h hc).2 w (List.mem_of_getElem? hi))

theorem not_closed_of_producer (h : Orderly plan s) (hp : s.producer ≠ .stopped) : s.closed = false :=
  Bool.eq_false_iff.2 fun hc => hp (stopped_of_closed h hc).1

/-- a worker that goes on leaves those alone that do something else -/
theorem getElem?_set_other {ws : List (Worker I)} {i j : Nat} {u v w : Worker I} (hi : ws[i]? = some v) (hv : v ≠ u)
    (hj : ws[j]? = some u) : (ws.set i w)[j]? = some u := by
  have hij : i ≠ j := by
    rintro rfl
    rw [hi] at hj
    exact hv (Option.some.inj hj)
  rw [List.getElem?_set_ne hij, hj]

/-- **Stopped tasks stay stopped.** -/
theorem step_stopped (hs : Orderly plan s) (h : Step plan answer s op t) :
    (s.producer = .stopped → t.producer = .stopped) ∧
      ∀ i : Nat, s.workers[i]? = some .stopped → t.workers[i]? = some .stopped := by
  cases h with
  | quit hc hp => exact ⟨fun _ => rfl, fun _ hi => hi⟩
  | list _ hp hc hl => exact ⟨fun h => absurd (hp.symm.trans h) (by simp), fun _ hi => hi⟩
  | listFails f hp hc hl => exact ⟨fun h => absurd (hp.symm.trans h) (by simp), fun _ hi => hi⟩
  | queue job rest hp hc ha room => exact ⟨fun h => absurd (hp.symm.trans h) (by simp), fun _ hi => hi⟩
  | queueFails job rest hp hc ha => exact ⟨fun _ => rfl, fun _ hi => hi⟩
  | report f hp hc hw room => exact ⟨fun _ => rfl, fun _ hi => hi⟩
  | reportFails f hp hc hw => exact ⟨fun _ => rfl, fun _ hi => hi⟩
  | take i job rest hh hc hj => exact ⟨id, fun _ => getElem?_set_other (hs.holder i hh) (by simp)⟩
  | retire i hh h => exact ⟨id, fun _ => getElem?_set_other (hs.holder i hh) (by simp)⟩
  | request i job r next hi => exact ⟨id, fun _ => getElem?_set_other hi (by simp)⟩
  | finish i job outcome hi => exact ⟨id, fun _ => getElem?_set_other hi (by simp)⟩
  | deliverRefreshed i job hi hw room => exact ⟨id, fun _ => getElem?_set_other hi (by simp)⟩
  | refreshedFails i job hi hw => exact ⟨id, fun _ => getElem?_set_other hi (by simp)⟩
  | deliverProblem i job cause hi hw room => exact ⟨id, fun _ => getElem?_set_other hi (by simp)⟩
  | problemFails i job cause hi hw => exact ⟨id, fun _ => getElem?_set_other hi (by simp)⟩
  | _ => exact ⟨id, fun _ hi => hi⟩

theorem step_taskStopped (hs : Orderly plan s) (h : Step plan answer s op t) {k : Nat}
    (hk : s.taskStopped k = true) : t.taskStopped k = true := by
  obtain ⟨hp, hw⟩ := step_stopped hs h
  cases k with
  | zero => exact (producerStopped_iff t).2 (hp ((producerStopped_iff s).1 hk))
  | succ i => exact (workerStopped_iff t i).2 (hw i ((workerStopped_iff s i).1 hk))

theorem step_length (h : Step plan answer s op t) : t.workers.length = s.workers.length := by
  cases h <;> simp [setWorker]

/-- a step that only the supervisor takes -/
theorem step_joined (h : Step plan answer s op t) :
    t.joined = s.joined ∨ op = .join ∧ t.joined = s.joined + 1 ∧ s.taskStopped s.joined = true := by
  cases h with
  | join h => exact Or.inr ⟨rfl, rfl, h⟩
  | _ => exact Or.inl rfl

/-- the supervisor finds no task to join beyond the last worker -/
theorem joined_le_of_taskStopped (h : s.taskStopped s.joined = true) : s.joined ≤ s.workers.length := by
  cases hj : s.joined with
  | zero => exact Nat.zero_le _
  | succ i =>
    rw [hj, taskStopped, workerStopped_iff] at h
    exact (List.getElem?_eq_some_iff.1 h).1

/-- closed streams stay closed -/
theorem step_closed (h : Step plan answer s op t) (hc : s.closed = true) :
    t.closed = true := by
  have hl := step_length h
  rw [closed_iff] at hc ⊢
  rcases step_joined h with hj | ⟨-, -, hj⟩
  · omega
  · have := joined_le_of_taskStopped hj
    omega

theorem step_holder (hs : Orderly plan s) (h : Step plan answer s op t) {i : Nat} (hi : t.holder = some i) :
    t.workers[i]? = some .free := by
  cases h with
  | lock j hh hj => cases hi; exact hj
  | take j job rest hh hc hj => cases hi
  | retire j hh h => cases hi
  | request j job r next hj => exact getElem?_set_other hj (by simp) (hs.holder i hi)
  | finish j job outcome hj => exact getElem?_set_other hj (by simp) (hs.holder i hi)
  | deliverRefreshed j job hj hw room => exact getElem?_set_other hj (by simp) (hs.holder i hi)
  | refreshedFails j job hj hw => exact getElem?_set_other hj (by simp) (hs.holder i hi)
  | deliverProblem j job cause hj hw room => exact getElem?_set_other hj (by simp) (hs.holder i hi)
  | problemFails j job cause hj hw => exact getElem?_set_other hj (by simp) (hs.holder i hi)
  | _ => exact hs.holder i hi

theorem step_endedRefreshed (hs : Orderly plan s) (h : Step plan answer s op t) (he : t.endedRefreshed = true) :
    t.closed = true ∧ t.refreshed = [] := by
  have hclosed := step_closed h
  cases h with
  | deliverRefreshed i job hi hw room =>
    have hopen := not_closed_of_worker hs hi (by simp)
    rw [(hs.endedRefreshed he).1] at hopen
    cases hopen
  | takeRefreshed job rest hn hr => rw [hn] at he; cases he
  | endRefreshed hn hr h =>
    rcases h with hc | hw
    · exact ⟨hclosed hc, hr⟩
    · rw [hs.wantsRefreshed] at hw; cases hw
  | _ => exact ⟨hclosed (hs.endedRefreshed he).1, (hs.endedRefreshed he).2⟩

theorem step_endedProblems (hs : Orderly plan s) (h : Step plan answer s op t) (he : t.endedProblems = true) :
    t.closed = true ∧ t.problems = [] := by
  have hclosed := step_closed h
  cases h with
  | report f hp hc hw room =>
    have hopen := not_closed_of_producer hs (by rw [hp]; simp)
    rw [(hs.endedProblems he).1] at hopen
    cases hopen
  | deliverProblem i job cause hi hw room =>
    have hopen := not_closed_of_worker hs hi (by simp)
    rw [(hs.endedProblems he).1] at hopen
    cases hopen
  | takeProblem notice rest hn hr => rw [hn] at he; cases he
  | endProblems hn hr h =>
    rcases h with hc | hw
    · exact ⟨hclosed hc, hr⟩
    · rw [hs.wantsProblems] at hw; cases hw
  | _ => exact ⟨hclosed (hs.endedProblems he).1, (hs.endedProblems he).2⟩

theorem step_wants (h : Step plan answer s op t) :
    t.wantsRefreshed = s.wantsRefreshed ∧ t.wantsProblems = s.wantsProblems := by
  cases h <;> exact ⟨rfl, rfl⟩

/-- **An orderly sweep stays orderly.** -/
theorem step_orderly (hs : Orderly plan s) (h : Step plan answer s op t) : Orderly plan t where
  workers := (step_length h).trans hs.workers
  holder _ := step_holder hs h
  wantsRefreshed := (step_wants h).1.trans hs.wantsRefreshed
  wantsProblems := (step_wants h).2.trans hs.wantsProblems
  joined_le := by
    rw [step_length h]
    rcases step_joined h with hj | ⟨-, hj, hk⟩
    · exact hj ▸ hs.joined_le
    · have := joined_le_of_taskStopped hk
      omega
  joined k hk := by
    apply step_taskStopped hs h
    rcases step_joined h with hj | ⟨-, hj, hk'⟩
    · exact hs.joined k (hj ▸ hk)
    · rcases Nat.lt_or_eq_of_le (Nat.le_of_lt_succ (hj ▸ hk)) with hlt | rfl
      · exact hs.joined k hlt
      · exact hk'
  endedRefreshed := step_endedRefreshed hs h
  endedProblems := step_endedProblems hs h

/-- every run of a sweep is orderly, whenever it is cancelled -/
theorem orderly_of_run {world : σ} {cancelled : Bool}
    (hrun : (init plan world cancelled).run? plan answer ops = some s) : Orderly plan s :=
  run_preserves (fun _ _ _ _ h hs => step_orderly hs h) hrun (orderly_init plan world cancelled)

/-! ## What was sent on the streams -/

namespace State

/-- all that was sent on the stream of refreshed accounts, whether the consumer took it yet or not -/
def sentRefreshed (s : State I σ) : List Job := s.takenRefreshed ++ s.refreshed

/-- all that was sent on the stream of problems -/
def sentProblems (s : State I σ) : List Notice := s.takenProblems ++ s.problems

end State

/-- **Nothing is sent on a closed stream.** -/
theorem step_sent_of_closed (hs : Orderly plan s) (hc : s.closed = true) (h : Step plan answer s op t) :
    t.sentRefreshed = s.sentRefreshed ∧ t.sentProblems = s.sentProblems := by
  cases h with
  | report f hp _ hw room =>
    rw [not_closed_of_producer hs (by rw [hp]; simp)] at hc
    cases hc
  | deliverRefreshed i job hi hw room =>
    rw [not_closed_of_worker hs hi (by simp)] at hc
    cases hc
  | deliverProblem i job cause hi hw room =>
    rw [not_closed_of_worker hs hi (by simp)] at hc
    cases hc
  | takeRefreshed job rest he hr => simp [sentRefreshed, sentProblems, hr]
  | takeProblem notice rest he hr => simp [sentRefreshed, sentProblems, hr]
  | _ => exact ⟨rfl, rfl⟩

theorem closed_streams_final (hs : Orderly plan s) (hc : s.closed = true)
    (hrun : s.run? plan answer ops = some t) :
    t.closed = true ∧ t.sentRefreshed = s.sentRefreshed ∧ t.sentProblems = s.sentProblems := by
  have hall : Orderly plan t ∧ t.closed = true ∧ t.sentRefreshed = s.sentRefreshed ∧
      t.sentProblems = s.sentProblems := by
    refine run_preserves (P := fun u => Orderly plan u ∧ u.closed = true ∧ u.sentRefreshed = s.sentRefreshed ∧
      u.sentProblems = s.sentProblems) (fun u op v _ h hu => ?_) hrun ⟨hs, hc, rfl, rfl⟩
    obtain ⟨ho, hcu, hr, hp⟩ := hu
    obtain ⟨hr', hp'⟩ := step_sent_of_closed ho hcu h
    exact ⟨step_orderly ho h, step_closed h hcu, hr'.trans hr, hp'.trans hp⟩
  exact hall.2

/-- a consumer that has seen the end of a stream took everything that was sent on it -/
theorem taken_of_endedRefreshed (hs : Orderly plan s) (he : s.endedRefreshed = true) :
    s.closed = true ∧ s.takenRefreshed = s.sentRefreshed := by
  obtain ⟨hc, hr⟩ := hs.endedRefreshed he
  exact ⟨hc, by simp [sentRefreshed, hr]⟩

theorem taken_of_endedProblems (hs : Orderly plan s) (he : s.endedProblems = true) :
    s.closed = true ∧ s.takenProblems = s.sentProblems := by
  obtain ⟨hc, hp⟩ := hs.endedProblems he
  exact ⟨hc, by simp [sentProblems, hp]⟩

end AccountStats.Sweep
