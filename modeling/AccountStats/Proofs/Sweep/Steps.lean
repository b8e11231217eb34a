import Mathlib.Tactic
import AccountStats.Sweep.Machine
/-
What one step of a sweep can do, said once.

`Step` lists the steps, each with its guard and the state it leads to; `step?_eq_some` says that they are the steps of
the machine. All that a sweep keeps, and that it comes to an end, is shown by cases over `Step`.
-/
namespace AccountStats.Sweep

variable {I : Interface} {σ : Type}

namespace State

/-- the producer, then the workers, in the order in which the supervisor joins them -/
def taskStopped (s : State I σ) : Nat → Bool
  | 0 => s.producerStopped
  | i + 1 => s.workerStopped i

theorem producerStopped_iff (s : State I σ) : s.producerStopped = true ↔ s.producer = .stopped := by
  unfold producerStopped
  split <;> simp_all

theorem workerStopped_iff (s : State I σ) (i : Nat) :
    s.workerStopped i = true ↔ s.workers[i]? = some .stopped := by
  unfold workerStopped
  split <;> simp_all

theorem abandoned_iff (s : State I σ) : s.abandoned = true ↔ ∀ w ∈ s.workers, w = .stopped := by
  unfold abandoned
  rw [List.all_eq_true]
  refine forall₂_congr fun w _ => ?_
  cases w <;> simp

end State

open State

/-- one step of one task: its guard, and the state after it -/
inductive Step (plan : Plan I) (answer : (r : I.Request) → σ → I.Reply r × σ) (s : State I σ) : Op → State I σ → Prop
  | cancel (hc : s.cancelled = false) : Step plan answer s .cancel { s with cancelled := true }
  | quit (hc : s.cancelled = true) (hp : s.producer ≠ .stopped) :
      Step plan answer s .quit { s with producer := .stopped }
  | list (usernames : List String) (hp : s.producer = .listing) (hc : s.cancelled = false)
      (hl : plan.listing = .ok usernames) :
      Step plan answer s .list { s with producer := .ofJobs (jobsOf usernames) }
  | listFails (f : Failure) (hp : s.producer = .listing) (hc : s.cancelled = false) (hl : plan.listing = .error f) :
      Step plan answer s .list { s with
        producer := .reporting f
        journal := s.journal ++ [.warn "Listing accounts for refresh failed" [("error", f.text)]] }
  | queue (job : Job) (rest : List Job) (hp : s.producer = .queueing job rest) (hc : s.cancelled = false)
      (ha : s.abandoned = false) (room : s.jobs.length < plan.config.concurrency) :
      Step plan answer s .queue { s with jobs := s.jobs ++ [job], producer := .ofJobs rest }
  | queueFails (job : Job) (rest : List Job) (hp : s.producer = .queueing job rest) (hc : s.cancelled = false)
      (ha : s.abandoned = true) : Step plan answer s .queue { s with producer := .stopped }
  | report (f : Failure) (hp : s.producer = .reporting f) (hc : s.cancelled = false) (hw : s.wantsProblems = true)
      (room : s.problems.length < plan.config.errorCapacity) :
      Step plan answer s .report { s with problems := s.problems ++ [.listing f], producer := .stopped }
  | reportFails (f : Failure) (hp : s.producer = .reporting f) (hc : s.cancelled = false)
      (hw : s.wantsProblems = false) : Step plan answer s .report { s with producer := .stopped }
  | lock (i : Nat) (hh : s.holder = none) (hi : s.workers[i]? = some .free) :
      Step plan answer s (.lock i) { s with holder := some i }
  | take (i : Nat) (job : Job) (rest : List Job) (hh : s.holder = some i) (hc : s.cancelled = false)
      (hj : s.jobs = job :: rest) :
      Step plan answer s (.poll i)
        { s.setWorker i (.syncing job (plan.resync job.username plan.config.ttl)) with
          holder := none, jobs := rest, begun := s.begun ++ [job] }
  | retire (i : Nat) (hh : s.holder = some i) (h : s.cancelled = true ∨ s.jobs = [] ∧ s.producer = .stopped) :
      Step plan answer s (.poll i) { s.setWorker i .stopped with holder := none }
  | request (i : Nat) (job : Job) (r : I.Request) (next : I.Reply r → Program I (Except Failure Unit))
      (hi : s.workers[i]? = some (.syncing job (.ask r next))) :
      Step plan answer s (.advance i)
        { s.setWorker i (.syncing job (next (answer r s.world).1)) with world := (answer r s.world).2 }
  | finish (i : Nat) (job : Job) (outcome : Except Failure Unit)
      (hi : s.workers[i]? = some (.syncing job (.done outcome))) :
      Step plan answer s (.advance i)
        { s.setWorker i (.reporting ⟨job, outcome⟩) with finished := s.finished ++ [⟨job, outcome⟩] }
  | deliverRefreshed (i : Nat) (job : Job) (hi : s.workers[i]? = some (.reporting ⟨job, .ok ()⟩))
      (hw : s.wantsRefreshed = true) (room : s.refreshed.length < plan.config.batchSize) :
      Step plan answer s (.deliver i) { s.setWorker i .free with refreshed := s.refreshed ++ [job] }
  | refreshedFails (i : Nat) (job : Job) (hi : s.workers[i]? = some (.reporting ⟨job, .ok ()⟩))
      (hw : s.wantsRefreshed = false) : Step plan answer s (.deliver i) (s.setWorker i .stopped)
  | deliverProblem (i : Nat) (job : Job) (cause : Failure)
      (hi : s.workers[i]? = some (.reporting ⟨job, .error cause⟩)) (hw : s.wantsProblems = true)
      (room : s.problems.length < plan.config.errorCapacity) :
      Step plan answer s (.deliver i) { s.setWorker i .free with problems := s.problems ++ [.account job cause] }
  | problemFails (i : Nat) (job : Job) (cause : Failure)
      (hi : s.workers[i]? = some (.reporting ⟨job, .error cause⟩)) (hw : s.wantsProblems = false) :
      Step plan answer s (.deliver i) (s.setWorker i .stopped)
  | join (h : s.taskStopped s.joined = true) : Step plan answer s .join { s with joined := s.joined + 1 }
  | takeRefreshed (job : Job) (rest : List Job) (he : s.endedRefreshed = false) (hr : s.refreshed = job :: rest) :
      Step plan answer s .takeRefreshed
        { s with refreshed := rest, takenRefreshed := s.takenRefreshed ++ [job] }
  | endRefreshed (he : s.endedRefreshed = false) (hr : s.refreshed = [])
      (h : s.closed = true ∨ s.wantsRefreshed = false) :
      Step plan answer s .takeRefreshed { s with endedRefreshed := true }
  | takeProblem (notice : Notice) (rest : List Notice) (he : s.endedProblems = false)
      (hr : s.problems = notice :: rest) :
      Step plan answer s .takeProblem
        { s with problems := rest, takenProblems := s.takenProblems ++ [notice] }
  | endProblems (he : s.endedProblems = false) (hr : s.problems = [])
      (h : s.closed = true ∨ s.wantsProblems = false) :
      Step plan answer s .takeProblem { s with endedProblems := true }

namespace Step

variable {plan : Plan I} {answer : (r : I.Request) → σ → I.Reply r × σ} {s t : State I σ}

/-! ## The steps of each task -/

theorem of_quit? (h : s.quit? = some t) : Step plan answer s .quit t := by
  simp only [quit?, Option.ite_none_right_eq_some, Bool.and_eq_true, Bool.not_eq_true'] at h
  obtain ⟨⟨hc, hp⟩, h⟩ := h
  cases h
  refine .quit hc fun hs => ?_
  rw [(producerStopped_iff s).2 hs] at hp
  cases hp

theorem of_list? (h : s.list? plan = some t) : Step plan answer s .list t := by
  unfold list? at h
  split at h
  · next hp hc =>
    split at h
    · next hl => cases h; exact .list _ hp hc hl
    · next hl => cases h; exact .listFails _ hp hc hl
  · cases h

theorem of_queue? (h : s.queue? plan = some t) : Step plan answer s .queue t := by
  unfold queue? at h
  split at h
  · next hp hc =>
    split at h
    · next ha => cases h; exact .queueFails _ _ hp hc ha
    · next ha =>
      split at h
      · next room => cases h; exact .queue _ _ hp hc (Bool.eq_false_iff.2 ha) room
      · cases h
  · cases h

theorem of_report? (h : s.report? plan = some t) : Step plan answer s .report t := by
  unfold report? at h
  split at h
  · next hp hc =>
    split at h
    · next hw => cases h; exact .reportFails _ hp hc (by simpa using hw)
    · next hw =>
      split at h
      · next room => cases h; exact .report _ hp hc (by simpa using hw) room
      · cases h
  · cases h

theorem of_lock? {i : Nat} (h : s.lock? i = some t) : Step plan answer s (.lock i) t := by
  unfold lock? at h
  split at h
  · next hh hi => cases h; exact .lock i hh hi
  · cases h

theorem of_poll? {i : Nat} (h : s.poll? plan i = some t) : Step plan answer s (.poll i) t := by
  unfold poll? at h
  split at h
  · next hh =>
    split at h
    · next hc => cases h; exact .retire i hh (Or.inl hc)
    · next hc =>
      split at h
      · next hj => cases h; exact .take i _ _ hh (by simpa using hc) hj
      · next hj =>
        split at h
        · next hp => cases h; exact .retire i hh (Or.inr ⟨hj, (producerStopped_iff s).1 hp⟩)
        · cases h
  · cases h

theorem of_advance? {i : Nat} (h : s.advance? answer i = some t) : Step plan answer s (.advance i) t := by
  unfold advance? at h
  split at h
  · next hi => cases h; exact .request i _ _ _ hi
  · next hi => cases h; exact .finish i _ _ hi
  · cases h

theorem of_deliver? {i : Nat} (h : s.deliver? plan i = some t) : Step plan answer s (.deliver i) t := by
  unfold deliver? at h
  split at h
  · next hi =>
    split at h
    · next hw => cases h; exact .refreshedFails i _ hi (by simpa using hw)
    · next hw =>
      split at h
      · next room => cases h; exact .deliverRefreshed i _ hi (by simpa using hw) room
      · cases h
  · next hi =>
    split at h
    · next hw => cases h; exact .problemFails i _ _ hi (by simpa using hw)
    · next hw =>
      split at h
      · next room => cases h; exact .deliverProblem i _ _ hi (by simpa using hw) room
      · cases h
  · cases h

theorem of_join? (h : s.join? = some t) : Step plan answer s .join t := by
  unfold join? at h
  simp only [Option.ite_none_right_eq_some] at h
  obtain ⟨hr, h⟩ := h
  cases h
  refine .join ?_
  unfold taskStopped
  split <;> simp_all

theorem of_takeRefreshed? (h : s.takeRefreshed? = some t) : Step plan answer s .takeRefreshed t := by
  unfold takeRefreshed? at h
  split at h
  · cases h
  · next he =>
    split at h
    · next hr => cases h; exact .takeRefreshed _ _ (by simpa using he) hr
    · next hr =>
      split at h
      · next hc => cases h; exact .endRefreshed (by simpa using he) hr (by simpa using hc)
      · cases h

theorem of_takeProblem? (h : s.takeProblem? = some t) : Step plan answer s .takeProblem t := by
  unfold takeProblem? at h
  split at h
  · cases h
  · next he =>
    split at h
    · next hr => cases h; exact .takeProblem _ _ (by simpa using he) hr
    · next hr =>
      split at h
      · next hc => cases h; exact .endProblems (by simpa using he) hr (by simpa using hc)
      · cases h

end Step

/-- **The steps of the machine are those of `Step`.** -/
theorem step?_eq_some {plan : Plan I} {answer : (r : I.Request) → σ → I.Reply r × σ} {s t : State I σ} {op : Op} :
    s.step? plan answer op = some t ↔ Step plan answer s op t := by
  constructor
  · intro h
    cases op with
    | cancel =>
      simp only [step?] at h
      split at h
      · cases h
      · next hc => cases h; exact .cancel (by simpa using hc)
    | quit => exact .of_quit? h
    | list => exact .of_list? h
    | queue => exact .of_queue? h
    | report => exact .of_report? h
    | lock i => exact .of_lock? h
    | poll i => exact .of_poll? h
    | advance i => exact .of_advance? h
    | deliver i => exact .of_deliver? h
    | join => exact .of_join? h
    | takeRefreshed => exact .of_takeRefreshed? h
    | takeProblem => exact .of_takeProblem? h
  · intro h
    cases h with
    | cancel hc => simp [step?, hc]
    | quit hc hp => simp [step?, quit?, hc, ← Bool.not_eq_true, producerStopped_iff, hp]
    | list _ hp hc hl => simp [step?, list?, hp, hc, hl]
    | listFails f hp hc hl => simp [step?, list?, hp, hc, hl]
    | queue job rest hp hc ha room => simp [step?, queue?, hp, hc, ha, room]
    | queueFails job rest hp hc ha => simp [step?, queue?, hp, hc, ha]
    | report f hp hc hw room => simp [step?, report?, hp, hc, hw, room]
    | reportFails f hp hc hw => simp [step?, report?, hp, hc, hw]
    | lock i hh hi => simp [step?, lock?, hh, hi]
    | take i job rest hh hc hj => simp [step?, poll?, hh, hc, hj]
    | retire i hh h =>
      rcases h with hc | ⟨hj, hp⟩
      · simp [step?, poll?, hh, hc]
      · simp [step?, poll?, hh, hj, (producerStopped_iff s).2 hp]
    | request i job r next hi => simp [step?, advance?, hi]
    | finish i job outcome hi => simp [step?, advance?, hi]
    | deliverRefreshed i job hi hw room => simp [step?, deliver?, hi, hw, room]
    | refreshedFails i job hi hw => simp [step?, deliver?, hi, hw]
    | deliverProblem i job cause hi hw room => simp [step?, deliver?, hi, hw, room]
    | problemFails i job cause hi hw => simp [step?, deliver?, hi, hw]
    | join h =>
      unfold taskStopped at h
      simp only [step?, join?]
      split at h <;> simp_all
    | takeRefreshed job rest he hr => simp [step?, takeRefreshed?, he, hr]
    | endRefreshed he hr h => simp [step?, takeRefreshed?, he, hr, h]
    | takeProblem notice rest he hr => simp [step?, takeProblem?, he, hr]
    | endProblems he hr h => simp [step?, takeProblem?, he, hr, h]

end AccountStats.Sweep
