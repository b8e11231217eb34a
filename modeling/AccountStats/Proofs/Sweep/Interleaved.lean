import Mathlib.Tactic
import AccountStats.Proofs.Program.Interleaving
import AccountStats.Proofs.Sweep.Reports
/-
A sweep as programs that share a world.

All that happens to the world in a sweep are the requests of the synchronizations, one after another. So every run of a
sweep runs one program for each job, in some order: who takes which job, and when, only decides on that order. Results:
- `step_reflects`: a step is none of the programs, or the next request of one;
- `reflects_of_run`: every run of a sweep is a run of the programs.
-/
namespace AccountStats.Sweep

variable {I : Interface} {σ : Type} {plan : Plan I} {answer : (r : I.Request) → σ → I.Reply r × σ}
  {s t : State I σ} {op : Op} {ops : List Op} {m : Interleaving I σ (Except Failure Unit)}

open State

/-- one program for each job, in the order of the listing -/
def Plan.programs (plan : Plan I) : List (Program I (Except Failure Unit)) :=
  plan.jobs.map fun job => plan.resync job.username plan.config.ttl

/-- the programs are where the workers are: those of jobs that were not taken have not begun, those of finished jobs are
over -/
structure Reflects (plan : Plan I) (s : State I σ) (m : Interleaving I σ (Except Failure Unit)) : Prop where
  world : m.world = s.world
  running : ∀ (i : Nat) job p, s.workers[i]? = some (.syncing job p) → m.programs[job.place]? = some p
  finished : ∀ r ∈ s.finished, m.programs[r.job.place]? = some (.done r.outcome)
  waiting : ∀ job ∈ plan.jobs, job ∉ s.begun →
    m.programs[job.place]? = some (plan.resync job.username plan.config.ttl)

/-! ## Jobs and places -/

theorem getElem?_jobs {k : Nat} {job : Job} : plan.jobs[k]? = some job ↔ job ∈ plan.jobs ∧ job.place = k := by
  have hplace : ∀ (i : Nat) (h : i < plan.jobs.length), plan.jobs[i].place = i := by
    unfold Plan.jobs
    cases plan.listing <;> simp [jobsOf]
  constructor
  · intro h
    obtain ⟨hk, rfl⟩ := List.getElem?_eq_some_iff.1 h
    exact ⟨List.getElem_mem hk, hplace k hk⟩
  · rintro ⟨hmem, rfl⟩
    obtain ⟨i, hi, rfl⟩ := List.getElem_of_mem hmem
    rw [hplace i hi, List.getElem?_eq_getElem hi]

theorem eq_of_place_eq {job job' : Job} (h : job ∈ plan.jobs) (h' : job' ∈ plan.jobs)
    (hplace : job.place = job'.place) : job = job' := by
  have hsame := (getElem?_jobs.2 ⟨h, hplace⟩).symm.trans (getElem?_jobs.2 ⟨h', rfl⟩)
  exact Option.some.inj hsame

theorem mem_inFlight {i : Nat} {job : Job} {p : Program I (Except Failure Unit)}
    (hi : s.workers[i]? = some (.syncing job p)) : job ∈ Worker.inFlight s.workers :=
  List.mem_filterMap.2 ⟨_, List.mem_of_getElem? hi, rfl⟩

theorem begun_of_running (ha : Accounts plan s) {i : Nat} {job : Job} {p : Program I (Except Failure Unit)}
    (hi : s.workers[i]? = some (.syncing job p)) : job ∈ s.begun :=
  ha.begun.symm.subset (List.mem_append_right _ (mem_inFlight hi))

theorem begun_of_finished (ha : Accounts plan s) {r : Report} (hr : r ∈ s.finished) : r.job ∈ s.begun :=
  ha.begun.symm.subset (List.mem_append_left _ (List.mem_map_of_mem hr))

theorem jobs_of_begun (ha : Accounts plan s) {job : Job} (hjob : job ∈ s.begun) : job ∈ plan.jobs :=
  (begun_prefix_jobs ha).subset hjob

/-- finished jobs and those in flight are different ones -/
theorem nodup_taken (ha : Accounts plan s) : (s.finished.map Report.job ++ Worker.inFlight s.workers).Nodup :=
  ha.begun.nodup_iff.1 ((begun_prefix_jobs ha).sublist.nodup (nodup_jobs plan))

/-- a job that is being synchronized is not finished -/
theorem not_finished (ha : Accounts plan s) {i : Nat} {job : Job} {p : Program I (Except Failure Unit)}
    (hi : s.workers[i]? = some (.syncing job p)) {r : Report} (hr : r ∈ s.finished) : r.job ≠ job := by
  rintro rfl
  exact (List.nodup_append.1 (nodup_taken ha)).2.2 _ (List.mem_map_of_mem hr) _ (mem_inFlight hi) rfl

/-- a job is being synchronized by one worker -/
theorem eq_of_running (ha : Accounts plan s) {i j : Nat} {job : Job} {p q : Program I (Except Failure Unit)}
    (hi : s.workers[i]? = some (.syncing job p)) (hj : s.workers[j]? = some (.syncing job q)) : i = j := by
  by_contra hne
  have hnodup : (Worker.inFlight s.workers).Nodup := (List.nodup_append.1 (nodup_taken ha)).2.1
  have hperm := filterMap_set_close (f := Worker.job?) (y := Worker.free) hi rfl rfl
  have hrest : job ∈ (s.workers.set i .free).filterMap Worker.job? :=
    List.mem_filterMap.2 ⟨_, List.mem_of_getElem? ((List.getElem?_set_ne hne).trans hj), rfl⟩
  exact (List.nodup_cons.1 (hperm.nodup_iff.1 hnodup)).1 hrest

/-! ## One step -/

theorem getElem?_set_cases {α : Type} {xs : List α} {i j : Nat} {x y : α} (h : (xs.set i y)[j]? = some x) :
    i = j ∧ x = y ∨ i ≠ j ∧ xs[j]? = some x := by
  by_cases hij : i = j
  · subst hij
    have hlt : i < xs.length := by simpa using (List.getElem?_eq_some_iff.1 h).1
    rw [List.getElem?_set_self hlt] at h
    exact Or.inl ⟨rfl, (Option.some.inj h).symm⟩
  · rw [List.getElem?_set_ne hij] at h
    exact Or.inr ⟨hij, h⟩

/-- a worker that is not synchronizing after the step -/
theorem running_of_set {ws : List (Worker I)} {i j : Nat} {w : Worker I} {job : Job}
    {p : Program I (Except Failure Unit)} (h : (ws.set i w)[j]? = some (.syncing job p)) (hw : w.job? = none) :
    ws[j]? = some (.syncing job p) := by
  rcases getElem?_set_cases h with ⟨-, rfl⟩ | ⟨-, hj⟩
  · cases hw
  · exact hj

/-- what is no matter of the synchronizations -/
theorem Reflects.aside (hm : Reflects plan s m) (hworld : t.world = s.world) (hbegun : t.begun = s.begun)
    (hfinished : t.finished = s.finished)
    (hworkers : ∀ (i : Nat) job p, t.workers[i]? = some (.syncing job p) → s.workers[i]? = some (.syncing job p)) :
    Reflects plan t m where
  world := hm.world.trans hworld.symm
  running i job p hi := hm.running i job p (hworkers i job p hi)
  finished r hr := hm.finished r (hfinished ▸ hr)
  waiting job hjob hnot := hm.waiting job hjob (hbegun ▸ hnot)

/-- a job that was not taken before has not begun before -/
theorem reflects_take {i : Nat} {job : Job} {rest : List Job} (hm : Reflects plan s m) (ha : Accounts plan s)
    (hj : s.jobs = job :: rest) :
    Reflects plan { s.setWorker i (.syncing job (plan.resync job.username plan.config.ttl)) with
      holder := none, jobs := rest, begun := s.begun ++ [job] } m := by
  have hline : s.begun ++ job :: (rest ++ s.producer.unqueued plan) <+: plan.jobs := by
    simpa [line, hj] using ha.line
  have hmem : job ∈ plan.jobs := hline.subset (by simp)
  have hnot : job ∉ s.begun := fun hbegun =>
    (List.nodup_append.1 (hline.sublist.nodup (nodup_jobs plan))).2.2 job hbegun job (by simp) rfl
  refine ⟨hm.world, fun j job' p hp => ?_, hm.finished, fun job' hjob' hnot' => ?_⟩
  · rcases getElem?_set_cases hp with ⟨-, hsame⟩ | ⟨-, hj⟩
    · cases hsame
      exact hm.waiting job hmem hnot
    · exact hm.running j job' p hj
  · exact hm.waiting job' hjob' fun hbegun => hnot' (List.mem_append_left _ hbegun)

/-- the program of a job goes on when its worker does -/
theorem reflects_request {i : Nat} {job : Job} {r : I.Request} {next : I.Reply r → Program I (Except Failure Unit)}
    (hm : Reflects plan s m) (ha : Accounts plan s) (hi : s.workers[i]? = some (.syncing job (.ask r next))) :
    ∃ m', m.step? (fun _ : Unit => answer) job.place () = some m' ∧
      Reflects plan { s.setWorker i (.syncing job (next (answer r s.world).1)) with world := (answer r s.world).2 }
        m' := by
  have hprogram := hm.running i job _ hi
  have hbegun := begun_of_running ha hi
  have hother : ∀ job' ∈ plan.jobs, job' ≠ job → ∀ q,
      (m.programs.set job.place q)[job'.place]? = m.programs[job'.place]? := fun job' hjob' hne q =>
    List.getElem?_set_ne fun hplace => hne (eq_of_place_eq hjob' (jobs_of_begun ha hbegun) hplace.symm)
  refine ⟨_, Interleaving.step?_eq_some.2 ⟨r, next, hprogram, rfl⟩, ?_, fun j job' p hp => ?_, fun q hq => ?_,
    fun job' hjob' hnot => ?_⟩
  · rw [hm.world]
  · rcases getElem?_set_cases hp with ⟨-, hsame⟩ | ⟨hne, hj⟩
    · cases hsame
      rw [hm.world]
      exact List.getElem?_set_self (List.getElem?_eq_some_iff.1 hprogram).1
    · have hdifferent : job' ≠ job := by
        rintro rfl
        exact hne (eq_of_running ha hi hj)
      rw [hother job' (jobs_of_begun ha (begun_of_running ha hj)) hdifferent]
      exact hm.running j job' p hj
  · rw [hother q.job (jobs_of_begun ha (begun_of_finished ha hq)) (not_finished ha hi hq)]
    exact hm.finished q hq
  · rw [hother job' hjob' fun hsame => hnot (hsame ▸ hbegun)]
    exact hm.waiting job' hjob' hnot

theorem reflects_finish {i : Nat} {job : Job} {outcome : Except Failure Unit} (hm : Reflects plan s m)
    (hi : s.workers[i]? = some (.syncing job (.done outcome))) :
    Reflects plan { s.setWorker i (.reporting ⟨job, outcome⟩) with finished := s.finished ++ [⟨job, outcome⟩] } m where
  world := hm.world
  running j job' p hj := hm.running j job' p (running_of_set hj rfl)
  finished r hr := by
    rcases List.mem_append.1 hr with hr | hr
    · exact hm.finished r hr
    · obtain rfl := List.mem_singleton.1 hr
      exact hm.running i job _ hi
  waiting := hm.waiting

/-- **A step of a sweep is none of the programs, or the next request of one.** -/
theorem step_reflects (hm : Reflects plan s m) (ha : Accounts plan s) (h : Step plan answer s op t) :
    Reflects plan t m ∨ ∃ k m', m.step? (fun _ : Unit => answer) k () = some m' ∧ Reflects plan t m' := by
  cases h with
  | take i job rest hh hc hj => exact Or.inl (reflects_take hm ha hj)
  | request i job r next hi => exact Or.inr ⟨job.place, reflects_request hm ha hi⟩
  | finish i job outcome hi => exact Or.inl (reflects_finish hm hi)
  | retire i hh h => exact Or.inl (hm.aside rfl rfl rfl fun _ _ _ hj => running_of_set hj rfl)
  | deliverRefreshed i job hi hw room => exact Or.inl (hm.aside rfl rfl rfl fun _ _ _ hj => running_of_set hj rfl)
  | refreshedFails i job hi hw => exact Or.inl (hm.aside rfl rfl rfl fun _ _ _ hj => running_of_set hj rfl)
  | deliverProblem i job cause hi hw room => exact Or.inl (hm.aside rfl rfl rfl fun _ _ _ hj => running_of_set hj rfl)
  | problemFails i job cause hi hw => exact Or.inl (hm.aside rfl rfl rfl fun _ _ _ hj => running_of_set hj rfl)
  | _ => exact Or.inl (hm.aside rfl rfl rfl fun _ _ _ hj => hj)

/-! ## Runs -/

theorem reflects_start (plan : Plan I) (world : σ) (cancelled : Bool) :
    Reflects plan (init plan world cancelled) (.start world plan.programs) where
  world := rfl
  running i job p hi := by
    have hfree : Worker.syncing job p = .free := List.eq_of_mem_replicate (List.mem_of_getElem? hi)
    cases hfree
  finished := List.forall_mem_nil _
  waiting job hjob _ := by
    have hplace : plan.jobs[job.place]? = some job := getElem?_jobs.2 ⟨hjob, rfl⟩
    simp [Interleaving.start, Plan.programs, hplace]

/-- **Every run of a sweep is a run of the programs of its jobs.** -/
theorem reflects_of_run {world : σ} {cancelled : Bool}
    (hrun : (init plan world cancelled).run? plan answer ops = some s) :
    ∃ moments m, (Interleaving.start world plan.programs).run? (fun _ : Unit => answer) moments = some m ∧
      Reflects plan s m := by
  have hall : (Orderly plan s ∧ Accounts plan s) ∧
      ∃ moments m, (Interleaving.start world plan.programs).run? (fun _ : Unit => answer) moments = some m ∧
        Reflects plan s m := by
    refine run_preserves (P := fun s => (Orderly plan s ∧ Accounts plan s) ∧
      ∃ moments m, (Interleaving.start world plan.programs).run? (fun _ : Unit => answer) moments = some m ∧
        Reflects plan s m) (fun s op t _ h hs => ?_) hrun
      ⟨⟨orderly_init plan world cancelled, accounts_init plan world cancelled⟩, [], _, rfl,
        reflects_start plan world cancelled⟩
    obtain ⟨⟨ho, ha⟩, moments, m, hm, hreflects⟩ := hs
    refine ⟨⟨step_orderly ho h, step_accounts ho ha h⟩, ?_⟩
    rcases step_reflects hreflects ha h with hsame | ⟨k, m', hstep, hnext⟩
    · exact ⟨moments, m, hm, hsame⟩
    · exact ⟨moments ++ [(k, ())], m', Interleaving.run?_snoc.2 ⟨m, hm, hstep⟩, hnext⟩
  exact hall.2

end AccountStats.Sweep
