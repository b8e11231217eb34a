import Mathlib.Tactic
import AccountStats.Proofs.Sweep.Accounting
/-
What a sweep reports.

`Reported` says of some jobs that each of them was synchronized once, and that its report is on the stream that its
outcome belongs to. Results, for any order of steps:
- `uncancelled_sweep`: when the streams of a sweep that nobody cancels are closed, all listed jobs are reported, or else
  the failure to list them is, and nothing but that;
- `cancelled_sweep`: at whatever moment a sweep is cancelled, the jobs taken are a prefix of those listed; they are
  reported before the streams close, and nothing else is.
-/
namespace AccountStats.Sweep

variable {I : Interface} {σ : Type} {plan : Plan I} {answer : (r : I.Request) → σ → I.Reply r × σ}
  {s t : State I σ} {ops : List Op}

open State

/-! ## Jobs of a listing -/

theorem place_jobsOf (usernames : List String) : (jobsOf usernames).map Job.place = List.range usernames.length := by
  apply List.ext_getElem <;> simp [jobsOf]

/-- the occurrences of a name are different jobs -/
theorem nodup_jobsOf (usernames : List String) : (jobsOf usernames).Nodup := by
  apply List.Nodup.of_map Job.place
  rw [place_jobsOf]
  exact List.nodup_range

theorem username_jobsOf (usernames : List String) : (jobsOf usernames).map Job.username = usernames := by
  apply List.ext_getElem <;> simp [jobsOf]

theorem nodup_jobs (plan : Plan I) : plan.jobs.Nodup := by
  unfold Plan.jobs
  split
  · exact nodup_jobsOf _
  · exact List.nodup_nil

/-! ## Reports and streams -/

/-- the job that an item of the stream of problems is about -/
def Notice.job? : Notice → Option Job
  | .listing _ => none
  | .account job _ => some job

theorem refreshed?_eq_some {r : Report} {job : Job} : r.refreshed? = some job ↔ r = ⟨job, .ok ()⟩ := by
  rcases r with ⟨j, _ | _⟩ <;> simp [Report.refreshed?]

theorem problem?_eq_some {r : Report} {n : Notice} :
    r.problem? = some n ↔ ∃ cause, n = .account r.job cause ∧ r.outcome = .error cause := by
  rcases r with ⟨j, cause | _⟩ <;> simp [Report.problem?, eq_comm]

/-- each report goes to one of the streams -/
theorem perm_reports (rs : List Report) :
    (rs.filterMap Report.refreshed? ++ (rs.filterMap Report.problem?).filterMap Notice.job?).Perm
      (rs.map Report.job) := by
  induction rs with
  | nil => exact .nil
  | cons r rs ih =>
    rcases r with ⟨job, cause | ⟨⟩⟩
    · simp only [List.filterMap_cons, Report.refreshed?, Report.problem?, Notice.job?, List.map_cons]
      exact List.perm_middle.trans (ih.cons job)
    · simp only [List.filterMap_cons, Report.refreshed?, Report.problem?, List.map_cons, List.cons_append]
      exact ih.cons job

theorem job?_isAccount (ns : List Notice) :
    (ns.filter Notice.isAccount).filterMap Notice.job? = ns.filterMap Notice.job? := by
  induction ns with
  | nil => rfl
  | cons n ns ih => cases n <;> simp [List.filter_cons, List.filterMap_cons, Notice.isAccount, Notice.job?, ih]

theorem mem_filter_isAccount {ns : List Notice} {job : Job} {cause : Failure} :
    .account job cause ∈ ns.filter Notice.isAccount ↔ .account job cause ∈ ns := by
  simp [Notice.isAccount]

/-- the items about a listing are those that are not about an account -/
theorem eq_listings (ns : List Notice) (h : ns.filter Notice.isAccount = []) :
    ns = (ns.filterMap Notice.listing?).map .listing := by
  induction ns with
  | nil => rfl
  | cons n ns ih =>
    cases n with
    | listing f => rw [List.filterMap_cons]; simpa [Notice.listing?] using ih (by simpa [Notice.isAccount] using h)
    | account job cause => simp [Notice.isAccount] at h

/-- each of the jobs was synchronized once, and its report was sent on the stream that its outcome belongs to -/
structure Reported (plan : Plan I) (s : State I σ) (jobs : List Job) : Prop where
  begun : s.begun = jobs
  finished : (s.finished.map Report.job).Perm jobs
  genuine : ∀ r ∈ s.finished, r.Genuine plan
  sent : (s.sentRefreshed ++ s.sentProblems.filterMap Notice.job?).Perm jobs
  refreshed : ∀ r ∈ s.finished, r.job ∈ s.sentRefreshed ↔ r.outcome = .ok ()
  problem : ∀ r ∈ s.finished, ∀ cause, .account r.job cause ∈ s.sentProblems ↔ r.outcome = .error cause

/-! ## At any moment -/

/-- a job on the stream of refreshed accounts was synchronized -/
theorem finished_of_sentRefreshed (h : Accounts plan s) {job : Job} (hj : job ∈ s.sentRefreshed) :
    ⟨job, .ok ()⟩ ∈ s.finished := by
  have hmem := h.refreshed.symm.subset (List.mem_append_left _ hj)
  obtain ⟨r, hr, he⟩ := List.mem_filterMap.1 hmem
  exact refreshed?_eq_some.1 he ▸ hr

/-- and a job on the stream of problems was, too, and failed -/
theorem finished_of_sentProblems (h : Accounts plan s) {job : Job} {cause : Failure}
    (hj : .account job cause ∈ s.sentProblems) : ⟨job, .error cause⟩ ∈ s.finished := by
  have hmem := h.problems.symm.subset (List.mem_append_left _ (mem_filter_isAccount.2 hj))
  obtain ⟨⟨j, outcome⟩, hr, he⟩ := List.mem_filterMap.1 hmem
  obtain ⟨c, hn, ho⟩ := problem?_eq_some.1 he
  cases hn
  exact ho ▸ hr

theorem begun_prefix_jobs (h : Accounts plan s) : s.begun <+: plan.jobs :=
  ((List.prefix_append _ _).trans (List.prefix_append _ _)).trans h.line

/-- every job is synchronized once at most -/
theorem nodup_finished (h : Accounts plan s) : (s.finished.map Report.job).Nodup := by
  have hb : s.begun.Nodup := (begun_prefix_jobs h).sublist.nodup (nodup_jobs plan)
  exact (List.nodup_append.1 (h.begun.nodup_iff.1 hb)).1

/-- a job has one report -/
theorem eq_of_job_eq (h : Accounts plan s) {r q : Report} (hr : r ∈ s.finished) (hq : q ∈ s.finished)
    (hj : r.job = q.job) : r = q :=
  List.inj_on_of_nodup_map (nodup_finished h) hr hq hj

/-! ## When the streams are closed -/

/-- once the streams are closed, each report was sent, and its job was taken -/
theorem sent_of_closed (ho : Orderly plan s) (h : Accounts plan s) (hc : s.closed = true) :
    s.begun.Perm (s.finished.map Report.job) ∧ (s.finished.filterMap Report.refreshed?).Perm s.sentRefreshed ∧
      (s.finished.filterMap Report.problem?).Perm (s.sentProblems.filter Notice.isAccount) := by
  have hstopped : ∀ w ∈ s.workers, w = .stopped := (stopped_of_closed ho hc).2
  have hnone {β : Type} (f : Worker I → Option β) (hf : f .stopped = none) : s.workers.filterMap f = [] :=
    List.filterMap_eq_nil_iff.2 fun w hw => hstopped w hw ▸ hf
  have hflight : Worker.inFlight s.workers = [] := hnone _ rfl
  have hunsent : Worker.unsentRefreshed s.workers = [] := hnone _ rfl
  have hunsent' : Worker.unsentProblems s.workers = [] := hnone _ rfl
  exact ⟨by simpa [hflight] using h.begun, by simpa [hunsent] using h.refreshed, by simpa [hunsent'] using h.problems⟩

/-- **Once the streams are closed, every job that was taken is reported.** -/
theorem reported_of_closed (ho : Orderly plan s) (h : Accounts plan s) (hc : s.closed = true) :
    Reported plan s s.begun := by
  obtain ⟨hbegun, hrefreshed, hproblems⟩ := sent_of_closed ho h hc
  refine ⟨rfl, hbegun.symm, h.genuine, ?_, fun r hr => ?_, fun r hr cause => ?_⟩
  · rw [← job?_isAccount]
    calc (s.sentRefreshed ++ (s.sentProblems.filter Notice.isAccount).filterMap Notice.job?).Perm
          (s.finished.filterMap Report.refreshed? ++ (s.finished.filterMap Report.problem?).filterMap Notice.job?) :=
        hrefreshed.symm.append (hproblems.symm.filterMap _)
      _ |>.Perm (s.finished.map Report.job) := perm_reports _
      _ |>.Perm s.begun := hbegun.symm
  · constructor
    · intro hj
      rw [eq_of_job_eq h hr (finished_of_sentRefreshed h hj) rfl]
    · intro hok
      exact hrefreshed.subset (List.mem_filterMap.2 ⟨r, hr, refreshed?_eq_some.2 (by rw [← hok])⟩)
  · constructor
    · intro hj
      rw [eq_of_job_eq h hr (finished_of_sentProblems h hj) rfl]
    · intro he
      have hmem := hproblems.subset (List.mem_filterMap.2 ⟨r, hr, problem?_eq_some.2 ⟨cause, rfl, he⟩⟩)
      exact mem_filter_isAccount.1 hmem

/-- what was taken of a sweep that nobody cancels, once its streams are closed -/
theorem begun_of_closed (hn : 0 < plan.config.concurrency) (ho : Orderly plan s) (hw : Whole plan s)
    (hc : s.closed = true) : s.begun = plan.jobs := by
  obtain ⟨hp, hstopped⟩ := stopped_of_closed ho hc
  obtain ⟨w, hmem⟩ := List.exists_mem_of_length_pos (ho.workers ▸ hn)
  have hjobs := (hw.retired w hmem (hstopped w hmem)).2
  simpa [State.line, hp, hjobs] using hw.line

theorem nothing_sent (h : Accounts plan s) (hb : s.begun = []) :
    s.finished = [] ∧ s.sentRefreshed = [] ∧ s.sentProblems = s.listings.map .listing := by
  have hf : s.finished = [] := by
    have hperm := h.begun
    rw [hb] at hperm
    simpa using (List.append_eq_nil_iff.1 (List.nil_perm.1 hperm)).1
  have hr := h.refreshed
  have hp := h.problems
  rw [hf] at hr hp
  exact ⟨hf, (List.append_eq_nil_iff.1 (List.nil_perm.1 hr)).1,
    eq_listings _ (List.append_eq_nil_iff.1 (List.nil_perm.1 hp)).1⟩

/-- **A sweep that nobody cancels.** In any order of steps, the consumer sees the end of a stream only when both are
closed and it took all that was sent on it. When the streams are closed, nothing is sent on them any more, and
- if the accounts could be listed, each occurrence of the listing was synchronized once, its report is on the stream
  that its outcome belongs to, and the names on the streams are those of the listing;
- if not, the failure to list them is the one item on the stream of problems, and nothing was synchronized. -/
theorem uncancelled_sweep (config : Config) (listing : Except Failure (List String))
    (resync : String → Duration → Program I (Except Failure Unit)) (answer : (r : I.Request) → σ → I.Reply r × σ)
    (world : σ) (ops : List Op) (s : State I σ)
    (hrun : (init (.ofConfig config listing resync) world false).run? (.ofConfig config listing resync) answer ops =
      some s)
    (hops : .cancel ∉ ops) :
    (s.endedRefreshed = true → s.closed = true ∧ s.takenRefreshed = s.sentRefreshed) ∧
    (s.endedProblems = true → s.closed = true ∧ s.takenProblems = s.sentProblems) ∧
    (s.closed = true →
      (∀ ops' t, s.run? (.ofConfig config listing resync) answer ops' = some t →
        t.sentRefreshed = s.sentRefreshed ∧ t.sentProblems = s.sentProblems) ∧
      (∀ usernames, listing = .ok usernames →
        Reported (.ofConfig config listing resync) s (jobsOf usernames) ∧ s.listings = [] ∧
        ((s.sentRefreshed ++ s.sentProblems.filterMap Notice.job?).map Job.username).Perm usernames) ∧
      (∀ f, listing = .error f →
        s.sentProblems = [.listing f] ∧ s.sentRefreshed = [] ∧ s.begun = [] ∧ s.finished = [])) := by
  have hn : 0 < (Plan.ofConfig config listing resync).config.concurrency := config.concurrency_normalized_pos
  have ho := orderly_of_run hrun
  have ha := accounts_of_run hrun
  have hw := whole_of_run hn hops hrun
  refine ⟨taken_of_endedRefreshed ho, taken_of_endedProblems ho, fun hc => ⟨fun ops' t ht => ?_, ?_, ?_⟩⟩
  · exact (closed_streams_final ho hc ht).2
  · rintro usernames rfl
    have hb : s.begun = jobsOf usernames := begun_of_closed hn ho hw hc
    have hr := reported_of_closed ho ha hc
    rw [hb] at hr
    refine ⟨hr, ?_, ?_⟩
    · rcases ha.listings with hl | ⟨-, f, hf, -⟩
      · exact hl
      · cases hf
    · simpa [username_jobsOf] using hr.sent.map Job.username
  · rintro f rfl
    have hb : s.begun = [] := begun_of_closed hn ho hw hc
    obtain ⟨hf, hr, hp⟩ := nothing_sent ha hb
    rw [hw.reported (stopped_of_closed ho hc).1 f rfl] at hp
    exact ⟨hp, hr, hb, hf⟩

/-- surroundings that toss a coin for each synchronization -/
abbrev Coins : Interface := ⟨Unit, fun _ => Bool⟩

def Coins.toss (_ : Unit) (coins : List Bool) : Bool × List Bool := (coins.headD true, coins.tail)

def Coins.tails : Failure := ⟨.unavailable, "tails", .null⟩

/-- a synchronization that fails when tails come up -/
def Coins.resync (_ : String) (_ : Duration) : Program Coins (Except Failure Unit) :=
  .ask () fun heads => .done (if heads then .ok () else .error Coins.tails)

/-- one worker synchronizes a job, from the queue to the stream -/
def oneJob : List Op := [.queue, .lock 0, .poll 0, .advance 0, .advance 0, .deliver 0]

/-- an account that is listed twice fails the second time -/
theorem uncancelled_sweep_coins : ∃ s : State Coins (List Bool),
    (init (.ofConfig ⟨1, 1, 0⟩ (.ok ["ann", "bob", "ann"]) Coins.resync) [true, true, false] false).run?
      (.ofConfig ⟨1, 1, 0⟩ (.ok ["ann", "bob", "ann"]) Coins.resync) Coins.toss
      (.list :: oneJob ++ .takeRefreshed :: oneJob ++ oneJob ++ [.lock 0, .poll 0, .join, .join]) = some s ∧
    s.closed = true ∧ s.sentRefreshed = [⟨0, "ann"⟩, ⟨1, "bob"⟩] ∧ s.sentProblems = [.account ⟨2, "ann"⟩ Coins.tails] ∧
    Reported (.ofConfig ⟨1, 1, 0⟩ (.ok ["ann", "bob", "ann"]) Coins.resync) s (jobsOf ["ann", "bob", "ann"]) := by
  refine ⟨_, rfl, rfl, rfl, rfl, ?_⟩
  exact (((uncancelled_sweep ⟨1, 1, 0⟩ (.ok ["ann", "bob", "ann"]) Coins.resync Coins.toss [true, true, false]
    (.list :: oneJob ++ .takeRefreshed :: oneJob ++ oneJob ++ [.lock 0, .poll 0, .join, .join]) _ rfl
    (by decide)).2.2 rfl).2.1 _ rfl).1

/-- **A sweep that is cancelled at any moment, or never.** In any order of steps,
- the jobs that workers took are a prefix of the listing, and once the sweep is cancelled no worker takes another;
- when the streams are closed, each job taken was reported once, on the stream that its outcome belongs to, and a
  consumer that saw the end of the streams took all reports;
- nothing is reported that was not synchronized, but for one failure to list the accounts, if there was one;
- a sweep that is cancelled before it starts synchronizes nothing and sends nothing. -/
theorem cancelled_sweep (config : Config) (listing : Except Failure (List String))
    (resync : String → Duration → Program I (Except Failure Unit)) (answer : (r : I.Request) → σ → I.Reply r × σ)
    (world : σ) (cancelled : Bool) (ops : List Op) (s : State I σ)
    (hrun : (init (.ofConfig config listing resync) world cancelled).run? (.ofConfig config listing resync) answer ops =
      some s) :
    (s.begun <+: (Plan.ofConfig config listing resync).jobs ∧
      (s.cancelled = true →
        ∀ ops' t, s.run? (.ofConfig config listing resync) answer ops' = some t → t.begun = s.begun)) ∧
    ((s.closed = true → Reported (.ofConfig config listing resync) s s.begun) ∧
      (s.endedRefreshed = true → s.closed = true ∧ s.takenRefreshed = s.sentRefreshed) ∧
      (s.endedProblems = true → s.closed = true ∧ s.takenProblems = s.sentProblems)) ∧
    ((∀ r ∈ s.finished, r.job ∈ s.begun ∧ r.Genuine (.ofConfig config listing resync)) ∧
      (∀ job ∈ s.sentRefreshed, ⟨job, .ok ()⟩ ∈ s.finished) ∧
      (∀ job cause, .account job cause ∈ s.sentProblems → ⟨job, .error cause⟩ ∈ s.finished) ∧
      (s.listings = [] ∨ ∃ f, listing = .error f ∧ s.listings = [f])) ∧
    (cancelled = true → s.begun = [] ∧ s.finished = [] ∧ s.sentRefreshed = [] ∧ s.sentProblems = []) := by
  have ho := orderly_of_run hrun
  have ha := accounts_of_run hrun
  refine ⟨⟨begun_prefix_jobs ha, fun hc ops' t ht => (begun_of_cancelled hc ht).1⟩,
    ⟨reported_of_closed ho ha, taken_of_endedRefreshed ho, taken_of_endedProblems ho⟩,
    ⟨fun r hr => ⟨?_, ha.genuine r hr⟩, fun _ => finished_of_sentRefreshed ha,
      fun _ _ => finished_of_sentProblems ha, ?_⟩, ?_⟩
  · exact ha.begun.symm.subset (List.mem_append_left _ (List.mem_map.2 ⟨r, hr, rfl⟩))
  · rcases ha.listings with hl | ⟨-, f, hf, hl⟩
    · exact Or.inl hl
    · exact Or.inr ⟨f, hf, hl⟩
  · rintro rfl
    obtain ⟨hb, hl⟩ := begun_of_cancelled rfl hrun
    obtain ⟨hf, hr, hp⟩ := nothing_sent ha hb
    exact ⟨hb, hf, hr, by rw [hp, hl]; rfl⟩

/-- the sweep is cancelled while the first account is being synchronized -/
theorem cancelled_sweep_coins : ∃ s : State Coins (List Bool),
    (init (.ofConfig ⟨1, 1, 0⟩ (.ok ["ann", "bob"]) Coins.resync) [false] false).run?
      (.ofConfig ⟨1, 1, 0⟩ (.ok ["ann", "bob"]) Coins.resync) Coins.toss
      [.list, .queue, .lock 0, .poll 0, .queue, .advance 0, .cancel, .advance 0, .deliver 0, .lock 0, .poll 0, .join,
        .join, .takeProblem, .takeProblem] = some s ∧
    s.closed = true ∧ s.begun = [⟨0, "ann"⟩] ∧ s.takenProblems = [.account ⟨0, "ann"⟩ Coins.tails] ∧
    Reported (.ofConfig ⟨1, 1, 0⟩ (.ok ["ann", "bob"]) Coins.resync) s s.begun := by
  refine ⟨_, rfl, rfl, rfl, rfl, ?_⟩
  exact (cancelled_sweep ⟨1, 1, 0⟩ (.ok ["ann", "bob"]) Coins.resync Coins.toss [false] false
    [.list, .queue, .lock 0, .poll 0, .queue, .advance 0, .cancel, .advance 0, .deliver 0, .lock 0, .poll 0, .join,
      .join, .takeProblem, .takeProblem] _ rfl).2.1.1 rfl

end AccountStats.Sweep
