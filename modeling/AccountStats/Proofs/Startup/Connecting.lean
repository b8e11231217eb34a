import Mathlib.Tactic
import AccountStats.Scenario.Offline
import AccountStats.Proofs.Program.Running
/-
Connecting to the database when the service starts.

Results:
- `runs_attemptDatabase`: attempts go on until one succeeds or no pause is left, with the pauses in order between them;
- `attempts_le`: so there are six of them at most;
- `service_offline`: where nothing can be reached, the service ends with the failure of its database, whatever its
  settings are.
-/
namespace AccountStats.Startup

open Program (Ensures Exchange Replied Runs ensures_any ensures_ask ensures_done exists_runs runs_ask runs_done)
open Store (DbError)

variable {α β : Type} {url : String} {pauses : List Nat} {es : List (Exchange Calls)} {e : DbError}

/-! ## Attempts -/

/-- an attempt that fails -/
def failed (url : String) (e : DbError) : List (Exchange Calls) :=
  [⟨.connectDatabase url, .error e⟩, ⟨.note (.warn "Database connection attempt failed" [("error", e.text)]), ()⟩]

/-- attempts that fail, each with the pause behind it -/
def waited (url : String) (failures : List (DbError × Nat)) : List (Exchange Calls) :=
  failures.flatMap fun (e, pause) => failed url e ++ [⟨.pause pause, ()⟩]

/-- **Attempts go on until one succeeds or no pause is left.** -/
theorem runs_attemptDatabase {r : Except DbError Unit} (h : Runs (attemptDatabase url pauses) es r) :
    (∃ failures, failures.map Prod.snd <+: pauses ∧ r = .ok () ∧
      es = waited url failures ++ [⟨.connectDatabase url, .ok ()⟩]) ∨
    ∃ failures e, failures.map Prod.snd = pauses ∧ r = .error e ∧ es = waited url failures ++ failed url e := by
  induction pauses generalizing es with
  | nil =>
    obtain ⟨x, fs, rfl, hnext⟩ := runs_ask.1 h
    cases x with
    | ok u =>
      obtain ⟨rfl, rfl⟩ := runs_done.1 hnext
      exact .inl ⟨[], List.prefix_rfl, rfl, rfl⟩
    | error e =>
      obtain ⟨⟨⟩, fs, rfl, hnoted⟩ := runs_ask.1 hnext
      obtain ⟨rfl, rfl⟩ := runs_done.1 hnoted
      exact .inr ⟨[], e, rfl, rfl, rfl⟩
  | cons pause pauses ih =>
    obtain ⟨x, fs, rfl, hnext⟩ := runs_ask.1 h
    cases x with
    | ok u =>
      obtain ⟨rfl, rfl⟩ := runs_done.1 hnext
      exact .inl ⟨[], List.nil_prefix, rfl, rfl⟩
    | error e =>
      obtain ⟨⟨⟩, fs, rfl, hnoted⟩ := runs_ask.1 hnext
      obtain ⟨⟨⟩, fs, rfl, hrest⟩ := runs_ask.1 hnoted
      rcases ih hrest with ⟨failures, hpauses, rfl, rfl⟩ | ⟨failures, last, hpauses, rfl, rfl⟩
      · exact .inl ⟨(e, pause) :: failures, (List.prefix_cons_inj pause).2 hpauses, rfl, rfl⟩
      · exact .inr ⟨(e, pause) :: failures, last, congrArg (pause :: ·) hpauses, rfl, rfl⟩

def isAttempt (e : Exchange Calls) : Bool :=
  match e.request with
  | .connectDatabase _ => true
  | _ => false

theorem countP_waited (url : String) (failures : List (DbError × Nat)) :
    (waited url failures).countP isAttempt = failures.length := by
  induction failures with
  | nil => rfl
  | cons f failures ih =>
    rw [waited, List.flatMap_cons, List.countP_append, ← waited, ih, List.length_cons, Nat.add_comm]
    rfl

/-- **There are six attempts at most.** -/
theorem attempts_le {s : Settings} {r : Except ErrorChain Unit} (h : Runs (connectDatabase s) es r) :
    es.countP isAttempt ≤ 6 := by
  obtain ⟨es, fs, x, rfl, hattempts, hdone⟩ := Runs.split (p := attemptDatabase s.databaseUrl connectPauses) h
  obtain ⟨rfl, -⟩ := runs_done.1 hdone
  rw [List.append_nil]
  rcases runs_attemptDatabase hattempts with ⟨failures, hpauses, -, rfl⟩ | ⟨failures, e, hpauses, -, rfl⟩
  · have hlength : failures.length ≤ 5 := by simpa [connectPauses] using hpauses.length_le
    rw [List.countP_append, countP_waited]
    exact Nat.succ_le_succ hlength
  · have hlength : failures.length = 5 := by simpa [connectPauses] using congrArg List.length hpauses
    rw [List.countP_append, countP_waited, hlength]
    exact Nat.le_refl 6

/-! ## Without a network -/

section Offline

variable {replies : Exchange Calls → Prop} {failure : ErrorChain}

/-- a step that fails ends what it is part of, -/
theorem ensures_failed {x : Step α} {f : α → Step β} (hx : Ensures replies (· = .error failure) x.run) :
    Ensures replies (· = .error failure) (x >>= f).run := by
  rw [ExceptT.run_bind]
  refine hx.bind fun a ha => ?_
  rw [ha]
  exact ensures_done rfl

/-- and one that cannot fail is followed by others -/
theorem ensures_lift {p : Program Calls α} {f : α → Step β} (hf : ∀ a, Ensures replies (· = .error failure) (f a).run) :
    Ensures replies (· = .error failure) (ExceptT.lift p >>= f).run := by
  have hlift : Ensures replies (fun r => ∃ a, r = .ok a) (ExceptT.lift p : Step α).run :=
    (ensures_any p).bind fun a _ => ensures_done ⟨a, rfl⟩
  rw [ExceptT.run_bind]
  refine hlift.bind fun r hr => ?_
  obtain ⟨a, rfl⟩ := hr
  exact hf a

theorem attemptDatabase_fails (hreplies : ∀ r, replies ⟨.connectDatabase url, r⟩ → r = .error e) :
    Ensures replies (· = .error e) (attemptDatabase url pauses) := by
  induction pauses with
  | nil =>
    refine ensures_ask fun x hx => ?_
    rw [hreplies x hx]
    exact ensures_ask fun _ _ => ensures_done rfl
  | cons pause pauses ih =>
    refine ensures_ask fun x hx => ?_
    rw [hreplies x hx]
    exact ensures_ask fun _ _ => ensures_ask fun _ _ => ih

theorem serve_fails {s : Settings} (hreplies : ∀ r, replies ⟨.connectDatabase s.databaseUrl, r⟩ → r = .error e) :
    Ensures replies (· = .error (databaseError e)) (serve s).run := by
  have hconnect : Ensures replies (· = .error (databaseError e)) (connectDatabase s) :=
    (attemptDatabase_fails hreplies).bind fun r hr => by
      rw [hr]
      exact ensures_done rfl
  exact ensures_lift fun _ => ensures_failed hconnect

end Offline

/-- no database is reached without a network -/
theorem exists_failure (url : String) : ∃ e, Scenario.Offline.database url = .error e := by
  unfold Scenario.Offline.database
  cases Store.ConnectOptions.parse url with
  | error e => exact ⟨e, rfl⟩
  | ok options => exact ⟨Scenario.Offline.reach options.server, rfl⟩

/-- **Where nothing can be reached, the service ends with the failure of its database.** -/
theorem service_offline {env : Environment} {s : Settings} (h : Settings.load env = .ok s) (now : Time.Instant)
    (t : Scenario.Terminal) :
    ∃ e, Scenario.Offline.database s.databaseUrl = .error e ∧
      ((service env).run (Scenario.Offline.startup now) t).1 = .error ⟨"Failed to connect to database", e.chain⟩ := by
  obtain ⟨e, he⟩ := exists_failure s.databaseUrl
  refine ⟨e, he, ?_⟩
  obtain ⟨es, hruns, hreplied⟩ := exists_runs (Scenario.Offline.startup now) (service env) t
  have hserve : service env = (serve s).run := by rw [service, h]
  rw [hserve] at hruns ⊢
  refine serve_fails (fun r hr => ?_) es _ hruns hreplied.reply_eq
  obtain ⟨u, hu⟩ := hr
  exact hu.trans he

end AccountStats.Startup
