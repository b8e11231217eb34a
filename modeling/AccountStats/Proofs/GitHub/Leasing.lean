import Mathlib.Tactic
import AccountStats.GitHub.Leasing
import AccountStats.Proofs.Program.Interleaving
/-
What a call for a lease asks for, wherever it has got to.

A call tries one credential after the other, and says that none was left. Results:
- `pays_acquire`: it reserved a unit of the quota of a credential if it ended with a lease on it, and no unit else;
- `Allows.acquire`: all that it asks for;
- `asks_acquire`: it puts down a quota only after GitHub has replied with that quota for the same credential.
-/
namespace AccountStats.GitHub

open Program (Exchange leads_done tells_done tells_ask asks_done asks_ask)

/-! ## One credential after the other -/

/-- the lease of the first program, or what the second comes to if there is none -/
def orElse (p q : Program Calls (Option Lease)) : Program Calls (Option Lease) :=
  p.bind fun
    | some l => .done (some l)
    | none => q

/-- tries one credential -/
def tryCredential (i : Nat) (token : String) : Program Calls (Option Lease) := do
  match ← ask (.check i) with
  | .reserved => return some ⟨i, token⟩
  | .skip => return none
  | .probe =>
    match ← ask (.probe token) with
    | .ok fresh => if ← ask (.install i fresh) then return some ⟨i, token⟩ else return none
    | .error e =>
      noteProbeFailure token e
      return none

def noteExhausted (credentials : Nat) : Program Calls (Option Lease) := do
  note (.count exhaustedCounter 1)
  note (.warn "All GitHub credentials exhausted" [("credentials", toString credentials)])
  return none

theorem leaseFrom_cons (i : Nat) (token : String) (rest : List String) :
    leaseFrom i (token :: rest) = orElse (tryCredential i token) (leaseFrom (i + 1) rest) := by
  refine congrArg (@Program.ask Calls _ (.check i)) (funext fun x => ?_)
  cases x with
  | reserved => rfl
  | skip => rfl
  | probe =>
    refine congrArg (@Program.ask Calls _ (.probe token)) (funext fun x => ?_)
    cases x with
    | ok fresh =>
      refine congrArg (@Program.ask Calls _ (.install i fresh)) (funext fun x => ?_)
      cases x <;> rfl
    | error e => cases e <;> rfl

theorem acquire_eq (tokens : List String) :
    acquire tokens = orElse (leaseFrom 0 tokens) (noteExhausted tokens.length) := by
  refine congrArg (leaseFrom 0 tokens).bind (funext fun x => ?_)
  cases x <;> rfl

/-! ## Units reserved -/

/-- a unit of the quota of a credential was reserved -/
def grants (i : Nat) : Exchange Calls → Bool
  | ⟨.check j, x⟩ => j == i && x == Pool.Check.reserved
  | ⟨.install j _, x⟩ => j == i && x
  | _ => false

/-- a call that ended with a lease on a credential -/
def leased (i : Nat) : Program Calls (Option Lease) → Bool
  | .done (some l) => l.index == i
  | _ => false

/-- so many units of a credential reserved so far, the call reserves one if it ends with a lease on it, and none else -/
abbrev Pays (i before : Nat) (p : Program Calls (Option Lease)) : Prop := p.Tells (grants i) (leased i) before

variable {i : Nat}

theorem pays_orElse {before : Nat} {p q : Program Calls (Option Lease)} (hp : Pays i before p) (hq : Pays i 0 q) :
    Pays i before (orElse p q) := by
  intro es r h
  rcases h.split with ⟨p', hp', rfl⟩ | ⟨es₁, es₂, a, rfl, hp', hq'⟩
  · -- the second program has reserved nothing yet, so it is no lease either
    have hstart : leased i q = false := by
      by_contra hleased
      have := hq [] q (.rest q)
      simp [hleased] at this
    have hsame : leased i (orElse p' q) = leased i p' := by
      match p' with
      | .done (some l) => rfl
      | .done none => exact hstart
      | .ask .. => rfl
    rw [show p'.bind _ = orElse p' q from rfl, hsame]
    exact hp es p' hp'
  · have hpaid := hp es₁ _ hp'
    rw [List.countP_append, ← Nat.add_assoc, hpaid]
    cases a with
    | none => exact hq es₂ r hq'
    | some l =>
      obtain ⟨rfl, rfl⟩ := leads_done.1 hq'
      rfl

theorem pays_tryCredential (j : Nat) (token : String) : Pays i 0 (tryCredential j token) := by
  refine tells_ask rfl fun x => ?_
  cases x with
  | reserved => exact tells_done (by simp [grants, leased])
  | skip => exact tells_done (by simp [grants, leased])
  | probe =>
    refine tells_ask (by simp [grants, leased]) fun x => ?_
    cases x with
    | ok fresh =>
      refine tells_ask (by simp [grants, leased]) fun x => ?_
      cases x <;> exact tells_done (by simp [grants, leased])
    | error e =>
      cases e <;> exact tells_ask (by simp [grants, leased]) fun _ => tells_done (by simp [grants, leased])

theorem pays_noteExhausted (credentials : Nat) : Pays i 0 (noteExhausted credentials) :=
  tells_ask rfl fun _ => tells_ask rfl fun _ => tells_done rfl

theorem pays_leaseFrom (j : Nat) (tokens : List String) : Pays i 0 (leaseFrom j tokens) := by
  induction tokens generalizing j with
  | nil => exact tells_done rfl
  | cons token rest ih =>
    rw [leaseFrom_cons]
    exact pays_orElse (pays_tryCredential j token) (ih (j + 1))

/-- **A call reserves one unit of a credential if it ends with a lease on it, and none else.** -/
theorem pays_acquire (tokens : List String) : Pays i 0 (acquire tokens) := by
  rw [acquire_eq]
  exact pays_orElse (pays_leaseFrom 0 tokens) (pays_noteExhausted tokens.length)

/-! ## What is asked for -/

/-- what may be asked for after some exchanges, such that a call may try the credentials with these tokens: check one,
ask for its quota if the check says so, and put that down -/
structure Allows (tokens : List String) (asked : List (Exchange Calls) → Ask → Prop) : Prop where
  check : ∀ i, asked [] (.check i)
  probe : ∀ i token, tokens[i]? = some token → asked [⟨.check i, Pool.Check.probe⟩] (.probe token)
  install : ∀ i token fresh, tokens[i]? = some token →
    asked [⟨.check i, Pool.Check.probe⟩, ⟨.probe token, .ok fresh⟩] (.install i fresh)
  note : ∀ es n, asked es (.note n)

section Asks

variable {tokens : List String} {asked : List (Exchange Calls) → Ask → Prop}

theorem Allows.tryCredential (h : Allows tokens asked) {j : Nat} {token : String} (hj : tokens[j]? = some token) :
    (tryCredential j token).Asks asked := by
  refine asks_ask (h.check j) fun x => ?_
  cases x with
  | reserved => exact asks_done _
  | skip => exact asks_done _
  | probe =>
    refine asks_ask (h.probe j token hj) fun x => ?_
    cases x with
    | ok fresh =>
      refine asks_ask (h.install j token fresh hj) fun x => ?_
      cases x <;> exact asks_done _
    | error e => cases e <;> exact asks_ask (h.note _ _) fun _ => asks_done _

theorem Allows.noteExhausted (h : Allows tokens asked) (credentials : Nat) : (noteExhausted credentials).Asks asked :=
  asks_ask (h.note _ _) fun _ => asks_ask (h.note _ _) fun _ => asks_done _

variable (happend : ∀ {es r}, asked es r → ∀ before, asked (before ++ es) r)
include happend

/-- what is asked for, given what came just before it, may as well be asked for by a second program -/
theorem asks_orElse {p q : Program Calls (Option Lease)} (hp : p.Asks asked) (hq : q.Asks asked) :
    (orElse p q).Asks asked := by
  refine hp.bind fun es a _ => ?_
  cases a with
  | none => exact fun es' r next h => happend (hq es' r next h) es
  | some l => exact asks_done _

theorem Allows.leaseFrom (before rest : List String) (h : Allows (before ++ rest) asked) :
    (leaseFrom before.length rest).Asks asked := by
  induction rest generalizing before with
  | nil => exact asks_done _
  | cons token rest ih =>
    have hrest : (GitHub.leaseFrom (before ++ [token]).length rest).Asks asked := by
      rw [List.append_cons] at h
      exact ih _ h
    rw [List.length_append, List.length_singleton] at hrest
    rw [leaseFrom_cons]
    exact asks_orElse happend (h.tryCredential (by simp)) hrest

/-- **A call asks for what it needs to try the credentials**, one after another, and for nothing else. -/
theorem Allows.acquire (h : Allows tokens asked) : (acquire tokens).Asks asked := by
  rw [acquire_eq]
  have hlease : (GitHub.leaseFrom 0 tokens).Asks asked := Allows.leaseFrom happend [] tokens h
  exact asks_orElse happend hlease (h.noteExhausted tokens.length)

end Asks

/-! ## Quotas put down -/

/-- what a call may ask for after these exchanges: it never records a report, and puts down a quota for a credential
only if that is what GitHub has just replied for it -/
def Allowed (tokens : List String) (es : List (Exchange Calls)) : Ask → Prop
  | .install i fresh => ∃ token, tokens[i]? = some token ∧ es.getLast? = some ⟨.probe token, .ok fresh⟩
  | .record .. => False
  | _ => True

variable {tokens : List String}

theorem Allowed.append {es : List (Exchange Calls)} {r : Ask} (h : Allowed tokens es r)
    (before : List (Exchange Calls)) : Allowed tokens (before ++ es) r := by
  match r with
  | .install i fresh =>
    obtain ⟨token, hi, hlast⟩ := h
    exact ⟨token, hi, by rw [List.getLast?_append, hlast]; rfl⟩
  | .record .. => exact h
  | .now | .check _ | .probe _ | .getUser .. | .listRepositories .. | .note _ => trivial

/-- **A call puts down a quota for a credential only if GitHub has just replied with it.** -/
theorem asks_acquire (tokens : List String) : (acquire tokens).Asks (Allowed tokens) := by
  have hallows : Allows tokens (Allowed tokens) :=
    { check := fun _ => trivial
      probe := fun _ _ _ => trivial
      install := fun _ token _ hi => ⟨token, hi, rfl⟩
      note := fun _ _ => trivial }
  exact hallows.acquire Allowed.append

end AccountStats.GitHub
