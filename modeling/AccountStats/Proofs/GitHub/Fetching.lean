import Mathlib.Tactic
import AccountStats.GitHub.Fetch
import AccountStats.Proofs.GitHub.Leasing
import AccountStats.Proofs.Program.Running
/-
The exchanges of a fetch.

A fetch is made of requests for its pieces, the profile and the pages, each of which is paid for by a lease of its own.
What a program exchanges is told by an inductive relation for each program, one constructor for each way it can go.
Results:
- `runs_leaseFrom`, `granted_of_runs`, `refused_of_runs`: a call for a lease that is granted, and one that is refused;
- `runs_request`: a request for a piece is refused, fails or is replied to;
- `paged_of_runs`, `runs_fetchAccount_iff`: a listing, and a fetch.
-/
namespace AccountStats.GitHub

open Program (Exchange Runs runs_ask runs_done)

variable {es : List (Exchange Calls)} {l? : Option Lease} {l : Lease} {i : Nat} {token username : String}
  {tokens : List String}

/-! ## Leasing -/

/-- what is noted of a probe that has failed -/
def probeNotes (token : String) : ProbeError → List (Exchange Calls)
  | .failed e =>
    [⟨.note (.warn "Quota probe failed" [("credential", maskToken token), ("error", e.text)]), ()⟩]
  | .timedOut => [⟨.note (.warn "Quota probe timed out" [("credential", maskToken token)]), ()⟩]

/-- one credential is tried -/
inductive Tried (i : Nat) (token : String) : List (Exchange Calls) → Option Lease → Prop where
  | reserved : Tried i token [⟨.check i, .reserved⟩] (some ⟨i, token⟩)
  | skipped : Tried i token [⟨.check i, .skip⟩] none
  | refilled (fresh : Quota) :
      Tried i token [⟨.check i, .probe⟩, ⟨.probe token, .ok fresh⟩, ⟨.install i fresh, true⟩] (some ⟨i, token⟩)
  | empty (fresh : Quota) :
      Tried i token [⟨.check i, .probe⟩, ⟨.probe token, .ok fresh⟩, ⟨.install i fresh, false⟩] none
  | unknown (e : ProbeError) :
      Tried i token (⟨.check i, .probe⟩ :: ⟨.probe token, .error e⟩ :: probeNotes token e) none

theorem runs_tryCredential : Runs (tryCredential i token) es l? ↔ Tried i token es l? := by
  constructor
  · intro h
    obtain ⟨x, rest, rfl, hrest⟩ := runs_ask.1 h
    cases x with
    | reserved =>
      obtain ⟨rfl, rfl⟩ := runs_done.1 hrest
      exact .reserved
    | skip =>
      obtain ⟨rfl, rfl⟩ := runs_done.1 hrest
      exact .skipped
    | probe =>
      obtain ⟨x, rest, rfl, hprobed⟩ := runs_ask.1 hrest
      cases x with
      | ok fresh =>
        obtain ⟨x, rest, rfl, hinstalled⟩ := runs_ask.1 hprobed
        cases x with
        | true =>
          obtain ⟨rfl, rfl⟩ := runs_done.1 hinstalled
          exact .refilled fresh
        | false =>
          obtain ⟨rfl, rfl⟩ := runs_done.1 hinstalled
          exact .empty fresh
      | error e =>
        cases e with
        | failed e =>
          obtain ⟨_, rest, rfl, hdone⟩ := runs_ask.1 hprobed
          obtain ⟨rfl, rfl⟩ := runs_done.1 hdone
          exact .unknown (.failed e)
        | timedOut =>
          obtain ⟨_, rest, rfl, hdone⟩ := runs_ask.1 hprobed
          obtain ⟨rfl, rfl⟩ := runs_done.1 hdone
          exact .unknown .timedOut
  · rintro (_ | _ | fresh | fresh | e)
    · exact .ask (.done _)
    · exact .ask (.done _)
    · exact .ask (.ask (.ask (.done _)))
    · exact .ask (.ask (.ask (.done _)))
    · cases e <;> exact .ask (.ask (.ask (.done _)))

theorem runs_orElse {p q : Program Calls (Option Lease)} : Runs (orElse p q) es l? ↔
    (∃ l, l? = some l ∧ Runs p es (some l)) ∨ ∃ es₁ es₂, es = es₁ ++ es₂ ∧ Runs p es₁ none ∧ Runs q es₂ l? := by
  constructor
  · intro h
    obtain ⟨es₁, es₂, first?, rfl, hp, hrest⟩ := Runs.split h
    cases first? with
    | none => exact Or.inr ⟨es₁, es₂, rfl, hp, hrest⟩
    | some l =>
      obtain ⟨rfl, rfl⟩ := runs_done.1 hrest
      rw [List.append_nil]
      exact Or.inl ⟨l, rfl, hp⟩
  · rintro (⟨l, rfl, hp⟩ | ⟨es₁, es₂, rfl, hp, hq⟩)
    · rw [← List.append_nil es]
      exact hp.append (.done _)
    · exact hp.append hq

/-- the credentials with these tokens, the first of which stands at `i`, are tried one after the other, up to the one
that is leased -/
inductive Scan : Nat → List String → List (Exchange Calls) → Option Lease → Prop where
  | atEnd (i : Nat) : Scan i [] [] none
  | here {i : Nat} {token : String} {rest : List String} {es : List (Exchange Calls)} {l : Lease} :
      Tried i token es (some l) → Scan i (token :: rest) es (some l)
  | on {i : Nat} {token : String} {rest : List String} {es fs : List (Exchange Calls)} {l? : Option Lease} :
      Tried i token es none → Scan (i + 1) rest fs l? → Scan i (token :: rest) (es ++ fs) l?

theorem runs_leaseFrom : Runs (leaseFrom i tokens) es l? ↔ Scan i tokens es l? := by
  induction tokens generalizing i es with
  | nil =>
    constructor
    · intro h
      obtain ⟨rfl, rfl⟩ := runs_done.1 h
      exact .atEnd i
    · rintro ⟨⟩
      exact .done _
  | cons token rest ih =>
    rw [leaseFrom_cons, runs_orElse]
    constructor
    · rintro (⟨l, rfl, htried⟩ | ⟨es₁, es₂, rfl, htried, hrest⟩)
      · exact .here (runs_tryCredential.1 htried)
      · exact .on (runs_tryCredential.1 htried) (ih.1 hrest)
    · intro h
      cases h with
      | @here _ _ _ _ l htried => exact Or.inl ⟨l, rfl, runs_tryCredential.2 htried⟩
      | on htried hrest => exact Or.inr ⟨_, _, rfl, runs_tryCredential.2 htried, ih.2 hrest⟩

/-- what is noted when no lease is granted -/
def exhausted (credentials : Nat) : List (Exchange Calls) :=
  [⟨.note (.count exhaustedCounter 1), ()⟩,
    ⟨.note (.warn "All GitHub credentials exhausted" [("credentials", toString credentials)]), ()⟩]

/-! ## Granted and refused -/

/-- the steps of a call for a lease -/
def Ask.isLeasing : Ask → Bool
  | .check _ | .probe _ | .install .. | .note _ => true
  | .now | .record .. | .getUser .. | .listRepositories .. => false

/-- the credential that a unit was reserved of, if one was, which is then leased -/
def grant? : Exchange Calls → Option Nat
  | ⟨.check i, .reserved⟩ => some i
  | ⟨.install i _, true⟩ => some i
  | _ => none

/-- it is counted that a lease was refused -/
def isRefusal : Exchange Calls → Bool
  | ⟨.note (.count c _), _⟩ => c = exhaustedCounter
  | _ => false

/-- a step of a call for a lease that neither grants nor refuses it -/
structure Looks (e : Exchange Calls) : Prop where
  leasing : e.request.isLeasing = true
  noGrant : grant? e = none
  noRefusal : isRefusal e = false

/-- a call for a lease that was granted: it has looked around, and then reserved a unit of the credential -/
structure Granted (tokens : List String) (es : List (Exchange Calls)) (l : Lease) : Prop where
  token : tokens[l.index]? = some l.token
  grant : ∃ scan g, es = scan ++ [g] ∧ (∀ e ∈ scan, Looks e) ∧ g.request.isLeasing = true ∧ isRefusal g = false ∧
    grant? g = some l.index

theorem Tried.looks (h : Tried i token es none) : ∀ e ∈ es, Looks e := by
  cases h with
  | skipped => simpa using ⟨rfl, rfl, rfl⟩
  | empty fresh => simpa using ⟨⟨rfl, rfl, rfl⟩, ⟨rfl, rfl, rfl⟩, ⟨rfl, rfl, rfl⟩⟩
  | unknown e => cases e <;> simpa [probeNotes] using ⟨⟨rfl, rfl, rfl⟩, ⟨rfl, rfl, rfl⟩, ⟨rfl, rfl, rfl⟩⟩

theorem Tried.granted (h : Tried i token es (some l)) : l = ⟨i, token⟩ ∧ ∃ scan g, es = scan ++ [g] ∧
    (∀ e ∈ scan, Looks e) ∧ g.request.isLeasing = true ∧ isRefusal g = false ∧ grant? g = some i := by
  cases h with
  | reserved => exact ⟨rfl, [], _, rfl, fun _ he => absurd he List.not_mem_nil, rfl, rfl, rfl⟩
  | refilled fresh =>
    refine ⟨rfl, [⟨.check i, .probe⟩, ⟨.probe token, .ok fresh⟩], _, rfl, ?_, rfl, rfl, rfl⟩
    simpa using ⟨⟨rfl, rfl, rfl⟩, ⟨rfl, rfl, rfl⟩⟩

theorem Scan.granted {before : List String} (h : Scan before.length tokens es (some l)) :
    Granted (before ++ tokens) es l := by
  generalize hi : before.length = i at h
  generalize hl : some l = l? at h
  induction h generalizing before with
  | atEnd _ => cases hl
  | @here _ token rest _ _ htried =>
    cases hl
    subst hi
    obtain ⟨rfl, hgrant⟩ := htried.granted
    exact ⟨by simp, hgrant⟩
  | @on _ token rest es fs _ htried hscan ih =>
    subst hi hl
    have hrest : Granted (before ++ [token] ++ rest) fs l := ih (by simp) rfl
    rw [← List.append_cons] at hrest
    obtain ⟨scan, g, rfl, hlooks, hgrant⟩ := hrest.grant
    refine ⟨hrest.token, es ++ scan, g, (List.append_assoc ..).symm, ?_, hgrant⟩
    exact List.forall_mem_append.2 ⟨htried.looks, hlooks⟩

theorem Scan.looks (h : Scan i tokens es none) : ∀ e ∈ es, Looks e := by
  generalize hl : none = l? at h
  induction h with
  | atEnd _ => exact fun _ he => absurd he List.not_mem_nil
  | here _ => cases hl
  | on htried _ ih => exact List.forall_mem_append.2 ⟨htried.looks, ih hl⟩

theorem granted_of_runs (h : Runs (acquire tokens) es (some l)) : Granted tokens es l := by
  rw [acquire_eq, runs_orElse] at h
  rcases h with ⟨l, ⟨⟩, hscan⟩ | ⟨scan, rest, -, -, hnoted⟩
  · have hgranted : Granted ([] ++ tokens) es l := Scan.granted (runs_leaseFrom.1 hscan)
    exact hgranted
  · obtain ⟨_, rest, -, hwarned⟩ := runs_ask.1 hnoted
    obtain ⟨_, rest, -, hdone⟩ := runs_ask.1 hwarned
    cases (runs_done.1 hdone).2

theorem refused_of_runs (h : Runs (acquire tokens) es none) :
    ∃ scan, es = scan ++ exhausted tokens.length ∧ ∀ e ∈ scan, Looks e := by
  rw [acquire_eq, runs_orElse] at h
  rcases h with ⟨l, ⟨⟩, -⟩ | ⟨scan, rest, rfl, hscan, hnoted⟩
  obtain ⟨⟨⟩, rest, rfl, hwarned⟩ := runs_ask.1 hnoted
  obtain ⟨⟨⟩, rest, rfl, hdone⟩ := runs_ask.1 hwarned
  obtain ⟨rfl, -⟩ := runs_done.1 hdone
  exact ⟨scan, rfl, (runs_leaseFrom.1 hscan).looks⟩

/-! ## One piece of an account -/

/-- what is requested of an account, each for a lease -/
inductive Piece where
  | profile
  | page (number : UInt32)

namespace Piece

abbrev Body : Piece → Type
  | .profile => User
  | .page _ => List ListedRepository

/-- the call for a piece -/
def call (token username : String) : (piece : Piece) → Program Calls (Except CallError (Response piece.Body))
  | .profile => ask (.getUser token username)
  | .page number => ask (.listRepositories token username number)

/-- the call, and the reply to it -/
def exchange (token username : String) : (piece : Piece) → Except CallError (Response piece.Body) → Exchange Calls
  | .profile, x => ⟨.getUser token username, x⟩
  | .page number, x => ⟨.listRepositories token username number, x⟩

theorem runs_call {piece : Piece} {α : Type} {next : Except CallError (Response piece.Body) → Program Calls α} {a : α} :
    Runs (piece.call token username >>= next) es a ↔
      ∃ x rest, es = piece.exchange token username x :: rest ∧ Runs (next x) rest a := by
  cases piece <;> exact runs_ask

end Piece

/-- one piece of an account, paid for by a lease -/
def request (tokens : List String) (username : String) (piece : Piece) :
    Program Calls (Except Failure (Response piece.Body)) := do
  match ← leaseFor tokens username with
  | .error f => return .error f
  | .ok l => conclude username l (← piece.call l.token username)

/-- what a report is settled with -/
def settlement (l : Lease) : Option QuotaReport → List (Exchange Calls)
  | some report => [⟨.record l.index report, ()⟩]
  | none => []

/-- what a failed call means for an account -/
def failure (username : String) : CallError → Failure
  | .notFound _ => .accountNotFound username
  | e => .gitHubUnavailable username e.text

/-- what is noted of a failed call; that there is no such account is no cause for concern -/
def failureNotes (username : String) : CallError → List (Exchange Calls)
  | .notFound _ => []
  | e => [⟨.note (.warn "GitHub request failed" [("username", username), ("error", e.text)]), ()⟩]

theorem runs_failureOf {e : CallError} {f : Failure} :
    Runs (failureOf username e) es f ↔ es = failureNotes username e ∧ f = failure username e := by
  cases e with
  | notFound report => exact runs_done
  | status _ _ | malformed _ _ | timeout | transport _ =>
    constructor
    · intro h
      obtain ⟨⟨⟩, rest, rfl, hdone⟩ := runs_ask.1 h
      obtain ⟨rfl, rfl⟩ := runs_done.1 hdone
      exact ⟨rfl, rfl⟩
    · rintro ⟨rfl, rfl⟩
      exact .ask (.done _)

theorem runs_settle {report? : Option QuotaReport} :
    Runs (settle l report?) es () ↔ es = settlement l report? := by
  cases report? with
  | none => exact runs_done.trans (and_iff_left rfl)
  | some report =>
    constructor
    · intro h
      obtain ⟨⟨⟩, rest, rfl, hdone⟩ := runs_ask.1 h
      obtain ⟨rfl, -⟩ := runs_done.1 hdone
      rfl
    · rintro rfl
      exact .ask (.done _)

/-- the exchanges of a request for a piece -/
inductive Requested (tokens : List String) (username : String) (piece : Piece) :
    List (Exchange Calls) → Except Failure (Response piece.Body) → Prop where
  | refused {leasing : List (Exchange Calls)} : Runs (acquire tokens) leasing none →
      Requested tokens username piece leasing (.error (.noQuotaLeft username))
  | failed {leasing : List (Exchange Calls)} {l : Lease} (e : CallError) : Runs (acquire tokens) leasing (some l) →
      Requested tokens username piece
        (leasing ++ piece.exchange l.token username (.error e) :: (settlement l e.report? ++ failureNotes username e))
        (.error (failure username e))
  | replied {leasing : List (Exchange Calls)} {l : Lease} (r : Response piece.Body) :
      Runs (acquire tokens) leasing (some l) →
      Requested tokens username piece
        (leasing ++ piece.exchange l.token username (.ok r) :: settlement l (some r.report)) (.ok r)

theorem runs_leaseFor {leased : Except Failure Lease} : Runs (leaseFor tokens username) es leased ↔
    ∃ l?, Runs (acquire tokens) es l? ∧ leased = l?.elim (.error (.noQuotaLeft username)) .ok := by
  constructor
  · intro h
    obtain ⟨leasing, rest, l?, rfl, hleasing, hrest⟩ := Runs.split (p := acquire tokens) h
    refine ⟨l?, ?_⟩
    cases l? <;> obtain ⟨rfl, rfl⟩ := runs_done.1 hrest <;> rw [List.append_nil] <;> exact ⟨hleasing, rfl⟩
  · rintro ⟨l?, hleasing, rfl⟩
    rw [← List.append_nil es]
    refine hleasing.append ?_
    cases l? <;> exact .done _

theorem runs_conclude_ok {α : Type} {r : Response α} {result : Except Failure (Response α)} :
    Runs (conclude username l (.ok r)) es result ↔ es = settlement l (some r.report) ∧ result = .ok r := by
  constructor
  · intro h
    obtain ⟨settled, rest, ⟨⟩, rfl, hsettled, hdone⟩ := Runs.split (p := settle l (some r.report)) h
    obtain ⟨rfl, rfl⟩ := runs_done.1 hdone
    rw [List.append_nil]
    exact ⟨runs_settle.1 hsettled, rfl⟩
  · rintro ⟨rfl, rfl⟩
    exact (runs_settle.2 rfl).append (.done _)

theorem runs_conclude_error {α : Type} {e : CallError} {result : Except Failure (Response α)} :
    Runs (conclude username l (.error e)) es result ↔
      es = settlement l e.report? ++ failureNotes username e ∧ result = .error (failure username e) := by
  constructor
  · intro h
    obtain ⟨settled, rest, ⟨⟩, rfl, hsettled, hrest⟩ := Runs.split (p := settle l e.report?) h
    obtain ⟨notes, rest, f, rfl, hnotes, hdone⟩ := Runs.split (p := failureOf username e) hrest
    obtain ⟨rfl, rfl⟩ := runs_failureOf.1 hnotes
    obtain ⟨rfl, rfl⟩ := runs_done.1 hdone
    rw [List.append_nil, runs_settle.1 hsettled]
    exact ⟨rfl, rfl⟩
  · rintro ⟨rfl, rfl⟩
    refine (runs_settle.2 rfl).append ?_
    rw [← List.append_nil (failureNotes username e)]
    exact (runs_failureOf.2 ⟨rfl, rfl⟩).append (.done _)

/-- **A request for a piece** is refused, fails or is replied to. -/
theorem runs_request {piece : Piece} {result : Except Failure (Response piece.Body)} :
    Runs (request tokens username piece) es result ↔ Requested tokens username piece es result := by
  constructor
  · intro h
    obtain ⟨leasing, rest, leased, rfl, hleased, hrest⟩ := Runs.split (p := leaseFor tokens username) h
    obtain ⟨l?, hleasing, rfl⟩ := runs_leaseFor.1 hleased
    cases l? with
    | none =>
      obtain ⟨rfl, rfl⟩ := runs_done.1 hrest
      rw [List.append_nil]
      exact .refused hleasing
    | some l =>
      obtain ⟨x, rest, rfl, hconclude⟩ := Piece.runs_call.1 hrest
      cases x with
      | error e =>
        obtain ⟨rfl, rfl⟩ := runs_conclude_error.1 hconclude
        exact .failed e hleasing
      | ok r =>
        obtain ⟨rfl, rfl⟩ := runs_conclude_ok.1 hconclude
        exact .replied r hleasing
  · rintro (hleasing | ⟨e, hleasing⟩ | ⟨r, hleasing⟩)
    · rw [← List.append_nil es]
      exact (runs_leaseFor.2 ⟨none, hleasing, rfl⟩).append (.done _)
    · refine (runs_leaseFor.2 ⟨some _, hleasing, rfl⟩).append ?_
      exact Piece.runs_call.2 ⟨_, _, rfl, runs_conclude_error.2 ⟨rfl, rfl⟩⟩
    · refine (runs_leaseFor.2 ⟨some _, hleasing, rfl⟩).append ?_
      exact Piece.runs_call.2 ⟨_, _, rfl, runs_conclude_ok.2 ⟨rfl, rfl⟩⟩

/-! ## Pages -/

/-- the page that a listing goes on to: the next one, if it has a greater number -/
def nextAfter (page : UInt32) (r : Response (List ListedRepository)) : Option UInt32 := r.nextPage.filter (page < ·)

/-- the exchanges of a listing from one page on -/
inductive Paged (tokens : List String) (username : String) :
    UInt32 → List (Exchange Calls) → Except Failure (List Repository) → Prop where
  | failed {page : UInt32} {es : List (Exchange Calls)} {f : Failure} :
      Requested tokens username (.page page) es (.error f) → Paged tokens username page es (.error f)
  | last {page : UInt32} {es : List (Exchange Calls)} {r : Response (List ListedRepository)} :
      Requested tokens username (.page page) es (.ok r) → nextAfter page r = none →
      Paged tokens username page es (.ok (repositoriesOn r))
  | more {page next : UInt32} {es fs : List (Exchange Calls)} {r : Response (List ListedRepository)}
      {rest : Except Failure (List Repository)} :
      Requested tokens username (.page page) es (.ok r) → nextAfter page r = some next →
      Paged tokens username next fs rest → Paged tokens username page (es ++ fs) (rest.map (repositoriesOn r ++ ·))

/-- what follows a page that has been read -/
def pagesAfter (tokens : List String) (username : String) (page : UInt32) (r : Response (List ListedRepository)) :
    Program Calls (Except Failure (List Repository)) :=
  match nextAfter page r with
  | none => return .ok (repositoriesOn r)
  | some next => do return (← fetchPages tokens username next).map (repositoriesOn r ++ ·)

theorem fetchPages_eq (tokens : List String) (username : String) (page : UInt32) :
    fetchPages tokens username page = request tokens username (.page page) >>= fun
      | .error f => return .error f
      | .ok r => pagesAfter tokens username page r := by
  rw [fetchPages, request, bind_assoc]
  refine congrArg (leaseFor tokens username >>= ·) (funext fun leased => ?_)
  cases leased with
  | error f => rfl
  | ok l =>
    refine congrArg (@Program.ask Calls _ (.listRepositories l.token username page)) (funext fun x => ?_)
    refine congrArg (conclude username l x >>= ·) (funext fun result => ?_)
    cases result with
    | error f => rfl
    | ok r =>
      dsimp only [pagesAfter, nextAfter]
      cases r.nextPage with
      | none => rfl
      | some next =>
        dsimp only
        by_cases hlt : page < next
        · have hnext : Option.filter (fun next => decide (page < next)) (some next) = some next := by simp [hlt]
          rw [if_pos hlt, hnext]
          refine congrArg (fetchPages tokens username next >>= ·) (funext fun rest => ?_)
          cases rest <;> rfl
        · have hlast : Option.filter (fun next => decide (page < next)) (some next) = none := by
            simpa using hlt
          rw [if_neg hlt, hlast]

theorem nextAfter_eq_some {page next : UInt32} {r : Response (List ListedRepository)} :
    nextAfter page r = some next ↔ r.nextPage = some next ∧ page < next := by
  rw [nextAfter, Option.filter_eq_some_iff, decide_eq_true_iff]

/-- **A listing** goes from page to page until one names no page after it, or fails. -/
theorem paged_of_runs (page : UInt32) {es : List (Exchange Calls)} {result : Except Failure (List Repository)}
    (h : Runs (fetchPages tokens username page) es result) : Paged tokens username page es result := by
  rw [fetchPages_eq] at h
  obtain ⟨requested, rest, outcome, rfl, hrequested, hrest⟩ := Runs.split (p := request tokens username (.page page)) h
  rw [runs_request] at hrequested
  cases outcome with
  | error f =>
    obtain ⟨rfl, rfl⟩ := runs_done.1 hrest
    rw [List.append_nil]
    exact .failed hrequested
  | ok r =>
    dsimp only [pagesAfter] at hrest
    cases hnext : nextAfter page r with
    | none =>
      rw [hnext] at hrest
      obtain ⟨rfl, rfl⟩ := runs_done.1 hrest
      rw [List.append_nil]
      exact .last hrequested hnext
    | some next =>
      rw [hnext] at hrest
      obtain ⟨pages, rest, more, rfl, hpages, hdone⟩ := Runs.split (p := fetchPages tokens username next) hrest
      obtain ⟨rfl, rfl⟩ := runs_done.1 hdone
      rw [List.append_nil]
      have hlt := (nextAfter_eq_some.1 hnext).2
      exact .more hrequested hnext (paged_of_runs next hpages)
termination_by 4294967296 - page.toNat
decreasing_by
  have := UInt32.lt_iff_toNat_lt.1 hlt
  have := next.toNat_lt
  omega

theorem Paged.runs {page : UInt32} {result : Except Failure (List Repository)}
    (h : Paged tokens username page es result) : Runs (fetchPages tokens username page) es result := by
  induction h with
  | @failed page es f hrequested =>
    rw [fetchPages_eq, ← List.append_nil es]
    exact (runs_request.2 hrequested).append (.done _)
  | @last page es r hrequested hlast =>
    rw [fetchPages_eq, ← List.append_nil es]
    refine (runs_request.2 hrequested).append ?_
    dsimp only [pagesAfter]
    rw [hlast]
    exact .done _
  | @more page next es fs r rest hrequested hnext _ ih =>
    rw [fetchPages_eq]
    refine (runs_request.2 hrequested).append ?_
    dsimp only [pagesAfter]
    rw [hnext, ← List.append_nil fs]
    exact ih.append (.done _)

/-! ## Accounts -/

/-- the exchanges of a fetch -/
inductive Fetched (tokens : List String) (username : String) : List (Exchange Calls) → Except Failure Snapshot → Prop
    where
  | noLogin : isLogin username = false → Fetched tokens username [] (.error (.accountNotFound username))
  | noProfile {es : List (Exchange Calls)} {f : Failure} : isLogin username = true →
      Requested tokens username .profile es (.error f) → Fetched tokens username es (.error f)
  | noListing {es fs : List (Exchange Calls)} {user : Response User} {f : Failure} : isLogin username = true →
      Requested tokens username .profile es (.ok user) → Paged tokens username 1 fs (.error f) →
      Fetched tokens username (es ++ fs) (.error f)
  | complete {es fs : List (Exchange Calls)} {user : Response User} {repositories : List Repository}
      (now : Time.Instant) : isLogin username = true → Requested tokens username .profile es (.ok user) →
      Paged tokens username 1 fs (.ok repositories) →
      Fetched tokens username (es ++ fs ++ [⟨.now, now⟩]) (.ok ⟨user.body.toProfile, repositories, now⟩)

theorem fetchUser_eq (tokens : List String) (username : String) :
    fetchUser tokens username = request tokens username .profile >>= fun
      | .error f => return .error f
      | .ok r => return .ok r.body := by
  rw [fetchUser, request, bind_assoc]
  refine congrArg (leaseFor tokens username >>= ·) (funext fun leased => ?_)
  cases leased <;> rfl

/-- **A fetch**: nothing is asked for a text that is no login; the profile comes first, and then the pages. -/
theorem runs_fetchAccount_iff {result : Except Failure Snapshot} :
    Runs (fetchAccount tokens username) es result ↔ Fetched tokens username es result := by
  rw [fetchAccount, fetchUser_eq]
  constructor
  · intro h
    cases hlogin : isLogin username with
    | false =>
      rw [hlogin, if_neg Bool.false_ne_true] at h
      obtain ⟨rfl, rfl⟩ := runs_done.1 h
      exact .noLogin hlogin
    | true =>
      rw [hlogin, if_pos rfl, bind_assoc] at h
      obtain ⟨profile, rest, outcome, rfl, hprofile, hrest⟩ := Runs.split (p := request tokens username .profile) h
      rw [runs_request] at hprofile
      cases outcome with
      | error f =>
        obtain ⟨rfl, rfl⟩ := runs_done.1 hrest
        rw [List.append_nil]
        exact .noProfile hlogin hprofile
      | ok user =>
        obtain ⟨pages, rest, listed, rfl, hpages, hlisted⟩ := Runs.split (p := fetchPages tokens username 1) hrest
        cases listed with
        | error f =>
          obtain ⟨rfl, rfl⟩ := runs_done.1 hlisted
          rw [List.append_nil]
          exact .noListing hlogin hprofile (paged_of_runs 1 hpages)
        | ok repositories =>
          obtain ⟨now, rest, rfl, hdone⟩ := runs_ask.1 hlisted
          obtain ⟨rfl, rfl⟩ := runs_done.1 hdone
          rw [← List.append_assoc]
          exact .complete now hlogin hprofile (paged_of_runs 1 hpages)
  · intro h
    cases h with
    | noLogin hlogin =>
      rw [hlogin, if_neg Bool.false_ne_true]
      exact .done _
    | noProfile hlogin hprofile =>
      rw [hlogin, if_pos rfl, bind_assoc, ← List.append_nil es]
      exact (runs_request.2 hprofile).append (.done _)
    | @noListing es fs user f hlogin hprofile hpages =>
      rw [hlogin, if_pos rfl, bind_assoc, ← List.append_nil fs]
      exact (runs_request.2 hprofile).append (hpages.runs.append (.done _))
    | complete now hlogin hprofile hpages =>
      rw [hlogin, if_pos rfl, bind_assoc, List.append_assoc]
      exact (runs_request.2 hprofile).append (hpages.runs.append (.ask (.done _)))

end AccountStats.GitHub
