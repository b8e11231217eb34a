import Mathlib.Tactic
import AccountStats.Proofs.GitHub.Accounting
import AccountStats.Proofs.GitHub.Calling
/-
What a fetch does to the pool: every call is paid for by one lease, and settles on the credential that was leased.

The exchanges of a fetch say what becomes of the pool. Results:
- `Pool.answer_after`, `Pool.getElem?_after`: the pool after an exchange, and the credential that it may change;
- `settles_of_call`, `Settles.append`: a call is settled, and so are calls one after another;
- `Fetched.settles`: in a fetch every call is paid for and settled, and nothing else changes a credential but leasing;
- `settlesOn`: the settlement of a call, given its outcome over HTTP.
-/
namespace AccountStats.GitHub

open Program (Exchange Runs leads_done_iff_runs)

variable {es fs before later : List (Exchange Calls)} {e : Exchange Calls} {p : Pool} {i j : Nat} {tokens : List String}
  {username : String}

/-! ## The pool along exchanges -/

namespace Pool

/-- one unit of the quota of a credential is taken -/
def spend (p : Pool) (i : Nat) : Pool :=
  p.modify i fun c => { c with quota := { c.quota with remaining := c.quota.remaining - 1 } }

/-- the pool after an exchange -/
def after (p : Pool) : Exchange Calls → Pool
  | ⟨.check i, .reserved⟩ => p.spend i
  | ⟨.install i fresh, _⟩ => (p.install i fresh).2
  | ⟨.record i report, _⟩ => p.record i report
  | _ => p

/-- the pool after some exchanges -/
def along (p : Pool) (es : List (Exchange Calls)) : Pool := es.foldl after p

theorem along_append (p : Pool) (es fs : List (Exchange Calls)) : p.along (es ++ fs) = (p.along es).along fs :=
  List.foldl_append ..

theorem check_after (now : Time.Instant) : (p.check i now).2 = p.after ⟨.check i, (p.check i now).1⟩ := by
  have hspend : ∀ c, p[i]? = some c → p.spend i =
      p.set i { c with quota := { c.quota with remaining := c.quota.remaining - 1 } } := by
    intro c hc
    rw [spend, List.modify_eq_set_getElem?, hc]
    rfl
  cases hc : p[i]? with
  | none =>
    rw [check, hc]
    rfl
  | some c =>
    have hself : p.set i c = p := by
      obtain ⟨hi, rfl⟩ := List.getElem?_eq_some_iff.1 hc
      exact List.set_getElem_self hi
    simp only [check, hc, checkCredential]
    split_ifs
    · exact (hspend c hc).symm
    · exact hself
    · exact hself

/-- what the pool does is read off the exchange -/
theorem answer_after (o : Outside) (r : Ask) (p : Pool) : (answer o r p).2 = p.after ⟨r, (answer o r p).1⟩ := by
  cases r with
  | check i => exact check_after o.now
  | now | install _ _ | record _ _ | probe _ | getUser _ _ | listRepositories _ _ _ | note _ => rfl

end Pool

/-- the credential that an exchange may change -/
def touched? : Exchange Calls → Option Nat
  | ⟨.check i, .reserved⟩ => some i
  | ⟨.install i _, _⟩ => some i
  | ⟨.record i _, _⟩ => some i
  | _ => none

namespace Pool

/-- an exchange changes no other credential -/
theorem getElem?_after (h : touched? e ≠ some j) : (p.after e)[j]? = p[j]? := by
  obtain ⟨r, x⟩ := e
  cases r with
  | check i =>
    cases x with
    | reserved =>
      have hij : i ≠ j := fun hij => h (congrArg some hij)
      exact List.getElem?_modify_ne _ _ hij
    | probe | skip => rfl
  | install i fresh =>
    have hij : i ≠ j := fun hij => h (congrArg some hij)
    change (p.install i fresh).2[j]? = p[j]?
    unfold install
    cases p[i]? with
    | none => rfl
    | some c =>
      dsimp only
      split <;> exact List.getElem?_set_ne hij
  | record i report =>
    have hij : i ≠ j := fun hij => h (congrArg some hij)
    change (p.record i report)[j]? = p[j]?
    unfold record
    cases p[i]? with
    | none => rfl
    | some c => exact List.getElem?_set_ne hij
  | now | probe _ | getUser _ _ | listRepositories _ _ _ | note _ => rfl

theorem getElem?_record (report : QuotaReport) :
    (p.record i report)[i]? = p[i]?.map fun c => { c with quota := c.quota.apply report } := by
  unfold record
  cases hc : p[i]? with
  | none => exact hc
  | some c =>
    obtain ⟨hi, -⟩ := List.getElem?_eq_some_iff.1 hc
    exact List.getElem?_set_self hi

end Pool

/-! ## Calls and what is settled after them -/

/-- a call for a piece of an account, which is paid for -/
def Ask.isPaid : Ask → Bool
  | .getUser .. | .listRepositories .. => true
  | .now | .check _ | .install .. | .record .. | .probe _ | .note _ => false

/-- an exchange that may change a credential, after these exchanges -/
inductive Touches (tokens : List String) (username : String) : List (Exchange Calls) → Exchange Calls → Nat → Prop where
  /-- a unit is reserved -/
  | reserved (before : List (Exchange Calls)) (i : Nat) : Touches tokens username before ⟨.check i, .reserved⟩ i
  /-- a quota is put down that GitHub has just replied with, when it was asked for the quota of that credential -/
  | probed (before : List (Exchange Calls)) {i : Nat} {token : String} {fresh : Quota} (x : Bool) :
      tokens[i]? = some token →
      Touches tokens username (before ++ [⟨.probe token, .ok fresh⟩]) ⟨.install i fresh, x⟩ i
  /-- what is reported to a call settles on the credential that was leased for it -/
  | settled (scan : List (Exchange Calls)) {g : Exchange Calls} {i : Nat} {token : String} {piece : Piece}
      {x : Except CallError (Response piece.Body)} {report : QuotaReport} :
      grant? g = some i → tokens[i]? = some token → reportOf? x = some report →
      Touches tokens username (scan ++ [g, piece.exchange token username x]) ⟨.record i report, ()⟩ i

/-- a call: just before it a lease is granted, whose token it carries, and just after it comes its settlement -/
inductive OneCall (tokens : List String) (username : String) :
    List (Exchange Calls) → Exchange Calls → List (Exchange Calls) → Prop where
  | mk (scan rest : List (Exchange Calls)) {g : Exchange Calls} {l : Lease} {piece : Piece}
      {x : Except CallError (Response piece.Body)} : grant? g = some l.index → tokens[l.index]? = some l.token →
      OneCall tokens username (scan ++ [g]) (piece.exchange l.token username x) (settlement l (reportOf? x) ++ rest)

/-- in some exchanges every call is paid for and settled -/
structure Settles (tokens : List String) (username : String) (es : List (Exchange Calls)) : Prop where
  paid : es.countP (fun e => e.request.isPaid) = es.countP fun e => (grant? e).isSome
  calls : ∀ before e later, es = before ++ e :: later → e.request.isPaid = true →
    OneCall tokens username before e later
  touches : ∀ before e later, es = before ++ e :: later → ∀ i, touched? e = some i →
    Touches tokens username before e i

theorem OneCall.extend (h : OneCall tokens username before e later) (es fs : List (Exchange Calls)) :
    OneCall tokens username (es ++ before) e (later ++ fs) := by
  cases h with
  | @mk scan rest g l piece x hgrant htoken =>
    rw [← List.append_assoc es, List.append_assoc (settlement l (reportOf? x))]
    exact .mk (es ++ scan) (rest ++ fs) hgrant htoken

theorem Touches.extend (h : Touches tokens username before e i) (es : List (Exchange Calls)) :
    Touches tokens username (es ++ before) e i := by
  cases h with
  | reserved => exact .reserved _ i
  | probed before x htoken =>
    rw [← List.append_assoc]
    exact .probed _ x htoken
  | settled scan hgrant htoken hreport =>
    rw [← List.append_assoc]
    exact .settled _ hgrant htoken hreport

/-- an element of two lists in a row is one of the first or of the second -/
theorem split_append {α : Type} {xs ys before later : List α} {a : α} (h : xs ++ ys = before ++ a :: later) :
    (∃ between, xs = before ++ a :: between ∧ later = between ++ ys) ∨
      ∃ between, before = xs ++ between ∧ ys = between ++ a :: later := by
  rcases List.append_eq_append_iff.1 h with ⟨between, hbefore, hys⟩ | ⟨between, hxs, hlater⟩
  · exact Or.inr ⟨between, hbefore, hys⟩
  · cases between with
    | nil => exact Or.inr ⟨[], by simpa using hxs.symm, hlater.symm⟩
    | cons b between =>
      obtain ⟨rfl, rfl⟩ := List.cons.inj hlater
      exact Or.inl ⟨between, hxs, rfl⟩

/-- **Requests one after another are settled if each of them is.** -/
theorem Settles.append (hes : Settles tokens username es) (hfs : Settles tokens username fs) :
    Settles tokens username (es ++ fs) where
  paid := by rw [List.countP_append, List.countP_append, hes.paid, hfs.paid]
  calls before e later hsplit he := by
    rcases split_append hsplit with ⟨between, hbefore, rfl⟩ | ⟨between, rfl, hlater⟩
    · exact (hes.calls before e between hbefore he).extend [] fs
    · have hcall := (hfs.calls between e later hlater he).extend es []
      rwa [List.append_nil] at hcall
  touches before e later hsplit i hi := by
    rcases split_append hsplit with ⟨between, hbefore, rfl⟩ | ⟨between, rfl, hlater⟩
    · exact hes.touches before e between hbefore i hi
    · exact (hfs.touches between e later hlater i hi).extend es

/-- an exchange that is no call, grants no lease and changes no credential -/
structure Idle (e : Exchange Calls) : Prop where
  noCall : e.request.isPaid = false
  noGrant : grant? e = none
  noTouch : touched? e = none

theorem settles_of_idle (h : ∀ e ∈ es, Idle e) : Settles tokens username es where
  paid := by
    rw [List.countP_eq_zero.2 fun e he => by simp [(h e he).noCall],
      List.countP_eq_zero.2 fun e he => by simp [(h e he).noGrant]]
  calls before e later hsplit he := by
    have hidle := h e (by simp [hsplit])
    rw [hidle.noCall] at he
    cases he
  touches before e later hsplit i hi := by
    have hidle := h e (by simp [hsplit])
    rw [hidle.noTouch] at hi
    cases hi

/-! ## Leasing -/

theorem isPaid_of_isLeasing (h : e.request.isLeasing = true) : e.request.isPaid = false := by
  obtain ⟨r, x⟩ := e
  cases r with
  | check _ | install _ _ | probe _ | note _ => rfl
  | now | record _ _ | getUser _ _ | listRepositories _ _ _ => cases h

theorem idle_note (n : Note) : Idle ⟨.note n, ()⟩ := ⟨rfl, rfl, rfl⟩

/-- a call for a lease makes no call for a piece, and reserves one unit if it is granted -/
theorem leasing_of_runs {l? : Option Lease} (h : Runs (acquire tokens) es l?) :
    (∀ e ∈ es, e.request.isPaid = false) ∧
      es.countP (fun e => (grant? e).isSome) = if l?.isSome then 1 else 0 := by
  have hnone : ∀ {scan : List (Exchange Calls)}, (∀ e ∈ scan, Looks e) →
      scan.countP (fun e => (grant? e).isSome) = 0 := by
    intro scan hlooks
    exact List.countP_eq_zero.2 fun e he => by simp [(hlooks e he).noGrant]
  cases l? with
  | none =>
    obtain ⟨scan, rfl, hlooks⟩ := refused_of_runs h
    constructor
    · refine List.forall_mem_append.2 ⟨fun e he => isPaid_of_isLeasing (hlooks e he).leasing, ?_⟩
      simp [exhausted, Ask.isPaid]
    · rw [List.countP_append, hnone hlooks]
      rfl
  | some l =>
    obtain ⟨scan, g, rfl, hlooks, hleasing, -, hgrant⟩ := (granted_of_runs h).grant
    constructor
    · refine List.forall_mem_append.2 ⟨fun e he => isPaid_of_isLeasing (hlooks e he).leasing, fun e he => ?_⟩
      rw [List.mem_singleton.1 he]
      exact isPaid_of_isLeasing hleasing
    · rw [List.countP_append, hnone hlooks, List.countP_singleton, hgrant]
      rfl

/-- what a call for a lease changes: it reserves a unit, or puts down what GitHub has just replied with -/
theorem touches_of_acquire {l? : Option Lease} (h : Runs (acquire tokens) (before ++ e :: later) l?)
    (hi : touched? e = some i) : Touches tokens username before e i := by
  have hallowed : Allowed tokens before e.request := (asks_acquire tokens).of_leads (leads_done_iff_runs.2 h)
  obtain ⟨r, x⟩ := e
  cases r with
  | check j =>
    cases x with
    | reserved =>
      cases hi
      exact .reserved before i
    | probe | skip => cases hi
  | install j fresh =>
    cases hi
    obtain ⟨token, htoken, hlast⟩ := hallowed
    obtain ⟨scan, rfl⟩ := List.getLast?_eq_some_iff.1 hlast
    exact .probed scan x htoken
  | record j report => exact hallowed.elim
  | now | probe _ | getUser _ _ | listRepositories _ _ _ | note _ => cases hi

/-! ## One piece -/

/-- a request for a piece is refused a lease, or it is a call with its settlement, after which something may be noted -/
theorem Requested.cases {piece : Piece} {result : Except Failure (Response piece.Body)}
    (h : Requested tokens username piece es result) : Runs (acquire tokens) es none ∨
      ∃ leasing l x notes, es = leasing ++ piece.exchange l.token username x :: settlement l (reportOf? x) ++ notes ∧
        Runs (acquire tokens) leasing (some l) ∧ ∀ e ∈ notes, Idle e := by
  cases h with
  | refused hleasing => exact Or.inl hleasing
  | @failed leasing l err hleasing =>
    refine Or.inr ⟨leasing, l, .error err, failureNotes username err, ?_, hleasing, ?_⟩
    · rw [List.append_assoc, List.cons_append]
      rfl
    · cases err with
      | notFound _ => exact fun _ he => absurd he List.not_mem_nil
      | status _ _ | malformed _ _ | timeout | transport _ =>
        intro e he
        rw [List.mem_singleton.1 he]
        exact idle_note _
  | @replied leasing l r hleasing =>
    refine Or.inr ⟨leasing, l, .ok r, [], ?_, hleasing, fun _ he => absurd he List.not_mem_nil⟩
    rw [List.append_nil]
    rfl

/-- a settlement is one exchange at most: the record of a report for the credential that was leased -/
theorem of_settlement {l : Lease} {report? : Option QuotaReport} (h : settlement l report? = before ++ e :: later) :
    before = [] ∧ ∃ report, report? = some report ∧ e = ⟨.record l.index report, ()⟩ := by
  cases report? with
  | none => cases before <;> cases h
  | some report =>
    cases before with
    | nil =>
      obtain ⟨rfl, -⟩ := List.cons.inj h
      exact ⟨rfl, report, rfl, rfl⟩
    | cons b before =>
      obtain ⟨-, hrest⟩ := List.cons.inj h
      cases before <;> cases hrest

/-- an element of two lists with one between them is one of the first, the one between, or one of the second -/
theorem split_between {α : Type} {xs ys before later : List α} {a b : α} (h : xs ++ b :: ys = before ++ a :: later) :
    (∃ between, xs = before ++ a :: between) ∨ (before = xs ∧ a = b ∧ later = ys) ∨
      ∃ between, before = xs ++ b :: between ∧ ys = between ++ a :: later := by
  rcases split_append h with ⟨between, hxs, -⟩ | ⟨between, rfl, hrest⟩
  · exact Or.inl ⟨between, hxs⟩
  · refine Or.inr ?_
    rcases List.cons_eq_append_iff.1 hrest with ⟨rfl, heq⟩ | ⟨between, rfl, hys⟩
    · obtain ⟨rfl, rfl⟩ := List.cons.inj heq
      exact Or.inl ⟨List.append_nil xs, rfl, rfl⟩
    · exact Or.inr ⟨between, rfl, hys⟩

/-- a call with its settlement, for a lease that was granted just before -/
theorem settles_of_call {leasing : List (Exchange Calls)} {l : Lease} {piece : Piece}
    {x : Except CallError (Response piece.Body)} (hleasing : Runs (acquire tokens) leasing (some l)) :
    Settles tokens username (leasing ++ piece.exchange l.token username x :: settlement l (reportOf? x)) := by
  obtain ⟨hnoCall, hgrants⟩ := leasing_of_runs hleasing
  have hgranted := granted_of_runs hleasing
  obtain ⟨scan, g, hscan, -, -, -, hgrant⟩ := hgranted.grant
  have hcall : (piece.exchange l.token username x).request.isPaid = true ∧
      grant? (piece.exchange l.token username x) = none ∧ touched? (piece.exchange l.token username x) = none := by
    cases piece <;> exact ⟨rfl, rfl, rfl⟩
  have hsettlement : ∀ e ∈ settlement l (reportOf? x), e.request.isPaid = false ∧ (grant? e).isSome = false := by
    intro e he
    obtain ⟨before, later, hsplit⟩ := List.append_of_mem he
    obtain ⟨-, report, -, rfl⟩ := of_settlement hsplit
    exact ⟨rfl, rfl⟩
  refine ⟨?_, fun before e later hsplit he => ?_, fun before e later hsplit i hi => ?_⟩
  · have hcalls : leasing.countP (fun e => e.request.isPaid) = 0 :=
      List.countP_eq_zero.2 fun e he => Bool.eq_false_iff.1 (hnoCall e he)
    have hmoreCalls : (settlement l (reportOf? x)).countP (fun e => e.request.isPaid) = 0 :=
      List.countP_eq_zero.2 fun e he => Bool.eq_false_iff.1 (hsettlement e he).1
    have hmoreGrants : (settlement l (reportOf? x)).countP (fun e => (grant? e).isSome) = 0 :=
      List.countP_eq_zero.2 fun e he => Bool.eq_false_iff.1 (hsettlement e he).2
    rw [List.countP_append, List.countP_append, List.countP_cons, List.countP_cons, hcalls, hgrants, hmoreCalls,
      hmoreGrants, hcall.1, hcall.2.1]
    rfl
  · rcases split_between hsplit with ⟨between, hbefore⟩ | ⟨rfl, rfl, rfl⟩ | ⟨between, -, hlater⟩
    · rw [hnoCall e (by simp [hbefore])] at he
      cases he
    · rw [hscan, ← List.append_nil (settlement l (reportOf? x))]
      exact .mk scan [] hgrant hgranted.token
    · rw [(hsettlement e (by simp [hlater])).1] at he
      cases he
  · rcases split_between hsplit with ⟨between, hbefore⟩ | ⟨-, rfl, -⟩ | ⟨between, rfl, hlater⟩
    · exact touches_of_acquire (hbefore ▸ hleasing) hi
    · rw [hcall.2.2] at hi
      cases hi
    · obtain ⟨rfl, report, hreport, rfl⟩ := of_settlement hlater
      cases hi
      rw [hscan, List.append_assoc]
      exact .settled scan hgrant hgranted.token hreport

theorem settles_of_refused (hrefused : Runs (acquire tokens) es none) : Settles tokens username es := by
  obtain ⟨hnoCall, hnoGrant⟩ := leasing_of_runs hrefused
  refine ⟨?_, fun before e later hsplit he => ?_, fun before e later hsplit i hi => ?_⟩
  · rw [hnoGrant]
    exact List.countP_eq_zero.2 fun e he => Bool.eq_false_iff.1 (hnoCall e he)
  · rw [hnoCall e (by simp [hsplit])] at he
    cases he
  · exact touches_of_acquire (hsplit ▸ hrefused) hi

/-- **A request for a piece is settled**, whether it is replied to or not. -/
theorem Requested.settles {piece : Piece} {result : Except Failure (Response piece.Body)}
    (h : Requested tokens username piece es result) : Settles tokens username es := by
  rcases h.cases with hrefused | ⟨leasing, l, x, notes, rfl, hleasing, hnotes⟩
  · exact settles_of_refused hrefused
  · exact (settles_of_call hleasing).append (settles_of_idle hnotes)

theorem Paged.settles {page : UInt32} {result : Except Failure (List Repository)}
    (h : Paged tokens username page es result) : Settles tokens username es := by
  induction h with
  | failed hrequested => exact hrequested.settles
  | last hrequested _ => exact hrequested.settles
  | more hrequested _ _ ih => exact hrequested.settles.append ih

/-- **In a fetch every call is paid for and settled.** -/
theorem Fetched.settles {result : Except Failure Snapshot} (h : Fetched tokens username es result) :
    Settles tokens username es := by
  cases h with
  | noLogin _ => exact settles_of_idle fun _ he => absurd he List.not_mem_nil
  | noProfile _ hprofile => exact hprofile.settles
  | noListing _ hprofile hpages => exact hprofile.settles.append hpages.settles
  | complete now _ hprofile hpages =>
    refine (hprofile.settles.append hpages.settles).append (settles_of_idle fun e he => ?_)
    rw [List.mem_singleton.1 he]
    exact ⟨rfl, rfl, rfl⟩

/-! ## The quota after a call -/

/-- the quota after a call, which was reserved before it: what the response reports of it, and the old values where it
reports nothing -/
def Quota.settled (q : Quota) (outcome : Http.Outcome) : Quota := (reported? outcome).elim q q.apply

/-- from one pool to another, the quota of this credential has settled, and all other credentials are the same -/
structure SettlesOn (i : Nat) (outcome : Http.Outcome) (p q : Pool) : Prop where
  own : q[i]? = p[i]?.map fun c => { c with quota := c.quota.settled outcome }
  others : ∀ j, j ≠ i → q[j]? = p[j]?

theorem settlesOn (p : Pool) (l : Lease) (piece : Piece) (outcome : Http.Outcome) :
    SettlesOn l.index outcome p
      (p.along (piece.exchange l.token username (piece.read outcome) :: settlement l (reported? outcome))) := by
  have hcall : p.after (piece.exchange l.token username (piece.read outcome)) = p := by
    cases piece <;> rfl
  rw [Pool.along, List.foldl_cons, hcall]
  cases hreport : reported? outcome with
  | none =>
    have hsame : (fun c : Credential => { c with quota := c.quota.settled outcome }) = id := by
      funext c
      rw [Quota.settled, hreport]
      rfl
    exact ⟨by rw [hsame, Option.map_id]; rfl, fun _ _ => rfl⟩
  | some report =>
    have hown : (fun c : Credential => { c with quota := c.quota.settled outcome }) =
        fun c => { c with quota := c.quota.apply report } := by
      funext c
      rw [Quota.settled, hreport]
      rfl
    have htouched : touched? ⟨.record l.index report, ()⟩ = some l.index := rfl
    refine ⟨by rw [hown]; exact Pool.getElem?_record report, fun j hj => ?_⟩
    exact Pool.getElem?_after fun h => hj (Option.some.inj (htouched.symm.trans h)).symm

end AccountStats.GitHub
