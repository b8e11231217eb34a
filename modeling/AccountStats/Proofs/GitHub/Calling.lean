import Mathlib.Tactic
import AccountStats.Proofs.GitHub.Fetching
import AccountStats.Proofs.GitHub.Targets
/-
A call over the network: what is sent for it, and what it reads.

A call reads what the HTTP library returns for its request. That is the last response: in those before it, which redirect
the call, nothing else is looked at. Results:
- `runs_call_iff`, `runs_deliver_piece`: a call is what the library sends for it, and reads what the library returns;
- `reportOf?_read`: what a call reports of the quota is what the headers of that response say.
-/
namespace AccountStats.GitHub

open Http (Library Sending)
open Program (Exchange Runs runs_done)

variable {α : Type} {lib : Library} {c : Client} {token path username : String} {r : Http.Get}
  {hops : List (Exchange WiredCalls)} {outcome : Http.Outcome}

/-! ## Requests -/

/-- what is sent over the network in a call for a target, relative to the base URL, and what comes of it. The first
request goes to that target and shows the token; there is none if no header can hold it. -/
inductive Carried (lib : Library) (c : Client) (token path : String) :
    List (Exchange WiredCalls) → Http.Outcome → Prop where
  | unmade : c.request? token path = none → Carried lib c token path [] (.failed Client.unmade)
  | sent {r : Http.Get} {es : List (Exchange Sending)} {outcome : Http.Outcome} :
      r.url = c.base ++ path → ("authorization", "Bearer " ++ token) ∈ r.headers → lib.Delivered r es outcome →
      Carried lib c token path (es.map asGet) outcome

theorem request?_shows (h : c.request? token path = some r) : ("authorization", "Bearer " ++ token) ∈ r.headers := by
  unfold Client.request? at h
  dsimp only at h
  split at h
  · cases h
    simp
  · cases h

/-- **A call reads what the library returns for it.** -/
theorem runs_call_iff (hlib : lib.Documented) {body? : Json → Option α} {x : Except CallError (Response α)}
    (h : Runs ((c.call token path body?).through (carry lib)) hops x) :
    ∃ outcome, Carried lib c token path hops outcome ∧ x = Client.read body? outcome := by
  unfold Client.call at h
  split at h
  · next hnone =>
    obtain ⟨rfl, rfl⟩ := runs_done.1 h
    exact ⟨_, .unmade hnone, rfl⟩
  · next r hr =>
    obtain ⟨hops, rest, outcome, rfl, hhops, hdone⟩ := Runs.split (p := gets (lib.send r)) h
    obtain ⟨rfl, rfl⟩ := runs_done.1 hdone
    obtain ⟨es, hes, rfl⟩ := runs_gets.1 hhops
    rw [List.append_nil]
    exact ⟨outcome, .sent (url_of_request? hr) (request?_shows hr) (hlib.delivered hes), rfl⟩

/-! ## Reports -/

/-- what the outcome of a call reports of the quota: what the headers of a response say, whatever its status and its
body, unless a body that was to be read is late -/
def reported? : Http.Outcome → Option QuotaReport
  | .response status headers .late => if 200 ≤ status ∧ status < 300 then none else some (.ofHeaders headers)
  | .response _ headers _ => some (.ofHeaders headers)
  | .timeout | .failed _ => none

theorem reportOf?_read (body? : Json → Option α) (outcome : Http.Outcome) :
    reportOf? (Client.read body? outcome) = reported? outcome := by
  cases outcome with
  | timeout => rfl
  | failed message => rfl
  | response status headers body =>
    dsimp only [Client.read]
    split_ifs with hmissing hstatus
    · subst hmissing
      cases body <;> rfl
    · have hno : ¬(200 ≤ status ∧ status < 300) := by omega
      cases body with
      | whole bytes => rfl
      | cut => rfl
      | late => exact (if_neg hno).symm
    · have hyes : 200 ≤ status ∧ status < 300 := by omega
      cases body with
      | whole bytes =>
        dsimp only
        cases Json.readBytes bytes >>= body? <;> rfl
      | cut => rfl
      | late => exact (if_pos hyes).symm

namespace Piece

/-- where the call for a piece goes, relative to the base URL -/
def target (username : String) : Piece → String
  | .profile => Client.userTarget username
  | .page number => Client.listingTarget username number

/-- the reply to the call for a piece, given the outcome -/
def read : (piece : Piece) → Http.Outcome → Except CallError (Response piece.Body)
  | .profile => Client.read User.ofJson?
  | .page _ => Client.read (Json.list? ListedRepository.ofJson?)

theorem reportOf?_read (piece : Piece) (outcome : Http.Outcome) :
    reportOf? (piece.read outcome) = reported? outcome := by
  cases piece <;> exact GitHub.reportOf?_read _ outcome

end Piece

/-- **The call for a piece of an account, over the network.** -/
theorem runs_deliver_piece (hlib : lib.Documented) {piece : Piece} {x : Except CallError (Response piece.Body)}
    (h : Runs (c.deliver lib (piece.exchange token username x).request) hops (piece.exchange token username x).reply) :
    ∃ outcome, Carried lib c token (piece.target username) hops outcome ∧ x = piece.read outcome := by
  cases piece <;> exact runs_call_iff hlib h

end AccountStats.GitHub
