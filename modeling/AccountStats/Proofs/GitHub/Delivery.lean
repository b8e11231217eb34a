import AccountStats.GitHub.Client
import AccountStats.Proofs.Http.Library
/-
Calls of GitHub over the network: what the HTTP library sends for the requests that it is handed.

A call hands one request to the library, which sends requests until it has something to return. A probe is given up
when one of these takes too long. All else is asked as it is. Results:
- `overNetwork_eq`: the requests of a program over HTTP are handed to the library one by one;
- `gets_asks`, `probing_asks`: what is sent for a call and for a probe is what the library sends;
- `runs_gets`, `leads_gets`: so are the exchanges of a call.
-/
namespace AccountStats.GitHub

open Http (Library Sending)
open Program (Asks Exchange Runs asks_ask asks_done runs_ask runs_done)

variable {α : Type} {lib : Library} {c : Client}

/-- what is sent for a call -/
def gets (p : Program Sending α) : Program WiredCalls α := p.through fun r => Program.ask (I := WiredCalls) (.get r) .done

/-- what is sent for a probe; nothing comes of it when a request takes too long -/
def probing : Program Sending α → Program WiredCalls (Option α)
  | .done a => .done (some a)
  | .ask r next => Program.ask (I := WiredCalls) (.probe r) fun
    | none => .done none
    | some x => probing (next x)

/-- a request, handed to the library -/
def carry (lib : Library) : (w : Wired) → Program WiredCalls w.Reply
  | .get r => gets (lib.send r)
  | .probe r => probing (lib.send r)
  | .other r => Program.ask (I := WiredCalls) (.other r) .done

/-- a call of GitHub, answered over the network -/
def Client.deliver (c : Client) (lib : Library) (r : Ask) : Program WiredCalls r.Reply := (c.answer r).through (carry lib)

/-- a program with its calls to GitHub made over the network -/
def Client.overNetwork (c : Client) (lib : Library) (p : Program Calls α) : Program WiredCalls α :=
  p.through (c.deliver lib)

/-- **The requests of a program over HTTP are handed to the library.** -/
theorem overNetwork_eq (p : Program Calls α) : c.overNetwork lib p = (c.overHttp p).through (carry lib) :=
  (Program.through_through p).symm

/-! ## What is sent -/

/-- an exchange of the library for a call, and one for a probe -/
def asGet (e : Exchange Sending) : Exchange WiredCalls := ⟨.get e.request, e.reply⟩
def asProbe (e : Exchange Sending) : Exchange WiredCalls := ⟨.probe e.request, some e.reply⟩

variable {allowed : List (Exchange Sending) → Http.Get → Prop} {p : Program Sending α}

theorem gets_asks (hp : p.Asks allowed) :
    (gets p).Asks fun es w => ∃ fs r, es = fs.map asGet ∧ w = .get r ∧ allowed fs r := by
  induction p generalizing allowed with
  | done a => exact asks_done a
  | ask r next ih =>
    refine asks_ask ⟨[], r, rfl, rfl, hp [] r next (.rest _)⟩ fun x => ?_
    have hnext : (next x).Asks fun fs => allowed (⟨r, x⟩ :: fs) := fun fs r' next' h => hp _ r' next' (.ask h)
    refine (ih x hnext).imp ?_
    rintro _ _ ⟨fs, r', rfl, rfl, hr'⟩
    exact ⟨⟨r, x⟩ :: fs, r', rfl, rfl, hr'⟩

theorem probing_asks (hp : p.Asks allowed) :
    (probing p).Asks fun es w => ∃ fs r, es = fs.map asProbe ∧ w = .probe r ∧ allowed fs r := by
  induction p generalizing allowed with
  | done a => exact asks_done _
  | ask r next ih =>
    rw [probing]
    refine asks_ask ⟨[], r, rfl, rfl, hp [] r next (.rest _)⟩ fun x? => ?_
    cases x? with
    | none => exact asks_done _
    | some x =>
      have hnext : (next x).Asks fun fs => allowed (⟨r, x⟩ :: fs) := fun fs r' next' h => hp _ r' next' (.ask h)
      refine (ih x hnext).imp ?_
      rintro _ _ ⟨fs, r', rfl, rfl, hr'⟩
      exact ⟨⟨r, x⟩ :: fs, r', rfl, rfl, hr'⟩

theorem runs_gets {hops : List (Exchange WiredCalls)} {a : α} :
    (gets p).Runs hops a ↔ ∃ es, p.Runs es a ∧ hops = es.map asGet := by
  induction p generalizing hops with
  | done b =>
    constructor
    · intro h
      obtain ⟨rfl, rfl⟩ := runs_done.1 h
      exact ⟨[], .done a, rfl⟩
    · rintro ⟨es, hruns, rfl⟩
      obtain ⟨rfl, rfl⟩ := runs_done.1 hruns
      exact .done a
  | ask r next ih =>
    constructor
    · intro h
      obtain ⟨x, hops, rfl, hrest⟩ := runs_ask.1 h
      obtain ⟨es, hruns, rfl⟩ := (ih x).1 hrest
      exact ⟨⟨r, x⟩ :: es, .ask hruns, rfl⟩
    · rintro ⟨es, hruns, rfl⟩
      obtain ⟨x, es, rfl, hnext⟩ := runs_ask.1 hruns
      exact .ask ((ih x).2 ⟨es, hnext, rfl⟩)

theorem leads_gets {q : Program Sending α} {es : List (Exchange Sending)} (h : p.Leads es q) :
    (gets p).Leads (es.map asGet) (gets q) := by
  induction h with
  | rest p => exact .rest _
  | ask _ ih => exact .ask ih

end AccountStats.GitHub
