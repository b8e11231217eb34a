/-
Programs that ask their surroundings for what they need.

An interface says which requests there are and what is replied to each. A program is a value: it is done, or it asks one
request and goes on with the reply. Nothing else of the outside shows, so which calls are made, in which order and after
which replies, is a matter of the program alone.

Results:
- `bind_assoc`, `bind_done`: sequencing is lawful;
- `run_bind`: running a sequence is running its parts;
- `Runs.append`, `Runs.split`: so are the exchanges of a sequence.
-/
namespace AccountStats

structure Interface where
  Request : Type
  Reply : Request → Type

inductive Program (I : Interface) (α : Type) where
  | done (a : α)
  | ask (r : I.Request) (next : I.Reply r → Program I α)

namespace Program

variable {I J : Interface} {α β γ : Type}

/-- one request, whose reply is the result -/
def call (r : I.Request) : Program I (I.Reply r) := .ask r .done

def bind : Program I α → (α → Program I β) → Program I β
  | .done a, f => f a
  | .ask r next, f => .ask r fun x => (next x).bind f

instance : Monad (Program I) where
  pure := .done
  bind := bind

/-- the same program with every request answered by a program of another interface -/
def through (answer : (r : I.Request) → Program J (I.Reply r)) : Program I α → Program J α
  | .done a => .done a
  | .ask r next => (answer r).bind fun x => (next x).through answer

/-- runs a program against surroundings with a state -/
def run (answer : (r : I.Request) → σ → I.Reply r × σ) : Program I α → σ → α × σ
  | .done a, s => (a, s)
  | .ask r next, s =>
    let (x, s) := answer r s
    (next x).run answer s

/-! ## Exchanges -/

/-- a request and the reply to it -/
structure Exchange (I : Interface) where
  request : I.Request
  reply : I.Reply request

/-- a program ends with a result after these exchanges, whatever the replies are -/
inductive Runs : Program I α → List (Exchange I) → α → Prop where
  | done (a : α) : Runs (.done a) [] a
  | ask {r : I.Request} {next : I.Reply r → Program I α} {x : I.Reply r} {es : List (Exchange I)} {a : α} :
      Runs (next x) es a → Runs (.ask r next) (⟨r, x⟩ :: es) a

/-! ## Laws -/

@[simp] theorem bind_done (p : Program I α) : p.bind .done = p := by
  induction p with
  | done a => rfl
  | ask r next ih => simp only [bind, ih]

theorem bind_assoc (p : Program I α) (f : α → Program I β) (g : β → Program I γ) :
    (p.bind f).bind g = p.bind fun a => (f a).bind g := by
  induction p with
  | done a => rfl
  | ask r next ih => simp only [bind, ih]

instance : LawfulMonad (Program I) :=
  LawfulMonad.mk' _ (fun p => bind_done p) (fun _ _ => rfl) (fun p f g => bind_assoc p f g)

theorem run_bind (answer : (r : I.Request) → σ → I.Reply r × σ) (p : Program I α) (f : α → Program I β) (s : σ) :
    (p.bind f).run answer s = let (a, s') := p.run answer s; (f a).run answer s' := by
  induction p generalizing s with
  | done a => rfl
  | ask r next ih => simp only [bind, run, ih]

theorem Runs.append {p : Program I α} {f : α → Program I β} {es fs : List (Exchange I)} {a : α} {b : β}
    (h : Runs p es a) (k : Runs (f a) fs b) : Runs (p.bind f) (es ++ fs) b := by
  induction h with
  | done a => exact k
  | ask _ ih => exact .ask (ih k)

theorem Runs.split {p : Program I α} {f : α → Program I β} {es : List (Exchange I)} {b : β}
    (h : Runs (p.bind f) es b) : ∃ es₁ es₂ a, es = es₁ ++ es₂ ∧ Runs p es₁ a ∧ Runs (f a) es₂ b := by
  induction p generalizing es with
  | done a => exact ⟨[], es, a, rfl, .done a, h⟩
  | ask r next ih =>
    cases h with
    | ask h =>
      obtain ⟨es₁, es₂, a, rfl, h₁, h₂⟩ := ih _ h
      exact ⟨_ :: es₁, es₂, a, rfl, .ask h₁, h₂⟩

end Program

end AccountStats
