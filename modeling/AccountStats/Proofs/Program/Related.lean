import Mathlib.Tactic
import AccountStats.Proofs.Program.Layers
/-
Two programs side by side.

A pairing says which requests of two programs go together, and which replies to them. Programs are related if they go
on in pairs of requests, as long as the replies are in pairs too, and come to related results. Results:
- `Related.bind`: what is made of related parts is related;
- `related_self`: so is a program to itself, if what it asks for is paired with itself;
- `Related.through`: programs on top of related ones are related;
- `Related.run`: related programs in surroundings that reply in pairs come to related results.
-/
namespace AccountStats

/-- which requests go together, and which replies to them -/
abbrev Interface.Pairing (I : Interface) := (r r' : I.Request) → (I.Reply r → I.Reply r' → Prop) → Prop

namespace Program

variable {I J : Interface} {α β γ δ : Type} {Q : I.Pairing} {R : α → β → Prop} {S : γ → δ → Prop} {p : Program I α}
  {q : Program I β}

inductive Related (Q : I.Pairing) (R : α → β → Prop) : Program I α → Program I β → Prop where
  | done {a : α} {b : β} (h : R a b) : Related Q R (.done a) (.done b)
  | ask {r r' : I.Request} {replies : I.Reply r → I.Reply r' → Prop} {next : I.Reply r → Program I α}
      {next' : I.Reply r' → Program I β} (hr : Q r r' replies)
      (hnext : ∀ x x', replies x x' → Related Q R (next x) (next' x')) : Related Q R (.ask r next) (.ask r' next')

/-- **What is made of related parts is related.** -/
theorem Related.bind {f : α → Program I γ} {g : β → Program I δ} (hp : Related Q R p q)
    (hf : ∀ a b, R a b → Related Q S (f a) (g b)) : Related Q S (p >>= f) (q >>= g) := by
  induction hp with
  | done h => exact hf _ _ h
  | ask hr _ ih => exact .ask hr ih

theorem Related.imp {weaker : α → β → Prop} (hp : Related Q R p q) (h : ∀ a b, R a b → weaker a b) :
    Related Q weaker p q := by
  induction hp with
  | done hab => exact .done (h _ _ hab)
  | ask hr _ ih => exact .ask hr ih

/-- a program whose requests are paired with themselves -/
theorem related_self {allowed : I.Request → Prop} {p : Program I α} (hp : p.Asks fun _ => allowed)
    (hQ : ∀ r, allowed r → Q r r Eq) : Related Q Eq p p := by
  induction p with
  | done a => exact .done rfl
  | ask r next ih =>
    refine .ask (hQ r (hp [] r next (.rest _))) ?_
    rintro x _ rfl
    exact ih x fun es r' next' h => hp _ r' next' (.ask h)

/-- **Programs on top of related ones are related**, if requests that go together are answered by related programs. -/
theorem Related.through {Q' : J.Pairing} {answer answer' : (r : I.Request) → Program J (I.Reply r)}
    (hp : Related Q R p q)
    (hanswer : ∀ {r r' replies}, Q r r' replies → Related Q' replies (answer r) (answer' r')) :
    Related Q' R (p.through answer) (q.through answer') := by
  induction hp with
  | done h => exact .done h
  | ask hr _ ih => exact (hanswer hr).bind ih

/-- surroundings that reply in pairs, as long as their states go together -/
def InStep {σ τ : Type} (Q : I.Pairing) (states : σ → τ → Prop) (answer : (r : I.Request) → σ → I.Reply r × σ)
    (answer' : (r : I.Request) → τ → I.Reply r × τ) : Prop :=
  ∀ {r r' replies}, Q r r' replies → ∀ {s t}, states s t →
    replies (answer r s).1 (answer' r' t).1 ∧ states (answer r s).2 (answer' r' t).2

/-- **Related programs come to related results** in surroundings that reply in pairs. -/
theorem Related.run {σ τ : Type} {states : σ → τ → Prop} {answer : (r : I.Request) → σ → I.Reply r × σ}
    {answer' : (r : I.Request) → τ → I.Reply r × τ} (hp : Related Q R p q) (hstep : InStep Q states answer answer')
    {s : σ} {t : τ} (hs : states s t) :
    R (p.run answer s).1 (q.run answer' t).1 ∧ states (p.run answer s).2 (q.run answer' t).2 := by
  induction hp generalizing s t with
  | done h => exact ⟨h, hs⟩
  | ask hr _ ih =>
    obtain ⟨hreply, hstates⟩ := hstep hr hs
    exact ih _ _ hreply hstates

end Program

end AccountStats
