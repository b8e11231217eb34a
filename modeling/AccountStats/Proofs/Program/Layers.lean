import AccountStats.Proofs.Program.Interleaving
import AccountStats.Proofs.Program.Running
/-
Programs on top of others: some of the requests of a program are answered by programs of another interface.

Results:
- `runs_through`: the exchanges of the whole are those of the programs that answer, one after another;
- `through_through`: layers may be put together in any order;
- `Ensures.through`: what the whole ensures of its result, layer by layer;
- `Asks.through`, `Asks.layered`: what the whole asks for.
-/
namespace AccountStats

/-- two interfaces side by side -/
def Interface.beside (I J : Interface) : Interface where
  Request := I.Request ⊕ J.Request
  Reply
    | .inl r => I.Reply r
    | .inr r => J.Reply r

namespace Program

variable {I J : Interface} {σ α : Type}

/-- an interface whose requests are answered by programs of another one as far as there are such programs; the others
are asked as they are -/
def layered (inner : (r : I.Request) → Option (Program J (I.Reply r))) (r : I.Request) :
    Program (I.beside J) (I.Reply r) :=
  match inner r with
  | some p => p.through fun s => Program.ask (I := I.beside J) (.inr s) .done
  | none => Program.ask (I := I.beside J) (.inl r) .done

/-- the exchanges of the programs that answered, one after another -/
inductive Answered (answer : (r : I.Request) → Program J (I.Reply r)) : List (Exchange I) → List (Exchange J) → Prop where
  | nil : Answered answer [] []
  | cons {r : I.Request} {x : I.Reply r} {fs₁ fs₂ : List (Exchange J)} {es : List (Exchange I)} :
      (answer r).Runs fs₁ x → Answered answer es fs₂ → Answered answer (⟨r, x⟩ :: es) (fs₁ ++ fs₂)

variable {answer : (r : I.Request) → Program J (I.Reply r)} {p : Program I α} {fs : List (Exchange J)} {a : α}

/-- **A program on top of others has its exchanges with them.** -/
theorem runs_through : (p.through answer).Runs fs a ↔ ∃ es, p.Runs es a ∧ Answered answer es fs := by
  induction p generalizing fs with
  | done b =>
    constructor
    · intro h
      obtain ⟨rfl, rfl⟩ := runs_done.1 h
      exact ⟨[], .done a, .nil⟩
    · rintro ⟨es, hruns, hanswered⟩
      obtain ⟨rfl, rfl⟩ := runs_done.1 hruns
      cases hanswered
      exact .done a
  | ask r next ih =>
    constructor
    · intro h
      obtain ⟨fs₁, fs₂, x, rfl, hreply, hrest⟩ := Runs.split (p := answer r) h
      obtain ⟨es, hruns, hanswered⟩ := (ih x).1 hrest
      exact ⟨⟨r, x⟩ :: es, .ask hruns, .cons hreply hanswered⟩
    · rintro ⟨es, hruns, hanswered⟩
      obtain ⟨x, es, rfl, hnext⟩ := runs_ask.1 hruns
      cases hanswered with
      | cons hreply hrest => exact hreply.append ((ih x).2 ⟨es, hnext, hrest⟩)

/-- where requests are only renamed, so are the exchanges -/
theorem runs_through_inr {p : Program J α} {fs : List (Exchange (I.beside J))} :
    (p.through fun s => Program.ask (I := I.beside J) (.inr s) .done).Runs fs a ↔
      ∃ es, p.Runs es a ∧ fs = es.map fun e => ⟨.inr e.request, e.reply⟩ := by
  induction p generalizing fs with
  | done b =>
    constructor
    · intro h
      obtain ⟨rfl, rfl⟩ := runs_done.1 h
      exact ⟨[], .done a, rfl⟩
    · rintro ⟨es, hruns, rfl⟩
      obtain ⟨rfl, rfl⟩ := runs_done.1 hruns
      exact .done a
  | ask r next ih =>
    constructor
    · intro h
      obtain ⟨x, fs, rfl, hrest⟩ := runs_ask.1 h
      obtain ⟨es, hruns, rfl⟩ := (ih x).1 hrest
      exact ⟨⟨r, x⟩ :: es, .ask hruns, rfl⟩
    · rintro ⟨es, hruns, rfl⟩
      obtain ⟨x, es, rfl, hnext⟩ := runs_ask.1 hruns
      exact .ask ((ih x).2 ⟨es, hnext, rfl⟩)

theorem leads_through_inr {p q : Program J α} {es : List (Exchange J)} (h : p.Leads es q) :
    (p.through fun s => Program.ask (I := I.beside J) (.inr s) .done).Leads
      (es.map fun e => ⟨.inr e.request, e.reply⟩)
      (q.through fun s => Program.ask (I := I.beside J) (.inr s) .done) := by
  induction h with
  | rest p => exact .rest _
  | ask _ ih => exact .ask ih

theorem answered_append {es es' : List (Exchange I)} : Answered answer (es ++ es') fs ↔
    ∃ fs₁ fs₂, fs = fs₁ ++ fs₂ ∧ Answered answer es fs₁ ∧ Answered answer es' fs₂ := by
  induction es generalizing fs with
  | nil =>
    constructor
    · intro h
      exact ⟨[], fs, rfl, .nil, h⟩
    · rintro ⟨fs₁, fs₂, rfl, ⟨⟩, h⟩
      exact h
  | cons e es ih =>
    constructor
    · rintro (_ | ⟨hruns, h⟩)
      obtain ⟨fs₁, fs₂, rfl, h₁, h₂⟩ := ih.1 h
      exact ⟨_, fs₂, (List.append_assoc ..).symm, .cons hruns h₁, h₂⟩
    · rintro ⟨_, fs₂, rfl, _ | ⟨hruns, h₁⟩, h₂⟩
      rw [List.append_assoc]
      exact .cons hruns (ih.2 ⟨_, fs₂, rfl, h₁, h₂⟩)

theorem answered_cons {e : Exchange I} {es : List (Exchange I)} : Answered answer (e :: es) fs ↔
    ∃ fs₁ fs₂, fs = fs₁ ++ fs₂ ∧ (answer e.request).Runs fs₁ e.reply ∧ Answered answer es fs₂ := by
  constructor
  · rintro (_ | ⟨hruns, h⟩)
    exact ⟨_, _, rfl, hruns, h⟩
  · rintro ⟨fs₁, fs₂, rfl, hruns, h⟩
    exact .cons hruns h

theorem answered_singleton {r : I.Request} {x : I.Reply r} :
    Answered answer [⟨r, x⟩] fs ↔ (answer r).Runs fs x := by
  constructor
  · rintro (_ | ⟨hruns, ⟨⟩⟩)
    rwa [List.append_nil]
  · intro h
    rw [← List.append_nil fs]
    exact .cons h .nil

theorem through_bind {β : Type} (p : Program I α) (f : α → Program I β) :
    (p >>= f).through answer = p.through answer >>= fun a => (f a).through answer := by
  induction p with
  | done a => rfl
  | ask r next ih =>
    have hnext : (fun x => (next x >>= f).through answer) =
        fun x => (next x).through answer >>= fun a => (f a).through answer := funext ih
    calc (Program.ask r next >>= f).through answer
        = (answer r).bind fun x => (next x >>= f).through answer := rfl
      _ = (answer r).bind fun x => ((next x).through answer).bind fun a => (f a).through answer := by rw [hnext]; rfl
      _ = ((answer r).bind fun x => (next x).through answer).bind fun a => (f a).through answer :=
          (bind_assoc ..).symm

/-- programs answered by programs that are answered by others -/
theorem through_through {K : Interface} {inner : (r : J.Request) → Program K (J.Reply r)} (p : Program I α) :
    (p.through answer).through inner = p.through fun r => (answer r).through inner := by
  induction p with
  | done a => rfl
  | ask r next ih =>
    have hnext : (fun x => ((next x).through answer).through inner) =
        fun x => (next x).through fun r => (answer r).through inner := funext ih
    calc ((answer r).bind fun x => (next x).through answer).through inner
        = ((answer r).through inner).bind fun x => ((next x).through answer).through inner :=
          through_bind (answer r) fun x => (next x).through answer
      _ = ((answer r).through inner).bind fun x => (next x).through fun r => (answer r).through inner := by rw [hnext]

variable {replies : Exchange I → Prop} {inner : Exchange J → Prop} {result : α → Prop}

theorem Answered.as_expected {es : List (Exchange I)} (h : Answered answer es fs)
    (hanswer : ∀ r, Ensures inner (fun x => replies ⟨r, x⟩) (answer r)) (hfs : ∀ e ∈ fs, inner e) :
    ∀ e ∈ es, replies e := by
  induction h with
  | nil => exact nofun
  | cons hruns _ ih =>
    obtain ⟨hfs₁, hfs₂⟩ := List.forall_mem_append.1 hfs
    exact List.forall_mem_cons.2 ⟨hanswer _ _ _ hruns hfs₁, ih hfs₂⟩

/-- **What a program ensures, it ensures on top of programs whose replies are as it expects.** -/
theorem Ensures.through (hp : Ensures replies result p)
    (hanswer : ∀ r, Ensures inner (fun x => replies ⟨r, x⟩) (answer r)) : Ensures inner result (p.through answer) := by
  intro fs b hruns hfs
  obtain ⟨es, hruns, hanswered⟩ := runs_through.1 hruns
  exact hp es b hruns (hanswered.as_expected hanswer hfs)

/-- requests answered by programs are replied to as those ensure -/
theorem ensures_layered {programs : (r : I.Request) → Option (Program J (I.Reply r))}
    (hsome : ∀ r p, programs r = some p → Ensures (fun _ => True) (fun x => replies ⟨r, x⟩) p)
    (hnone : ∀ r, programs r = none → ∀ x, replies ⟨r, x⟩) (r : I.Request) :
    Ensures (fun _ => True) (fun x => replies ⟨r, x⟩) (layered programs r) := by
  unfold layered
  split
  · next p hp => exact (hsome r p hp).through fun s => ensures_any _
  · next hp => exact ensures_ask fun x _ => ensures_done (hnone r hp x)

/-! ## What is asked for -/

section Asks

variable {allowed : I.Request → Prop} {asked : List (Exchange J) → J.Request → Prop}

/-- **A program on top of others asks for what they ask for.** What they may ask for depends on what came just before. -/
theorem Asks.through (happend : ∀ {es s}, asked es s → ∀ before, asked (before ++ es) s) (hp : p.Asks fun _ => allowed)
    (hanswer : ∀ r, allowed r → (answer r).Asks asked) : (p.through answer).Asks asked := by
  induction p with
  | done a => exact asks_done a
  | ask r next ih =>
    have hnext : ∀ x, (next x).Asks fun _ => allowed := fun x es r' next' h => hp _ r' next' (.ask h)
    refine Asks.bind (hanswer r (hp [] r next (.rest _))) fun es x _ => ?_
    exact (ih x (hnext x)).imp fun es' s h => happend h es

/-- a program of which every request is as described, whatever came before it -/
theorem Asks.through_always {asked : J.Request → Prop} (hp : p.Asks fun _ => allowed)
    (hanswer : ∀ r, allowed r → (answer r).Asks fun _ => asked) : (p.through answer).Asks fun _ => asked :=
  Asks.through (fun h _ => h) hp hanswer

/-- the exchanges with the second of two interfaces -/
def rights (es : List (Exchange (I.beside J))) : List (Exchange J) :=
  es.filterMap fun
    | ⟨.inl _, _⟩ => none
    | ⟨.inr s, x⟩ => some ⟨s, x⟩

/-- what may be asked for on each side; on the second, given the exchanges with that side before -/
def Beside (left : I.Request → Prop) (asked : List (Exchange J) → J.Request → Prop)
    (es : List (Exchange (I.beside J))) : (I.beside J).Request → Prop
  | .inl r => left r
  | .inr s => asked (rights es) s

theorem Beside.append {left : I.Request → Prop} (happend : ∀ {es s}, asked es s → ∀ before, asked (before ++ es) s)
    {es : List (Exchange (I.beside J))} {r : (I.beside J).Request} (h : Beside left asked es r)
    (before : List (Exchange (I.beside J))) : Beside left asked (before ++ es) r := by
  cases r with
  | inl r => exact h
  | inr s =>
    have hmore := happend h (rights before)
    rwa [rights, rights, ← List.filterMap_append] at hmore

theorem asks_through_inr {left : I.Request → Prop} {q : Program J α} (hq : q.Asks asked) :
    (q.through fun s => Program.ask (I := I.beside J) (.inr s) .done).Asks (Beside left asked) := by
  induction q generalizing asked with
  | done a => exact asks_done a
  | ask s next ih =>
    refine asks_ask (hq [] s next (.rest _)) fun x => ?_
    have hnext : (next x).Asks fun es => asked (⟨s, x⟩ :: es) := fun es r' next' h => hq _ r' next' (.ask h)
    exact (ih x hnext).imp fun es r h => by cases r <;> exact h

theorem Asks.layered {programs : (r : I.Request) → Option (Program J (I.Reply r))}
    (happend : ∀ {es s}, asked es s → ∀ before, asked (before ++ es) s) (hp : p.Asks fun _ => allowed)
    (hsome : ∀ r q, allowed r → programs r = some q → q.Asks asked) :
    (p.through (Program.layered programs)).Asks (Beside (fun r => allowed r ∧ programs r = none) asked) := by
  refine Asks.through (Beside.append happend) hp fun r hr => ?_
  unfold Program.layered
  split
  · next q hq => exact asks_through_inr (hsome r q hr hq)
  · next hnone => exact asks_ask ⟨hr, hnone⟩ fun x => asks_done x

end Asks

end Program

end AccountStats
