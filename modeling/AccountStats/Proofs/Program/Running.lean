import AccountStats.Program
/-
What a program does is what it asks for and what it is replied.

Results:
- `runs_done`, `runs_ask`: the exchanges of a program, taken apart;
- `Runs.unique`: after the same exchanges a program is over at most once, and with one result;
- `exists_runs`: a program that is run against surroundings with a state has exchanges with them, each of which is
  replied to by the state that the ones before it have left;
- `Ensures.bind`: what a sequence ensures of its result, part by part.
-/
namespace AccountStats.Program

variable {I : Interface} {σ α β : Type}

theorem runs_done {a b : α} {es : List (Exchange I)} : Runs (.done a) es b ↔ es = [] ∧ b = a := by
  constructor
  · rintro ⟨⟩
    exact ⟨rfl, rfl⟩
  · rintro ⟨rfl, rfl⟩
    exact .done b

theorem runs_ask {r : I.Request} {next : I.Reply r → Program I α} {es : List (Exchange I)} {b : α} :
    Runs (.ask r next) es b ↔ ∃ x es', es = ⟨r, x⟩ :: es' ∧ Runs (next x) es' b := by
  constructor
  · rintro ⟨⟩
    exact ⟨_, _, rfl, ‹_›⟩
  · rintro ⟨x, es', rfl, h⟩
    exact .ask h

/-- **After the same exchanges a program is over at most once, and with one result.** -/
theorem Runs.unique {p : Program I α} {es fs es' fs' : List (Exchange I)} {a b : α} (h : p.Runs es a)
    (k : p.Runs fs b) (hsame : es ++ es' = fs ++ fs') : es = fs ∧ a = b := by
  induction h generalizing fs with
  | done a =>
    obtain ⟨rfl, rfl⟩ := runs_done.1 k
    exact ⟨rfl, rfl⟩
  | ask _ ih =>
    obtain ⟨y, fs, rfl, hnext⟩ := runs_ask.1 k
    obtain ⟨hfirst, hrest⟩ := List.cons.inj hsame
    cases hfirst
    obtain ⟨rfl, rfl⟩ := ih hnext hrest
    exact ⟨rfl, rfl⟩

/-- the result of a program that is over -/
def result? : Program I α → Option α
  | .done a => some a
  | .ask _ _ => none

theorem result?_eq_some {p : Program I α} {a : α} : p.result? = some a ↔ p = .done a := by
  cases p with
  | done b => exact Option.some_inj.trans (by rw [Program.done.injEq])
  | ask r next => exact iff_of_false nofun nofun

/-- a result that is passed on -/
theorem runs_map {f : α → β} {p : Program I α} {es : List (Exchange I)} {b : β} :
    (f <$> p).Runs es b ↔ ∃ a, p.Runs es a ∧ b = f a := by
  constructor
  · intro h
    obtain ⟨es, fs, a, rfl, hp, hdone⟩ := Runs.split (p := p) h
    obtain ⟨rfl, rfl⟩ := runs_done.1 hdone
    rw [List.append_nil]
    exact ⟨a, hp, rfl⟩
  · rintro ⟨a, h, rfl⟩
    have hall := h.append (f := fun a => .done (f a)) (.done _)
    rwa [List.append_nil] at hall

/-- the surroundings reply to these exchanges, one after another, and get from one state to another -/
inductive Replied (answer : (r : I.Request) → σ → I.Reply r × σ) : σ → List (Exchange I) → σ → Prop where
  | rest (s : σ) : Replied answer s [] s
  | ask {s t : σ} (r : I.Request) {es : List (Exchange I)} :
      Replied answer (answer r s).2 es t → Replied answer s (⟨r, (answer r s).1⟩ :: es) t

variable {answer : (r : I.Request) → σ → I.Reply r × σ} {s t : σ}

theorem replied_nil : Replied answer s [] t ↔ t = s := by
  constructor
  · rintro ⟨⟩
    rfl
  · rintro rfl
    exact .rest t

theorem replied_cons {r : I.Request} {x : I.Reply r} {es : List (Exchange I)} :
    Replied answer s (⟨r, x⟩ :: es) t ↔ x = (answer r s).1 ∧ Replied answer (answer r s).2 es t := by
  constructor
  · rintro ⟨⟩
    exact ⟨rfl, ‹_›⟩
  · rintro ⟨rfl, h⟩
    exact .ask r h

theorem replied_append {es fs : List (Exchange I)} :
    Replied answer s (es ++ fs) t ↔ ∃ u, Replied answer s es u ∧ Replied answer u fs t := by
  induction es generalizing s with
  | nil =>
    constructor
    · intro h
      exact ⟨s, .rest s, h⟩
    · rintro ⟨u, hes, hfs⟩
      rwa [replied_nil.1 hes] at hfs
  | cons e es ih =>
    obtain ⟨r, x⟩ := e
    rw [List.cons_append, replied_cons, ih]
    constructor
    · rintro ⟨hx, u, hes, hfs⟩
      exact ⟨u, replied_cons.2 ⟨hx, hes⟩, hfs⟩
    · rintro ⟨u, hes, hfs⟩
      obtain ⟨hx, hes⟩ := replied_cons.1 hes
      exact ⟨hx, u, hes, hfs⟩

/-- each reply is one that the surroundings give in some state -/
theorem Replied.reply_eq {es : List (Exchange I)} (h : Replied answer s es t) :
    ∀ e ∈ es, ∃ u, e.reply = (answer e.request u).1 := by
  induction h with
  | rest s => exact List.forall_mem_nil _
  | @ask s t r es _ ih => exact List.forall_mem_cons.2 ⟨⟨s, rfl⟩, ih⟩

/-- **A program that is run has exchanges with what it is run against.** -/
theorem exists_runs (answer : (r : I.Request) → σ → I.Reply r × σ) (p : Program I α) (s : σ) :
    ∃ es, p.Runs es (p.run answer s).1 ∧ Replied answer s es (p.run answer s).2 := by
  induction p generalizing s with
  | done a => exact ⟨[], .done a, .rest s⟩
  | ask r next ih =>
    obtain ⟨es, hruns, hreplied⟩ := ih (answer r s).1 (answer r s).2
    exact ⟨⟨r, (answer r s).1⟩ :: es, .ask hruns, .ask r hreplied⟩

/-! ## What is ensured of a result -/

/-- if all replies are as described, so is the result -/
def Ensures (replies : Exchange I → Prop) (result : α → Prop) (p : Program I α) : Prop :=
  ∀ es a, p.Runs es a → (∀ e ∈ es, replies e) → result a

variable {replies : Exchange I → Prop} {result : α → Prop} {final : β → Prop}

theorem ensures_done {a : α} (h : result a) : Ensures replies result (.done a) := by
  intro es b hruns _
  obtain ⟨-, rfl⟩ := runs_done.1 hruns
  exact h

theorem ensures_ask {r : I.Request} {next : I.Reply r → Program I α}
    (h : ∀ x, replies ⟨r, x⟩ → Ensures replies result (next x)) : Ensures replies result (.ask r next) := by
  intro es b hruns hreplies
  obtain ⟨x, es, rfl, hnext⟩ := runs_ask.1 hruns
  obtain ⟨hx, hes⟩ := List.forall_mem_cons.1 hreplies
  exact h x hx es b hnext hes

/-- **What the first part ensures of its result is enough for the second.** -/
theorem Ensures.bind {p : Program I α} {f : α → Program I β} (hp : Ensures replies result p)
    (hf : ∀ a, result a → Ensures replies final (f a)) : Ensures replies final (p >>= f) := by
  intro es b hruns hreplies
  obtain ⟨es₁, es₂, a, rfl, h₁, h₂⟩ := Runs.split (p := p) hruns
  obtain ⟨hes₁, hes₂⟩ := List.forall_mem_append.1 hreplies
  exact hf a (hp es₁ a h₁ hes₁) es₂ b h₂ hes₂

theorem Ensures.imp {weaker : α → Prop} {p : Program I α} (hp : Ensures replies result p)
    (h : ∀ a, result a → weaker a) : Ensures replies weaker p :=
  fun es a hruns hreplies => h a (hp es a hruns hreplies)

/-- of a part whose result does not matter nothing need be known -/
theorem ensures_any (p : Program I α) : Ensures replies (fun _ => True) p := fun _ _ _ _ => trivial

end AccountStats.Program
