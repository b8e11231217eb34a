import Mathlib.Tactic
import AccountStats.Program
/-
Programs that share a world, interleaved in any order.

At every moment one of the programs makes its next request, which is answered at once. What answers it may change from
moment to moment: the clock goes on, and replies from outside are whatever they are. The history keeps each request with
its reply and the number of the program that made it, the newest first.

Results:
- `run_preserves`: what every step preserves, every run preserves;
- `perm_exchangesOf`: the history is made of the exchanges of all programs;
- `leads_of_run`: every program got to where it is by its own exchanges in the history;
- `asked_of_run`: every exchange of the history was asked for by its program;
- `answered_of_run`: it was replied to by the world that the exchanges before it had left;
- `moment_of_run`: it was made at some moment of the run, at which its program had got that far;
- `countP_of_run`: what is seen of the programs at the end is counted in the history.
-/
namespace AccountStats

variable {I : Interface} {σ ω α : Type}

namespace Program

/-! ## On the way -/

/-- the program after these exchanges -/
inductive Leads : Program I α → List (Exchange I) → Program I α → Prop where
  | rest (p : Program I α) : Leads p [] p
  | ask {r : I.Request} {next : I.Reply r → Program I α} {x : I.Reply r} {es : List (Exchange I)} {q : Program I α} :
      Leads (next x) es q → Leads (.ask r next) (⟨r, x⟩ :: es) q

theorem Leads.snoc {p : Program I α} {es : List (Exchange I)} {r : I.Request} {next : I.Reply r → Program I α}
    (h : Leads p es (.ask r next)) (x : I.Reply r) : Leads p (es ++ [⟨r, x⟩]) (next x) := by
  generalize hq : Program.ask r next = q at h
  induction h with
  | rest p => subst hq; exact .ask (.rest _)
  | ask _ ih => exact .ask (ih hq)

theorem Leads.bind {β : Type} {p q : Program I α} {es : List (Exchange I)} (h : p.Leads es q) (f : α → Program I β) :
    (p.bind f).Leads es (q.bind f) := by
  induction h with
  | rest p => exact .rest _
  | ask _ ih => exact .ask ih

/-- a sequence is within its first part, or its first part is over -/
theorem Leads.split {β : Type} {p : Program I α} {f : α → Program I β} {es : List (Exchange I)} {q : Program I β}
    (h : Leads (p.bind f) es q) :
    (∃ p', Leads p es p' ∧ q = p'.bind f) ∨
      ∃ es₁ es₂ a, es = es₁ ++ es₂ ∧ Leads p es₁ (.done a) ∧ Leads (f a) es₂ q := by
  induction p generalizing es with
  | done a => exact Or.inr ⟨[], es, a, rfl, .rest _, h⟩
  | ask r next ih =>
    cases h with
    | rest => exact Or.inl ⟨_, .rest _, rfl⟩
    | ask h =>
      rcases ih _ h with ⟨p', hp, rfl⟩ | ⟨es₁, es₂, a, rfl, h₁, h₂⟩
      · exact Or.inl ⟨p', .ask hp, rfl⟩
      · exact Or.inr ⟨_ :: es₁, es₂, a, rfl, .ask h₁, h₂⟩

theorem leads_done {a : α} {es : List (Exchange I)} {q : Program I α} :
    Leads (.done a) es q ↔ es = [] ∧ q = .done a := by
  constructor
  · rintro ⟨⟩
    exact ⟨rfl, rfl⟩
  · rintro ⟨rfl, rfl⟩
    exact .rest _

theorem leads_ask {r : I.Request} {next : I.Reply r → Program I α} {es : List (Exchange I)} {q : Program I α} :
    Leads (.ask r next) es q ↔
      (es = [] ∧ q = .ask r next) ∨ ∃ x es', es = ⟨r, x⟩ :: es' ∧ Leads (next x) es' q := by
  constructor
  · rintro (⟨⟩ | h)
    · exact Or.inl ⟨rfl, rfl⟩
    · exact Or.inr ⟨_, _, rfl, h⟩
  · rintro (⟨rfl, rfl⟩ | ⟨x, es', rfl, h⟩)
    · exact .rest _
    · exact .ask h

/-- a program that has got to its end has run -/
theorem leads_done_iff_runs {p : Program I α} {es : List (Exchange I)} {a : α} :
    p.Leads es (.done a) ↔ p.Runs es a := by
  constructor
  · intro h
    generalize hq : Program.done a = q at h
    induction h with
    | rest p =>
      subst hq
      exact .done a
    | ask _ ih => exact .ask (ih hq)
  · intro h
    induction h with
    | done a => exact .rest _
    | ask _ ih => exact .ask ih

/-- a program goes on from where it is -/
theorem Leads.runs {p q : Program I α} {es fs : List (Exchange I)} {a : α} (h : p.Leads es q) (k : q.Runs fs a) :
    p.Runs (es ++ fs) a := by
  induction h with
  | rest p => exact k
  | ask _ ih => exact .ask (ih k)

/-- the requests of a program are as described, given the exchanges before them -/
def Asks (p : Program I α) (allowed : List (Exchange I) → I.Request → Prop) : Prop :=
  ∀ es r next, p.Leads es (.ask r next) → allowed es r

section Asks

variable {allowed : List (Exchange I) → I.Request → Prop}

theorem asks_done (a : α) : Asks (.done a) allowed := by
  intro es r next h
  cases (leads_done.1 h).2

theorem asks_ask {r : I.Request} {next : I.Reply r → Program I α} (hr : allowed [] r)
    (hnext : ∀ x, Asks (next x) fun es => allowed (⟨r, x⟩ :: es)) : Asks (.ask r next) allowed := by
  intro es r' next' h
  rcases leads_ask.1 h with ⟨rfl, hq⟩ | ⟨x, es', rfl, h'⟩
  · cases hq
    exact hr
  · exact hnext x es' r' next' h'

theorem Asks.bind {β : Type} {p : Program I α} {f : α → Program I β} (hp : Asks p allowed)
    (hf : ∀ es a, p.Leads es (.done a) → Asks (f a) fun es' => allowed (es ++ es')) : Asks (p.bind f) allowed := by
  induction p generalizing allowed with
  | done a => exact hf [] a (.rest _)
  | ask r next ih =>
    refine asks_ask (hp [] r next (.rest _)) fun x => ih x ?_ ?_
    · exact fun es r' next' h => hp _ r' next' (.ask h)
    · exact fun es a h => hf _ a (.ask h)

theorem Asks.imp {weaker : List (Exchange I) → I.Request → Prop} {p : Program I α} (hp : Asks p allowed)
    (h : ∀ es r, allowed es r → weaker es r) : Asks p weaker := fun es r next hleads => h es r (hp es r next hleads)

theorem Asks.of_leads {p q : Program I α} {before after : List (Exchange I)} {e : Exchange I} (hp : Asks p allowed)
    (h : p.Leads (before ++ e :: after) q) : allowed before e.request := by
  induction before generalizing p allowed with
  | nil =>
    cases h with
    | ask h => exact hp [] _ _ (.rest _)
  | cons f before ih =>
    cases h with
    | @ask r next x _ _ h =>
      have hnext : Asks (next x) fun es => allowed (⟨r, x⟩ :: es) := fun es r' next' h' => hp _ r' next' (.ask h')
      exact ih hnext h

/-- a program of which every request is as described, whatever came before it -/
theorem Asks.bind_always {β : Type} {allowed : I.Request → Prop} {p : Program I α} {f : α → Program I β}
    (hp : Asks p fun _ => allowed) (hf : ∀ a, Asks (f a) fun _ => allowed) : Asks (p >>= f) fun _ => allowed :=
  Asks.bind hp fun _ a _ => hf a

theorem Asks.bind_except {β ε : Type} {allowed : I.Request → Prop} {p : Program I (Except ε α)}
    {f : Except ε α → Program I β} (hp : p.Asks fun _ => allowed) (herror : ∀ e, Asks (f (.error e)) fun _ => allowed)
    (hok : ∀ a, Asks (f (.ok a)) fun _ => allowed) : Asks (p >>= f) fun _ => allowed := by
  refine hp.bind_always fun result => ?_
  cases result with
  | error e => exact herror e
  | ok a => exact hok a

end Asks

/-- a program makes so many requests at most -/
def Within (n : Nat) (p : Program I α) : Prop := ∀ es q, p.Leads es q → es.length ≤ n

theorem within_done (a : α) (n : Nat) : Within n (.done a : Program I α) := by
  intro es q h
  rw [(leads_done.1 h).1]
  exact Nat.zero_le n

theorem within_ask {n : Nat} {r : I.Request} {next : I.Reply r → Program I α} (h : ∀ x, Within n (next x)) :
    Within (n + 1) (.ask r next) := by
  intro es q hq
  rcases leads_ask.1 hq with ⟨rfl, -⟩ | ⟨x, es', rfl, hrest⟩
  · exact Nat.zero_le _
  · exact Nat.succ_le_succ (h x es' q hrest)

theorem Within.bind {β : Type} {m n : Nat} {p : Program I α} {f : α → Program I β} (hp : Within m p)
    (hf : ∀ a, Within n (f a)) : Within (m + n) (p >>= f) := by
  intro es q h
  rcases Leads.split (p := p) h with ⟨p', hleads, -⟩ | ⟨es₁, es₂, a, rfl, hleads, hrest⟩
  · exact (hp es p' hleads).trans (Nat.le_add_right m n)
  · rw [List.length_append]
    exact Nat.add_le_add (hp es₁ _ hleads) (hf a es₂ q hrest)

/-- the exchanges tell whether a program is as described: with those before, one of them is the signal if it is, and
none if it is not -/
def Tells (signal : Exchange I → Bool) (described : Program I α → Bool) (before : Nat) (p : Program I α) : Prop :=
  ∀ es q, p.Leads es q → before + es.countP signal = if described q then 1 else 0

section Tells

variable {signal : Exchange I → Bool} {described : Program I α → Bool} {before : Nat}

theorem tells_done {a : α} (h : before = if described (.done a) then 1 else 0) :
    Tells signal described before (.done a) := by
  intro es q hq
  obtain ⟨rfl, rfl⟩ := leads_done.1 hq
  exact h

theorem tells_ask {r : I.Request} {next : I.Reply r → Program I α}
    (h : before = if described (.ask r next) then 1 else 0)
    (hnext : ∀ x, Tells signal described (before + if signal ⟨r, x⟩ then 1 else 0) (next x)) :
    Tells signal described before (.ask r next) := by
  intro es q hq
  rcases leads_ask.1 hq with ⟨rfl, rfl⟩ | ⟨x, es', rfl, h'⟩
  · exact h
  · rw [List.countP_cons, ← hnext x es' q h']
    omega

end Tells

end Program

/-! ## Interleavings -/

/-- a request, the reply to it, and the number of the program that made it -/
structure Occurrence (I : Interface) where
  program : Nat
  exchange : Program.Exchange I

structure Interleaving (I : Interface) (σ α : Type) where
  world : σ
  programs : List (Program I α)
  /-- the newest first -/
  history : List (Occurrence I)

namespace Interleaving

def start (world : σ) (programs : List (Program I α)) : Interleaving I σ α := ⟨world, programs, []⟩

/-- a program makes its next request, if it has one -/
def step? (answer : ω → (r : I.Request) → σ → I.Reply r × σ) (s : Interleaving I σ α) (k : Nat) (o : ω) :
    Option (Interleaving I σ α) :=
  match s.programs[k]? with
  | some (.ask r next) =>
    let (x, world) := answer o r s.world
    some ⟨world, s.programs.set k (next x), ⟨k, ⟨r, x⟩⟩ :: s.history⟩
  | _ => none

/-- the programs go on in this order -/
def run? (answer : ω → (r : I.Request) → σ → I.Reply r × σ) (s : Interleaving I σ α) :
    List (Nat × ω) → Option (Interleaving I σ α)
  | [] => some s
  | (k, o) :: moments => (s.step? answer k o).bind fun s => s.run? answer moments

/-- the exchanges of one program, in their order -/
def exchangesOf (history : List (Occurrence I)) (k : Nat) : List (Program.Exchange I) :=
  ((history.filter fun e => e.program == k).map Occurrence.exchange).reverse

variable {answer : ω → (r : I.Request) → σ → I.Reply r × σ} {s t : Interleaving I σ α} {k : Nat} {o : ω}
  {moments : List (Nat × ω)}

theorem step?_eq_some : s.step? answer k o = some t ↔
    ∃ r next, s.programs[k]? = some (.ask r next) ∧
      t = ⟨(answer o r s.world).2, s.programs.set k (next (answer o r s.world).1),
        ⟨k, ⟨r, (answer o r s.world).1⟩⟩ :: s.history⟩ := by
  unfold step?
  constructor
  · intro h
    split at h
    · next r next hk => exact ⟨r, next, hk, (Option.some.inj h).symm⟩
    · cases h
  · rintro ⟨r, next, hk, rfl⟩
    rw [hk]

theorem run?_cons {u : Interleaving I σ α} : s.run? answer ((k, o) :: moments) = some u ↔
    ∃ t, s.step? answer k o = some t ∧ t.run? answer moments = some u := by
  rw [run?, Option.bind_eq_some_iff]

/-- **What every step preserves, every run preserves.** -/
theorem run_preserves {P : Interleaving I σ α → Prop}
    (hstep : ∀ s k o t, s.step? answer k o = some t → P s → P t) (hrun : s.run? answer moments = some t) (hs : P s) :
    P t := by
  induction moments generalizing s with
  | nil => cases hrun; exact hs
  | cons m moments ih =>
    obtain ⟨u, hu, hrun⟩ := run?_cons.1 hrun
    exact ih hrun (hstep s m.1 m.2 u hu hs)

/-! ## Moments -/

theorem run?_snoc {u : Interleaving I σ α} : s.run? answer (moments ++ [(k, o)]) = some u ↔
    ∃ t, s.run? answer moments = some t ∧ t.step? answer k o = some u := by
  induction moments generalizing s with
  | nil =>
    rw [List.nil_append, run?_cons]
    constructor
    · rintro ⟨t, ht, hu⟩
      cases hu
      exact ⟨s, rfl, ht⟩
    · rintro ⟨t, ht, hu⟩
      cases ht
      exact ⟨u, hu, rfl⟩
  | cons m moments ih =>
    rw [List.cons_append, run?_cons]
    constructor
    · rintro ⟨t, ht, hu⟩
      obtain ⟨v, hv, hvu⟩ := ih.1 hu
      exact ⟨v, run?_cons.2 ⟨t, ht, hv⟩, hvu⟩
    · rintro ⟨v, hv, hvu⟩
      obtain ⟨t, ht, htv⟩ := run?_cons.1 hv
      exact ⟨t, ht, ih.2 ⟨v, htv, hvu⟩⟩

/-- the history with the moment of each exchange, the newest first -/
def timed (moments : List (Nat × ω)) (s : Interleaving I σ α) : List (ω × Occurrence I) :=
  (moments.map Prod.snd).reverse.zip s.history

theorem timed_snoc {e : Occurrence I} (hhistory : t.history = e :: s.history) :
    timed (moments ++ [(k, o)]) t = (o, e) :: timed moments s := by
  simp [timed, hhistory]

theorem length_history {world : σ} {programs : List (Program I α)}
    (hrun : (start world programs).run? answer moments = some s) : s.history.length = moments.length := by
  induction moments using List.reverseRecOn generalizing s with
  | nil =>
    cases hrun
    rfl
  | append_singleton moments m ih =>
    obtain ⟨t, ht, hstep⟩ := run?_snoc.1 hrun
    obtain ⟨r, next, -, rfl⟩ := step?_eq_some.1 hstep
    rw [List.length_cons, List.length_append, ih ht]
    rfl

theorem map_fst_timed {world : σ} {programs : List (Program I α)}
    (hrun : (start world programs).run? answer moments = some s) :
    (timed moments s).map Prod.fst = (moments.map Prod.snd).reverse := by
  refine List.map_fst_zip ?_
  rw [List.length_reverse, List.length_map, length_history hrun]

theorem map_snd_timed {world : σ} {programs : List (Program I α)}
    (hrun : (start world programs).run? answer moments = some s) : (timed moments s).map Prod.snd = s.history := by
  refine List.map_snd_zip ?_
  rw [List.length_reverse, List.length_map, length_history hrun]

/-- **Every exchange of a run was replied to by the world that the exchanges before it had left.** -/
theorem answered_of_run {world : σ} {programs : List (Program I α)} {later earlier : List (ω × Occurrence I)}
    {r : I.Request} {x : I.Reply r} (hrun : (start world programs).run? answer moments = some s)
    (hsplit : timed moments s = later ++ (o, ⟨k, ⟨r, x⟩⟩) :: earlier) :
    ∃ before t, (start world programs).run? answer before = some t ∧ timed before t = earlier ∧
      x = (answer o r t.world).1 := by
  induction moments using List.reverseRecOn generalizing s later with
  | nil =>
    cases hrun
    simp [timed] at hsplit
  | append_singleton moments m ih =>
    obtain ⟨t, ht, hstep⟩ := run?_snoc.1 hrun
    obtain ⟨r', next, -, rfl⟩ := step?_eq_some.1 hstep
    rw [timed_snoc rfl] at hsplit
    cases later with
    | nil =>
      cases hsplit
      exact ⟨moments, t, ht, rfl, rfl⟩
    | cons e later => exact ih ht (List.cons.inj hsplit).2

/-- **Every exchange of a run was made at some moment of it.** -/
theorem moment_of_run {world : σ} {programs : List (Program I α)} {later earlier : List (Occurrence I)}
    {e : Program.Exchange I} (hrun : (start world programs).run? answer moments = some s)
    (hsplit : s.history = later ++ ⟨k, e⟩ :: earlier) :
    ∃ before o after t next, moments = before ++ (k, o) :: after ∧
      (start world programs).run? answer before = some t ∧ t.history = earlier ∧
      t.programs[k]? = some (.ask e.request next) ∧ e.reply = (answer o e.request t.world).1 := by
  induction moments using List.reverseRecOn generalizing s later with
  | nil =>
    cases hrun
    cases later <;> cases hsplit
  | append_singleton moments m ih =>
    obtain ⟨j, o⟩ := m
    obtain ⟨t, ht, hstep⟩ := run?_snoc.1 hrun
    obtain ⟨r, next, hj, rfl⟩ := step?_eq_some.1 hstep
    cases later with
    | nil =>
      cases hsplit
      exact ⟨moments, o, [], t, next, rfl, ht, rfl, hj, rfl⟩
    | cons _ later =>
      obtain ⟨before, o', after, u, next', rfl, hu⟩ := ih ht (List.cons.inj hsplit).2
      exact ⟨before, o', after ++ [(j, o)], u, next', List.append_assoc before _ _, hu⟩

/-! ## One program among others -/

theorem exchangesOf_cons_self (e : Program.Exchange I) (history : List (Occurrence I)) (k : Nat) :
    exchangesOf (⟨k, e⟩ :: history) k = exchangesOf history k ++ [e] := by
  simp [exchangesOf]

theorem exchangesOf_cons_other (e : Program.Exchange I) (history : List (Occurrence I)) {j k : Nat} (h : j ≠ k) :
    exchangesOf (⟨j, e⟩ :: history) k = exchangesOf history k := by
  simp [exchangesOf, h]

theorem mem_of_mem_exchangesOf {e : Program.Exchange I} {history : List (Occurrence I)} {k : Nat}
    (h : e ∈ exchangesOf history k) : ⟨k, e⟩ ∈ history := by
  obtain ⟨occurrence, hfilter, rfl⟩ := List.mem_map.1 (List.mem_reverse.1 h)
  obtain ⟨hmem, hk⟩ := List.mem_filter.1 hfilter
  rw [← beq_iff_eq.1 hk]
  exact hmem

/-- the exchanges are those of all programs together -/
theorem perm_exchangesOf {history : List (Occurrence I)} {ks : List Nat} (hks : ks.Nodup)
    (h : ∀ e ∈ history, e.program ∈ ks) :
    (history.map Occurrence.exchange).Perm (ks.flatMap (exchangesOf history)) := by
  induction history with
  | nil =>
    have hnone : ks.flatMap (exchangesOf ([] : List (Occurrence I))) = [] := List.flatMap_eq_nil_iff.2 fun _ _ => rfl
    rw [hnone]
    exact .nil
  | cons e history ih =>
    obtain ⟨hk, hhistory⟩ := List.forall_mem_cons.1 h
    obtain ⟨before, after, rfl⟩ := List.append_of_mem hk
    obtain ⟨-, ⟨hafter, -⟩, hbefore⟩ : before.Nodup ∧ (e.program ∉ after ∧ after.Nodup) ∧
        ∀ a ∈ before, ∀ b ∈ e.program :: after, a ≠ b := by
      rw [List.nodup_append, List.nodup_cons] at hks
      exact hks
    have hsame : ∀ js : List Nat, e.program ∉ js →
        js.flatMap (exchangesOf (e :: history)) = js.flatMap (exchangesOf history) := fun js hjs =>
      List.flatMap_congr fun j hj => exchangesOf_cons_other e.exchange history fun heq => hjs (heq ▸ hj)
    have hself : exchangesOf (e :: history) e.program = exchangesOf history e.program ++ [e.exchange] :=
      exchangesOf_cons_self e.exchange history e.program
    have hnot : e.program ∉ before := fun hmem => hbefore _ hmem _ List.mem_cons_self rfl
    have hold := ih hhistory
    rw [List.flatMap_append, List.flatMap_cons] at hold
    rw [List.flatMap_append, List.flatMap_cons, hsame before hnot, hsame after hafter, hself, List.append_assoc]
    calc (e.exchange :: history.map Occurrence.exchange).Perm
          (e.exchange :: (before.flatMap (exchangesOf history) ++
            (exchangesOf history e.program ++ after.flatMap (exchangesOf history)))) := hold.cons _
      _ |>.Perm (before.flatMap (exchangesOf history) ++
            e.exchange :: (exchangesOf history e.program ++ after.flatMap (exchangesOf history))) :=
        List.perm_middle.symm
      _ |>.Perm (before.flatMap (exchangesOf history) ++
            (exchangesOf history e.program ++ e.exchange :: after.flatMap (exchangesOf history))) :=
        List.perm_middle.symm.append_left _

/-- every program got to where it is by its own exchanges -/
def Led (programs : List (Program I α)) (s : Interleaving I σ α) : Prop :=
  s.programs.length = programs.length ∧
    ∀ (k : Nat) p, programs[k]? = some p → ∃ q, s.programs[k]? = some q ∧ p.Leads (exchangesOf s.history k) q

theorem Led.of_getElem? {programs : List (Program I α)} {q : Program I α} (h : Led programs s)
    (hk : s.programs[k]? = some q) : ∃ p, programs[k]? = some p ∧ p.Leads (exchangesOf s.history k) q := by
  have hlt : k < programs.length := h.1 ▸ (List.getElem?_eq_some_iff.1 hk).1
  obtain ⟨q', hq', hleads⟩ := h.2 k _ (List.getElem?_eq_getElem hlt)
  cases hk.symm.trans hq'
  exact ⟨_, List.getElem?_eq_getElem hlt, hleads⟩

theorem step_led {programs : List (Program I α)} (h : s.step? answer k o = some t) (hs : Led programs s) :
    Led programs t := by
  obtain ⟨r, next, hk, rfl⟩ := step?_eq_some.1 h
  refine ⟨(List.length_set ..).trans hs.1, fun j p hp => ?_⟩
  obtain ⟨q, hq, hleads⟩ := hs.2 j p hp
  by_cases hj : k = j
  · subst hj
    rw [hk] at hq
    cases hq
    refine ⟨_, List.getElem?_set_self (List.getElem?_eq_some_iff.1 hk).1, ?_⟩
    rw [exchangesOf_cons_self]
    exact hleads.snoc _
  · refine ⟨q, (List.getElem?_set_ne hj).trans hq, ?_⟩
    rw [exchangesOf_cons_other _ _ hj]
    exact hleads

theorem led_start (world : σ) (programs : List (Program I α)) : Led programs (start world programs) :=
  ⟨rfl, fun _ p hp => ⟨p, hp, .rest p⟩⟩

/-- **Every program got to where it is by its own exchanges.** -/
theorem leads_of_run {world : σ} {programs : List (Program I α)}
    (hrun : (start world programs).run? answer moments = some s) : Led programs s :=
  run_preserves (fun _ _ _ _ => step_led) hrun (led_start world programs)

theorem program_lt_of_run {world : σ} {programs : List (Program I α)}
    (hrun : (start world programs).run? answer moments = some s) : ∀ e ∈ s.history, e.program < programs.length := by
  refine (run_preserves (P := fun s => s.programs.length = programs.length ∧
    ∀ e ∈ s.history, e.program < programs.length) ?_ hrun ⟨rfl, List.forall_mem_nil _⟩).2
  rintro s k o t h ⟨hlength, hhistory⟩
  obtain ⟨r, next, hk, rfl⟩ := step?_eq_some.1 h
  refine ⟨(List.length_set ..).trans hlength, List.forall_mem_cons.2 ⟨?_, hhistory⟩⟩
  exact hlength ▸ (List.getElem?_eq_some_iff.1 hk).1

/-- every exchange of the history was asked for by its program, after the exchanges before it -/
def Asked (allowed : Nat → List (Program.Exchange I) → I.Request → Prop) (history : List (Occurrence I)) : Prop :=
  ∀ later e earlier, history = later ++ e :: earlier →
    allowed e.program (exchangesOf earlier e.program) e.exchange.request

/-- **Every exchange of a run was asked for by its program.** -/
theorem asked_of_run {world : σ} {programs : List (Program I α)}
    {allowed : Nat → List (Program.Exchange I) → I.Request → Prop}
    (hasks : ∀ (k : Nat) p, programs[k]? = some p → p.Asks (allowed k))
    (hrun : (start world programs).run? answer moments = some s) : Asked allowed s.history := by
  have hstart : Asked allowed (start world programs : Interleaving I σ α).history := by
    intro later e earlier h
    cases later <;> cases h
  refine (run_preserves (P := fun s => Led programs s ∧ Asked allowed s.history) ?_ hrun
    ⟨led_start world programs, hstart⟩).2
  rintro s k o t h ⟨hled, hasked⟩
  refine ⟨step_led h hled, ?_⟩
  obtain ⟨r, next, hk, rfl⟩ := step?_eq_some.1 h
  intro later e earlier hsplit
  cases later with
  | nil =>
    cases hsplit
    obtain ⟨p, hp, hleads⟩ := hled.of_getElem? hk
    exact hasks k p hp _ _ _ hleads
  | cons _ later => exact hasked later e earlier (List.cons.inj hsplit).2

/-! ## Counting -/

theorem step_countP {programs : List (Program I α)} {signal : Program.Exchange I → Bool}
    {described : Program I α → Bool}
    (htells : ∀ p ∈ programs, p.Tells signal described 0) (hled : Led programs s) (h : s.step? answer k o = some t)
    (hs : s.history.countP (fun e => signal e.exchange) = s.programs.countP described) :
    t.history.countP (fun e => signal e.exchange) = t.programs.countP described := by
  obtain ⟨r, next, hk, rfl⟩ := step?_eq_some.1 h
  obtain ⟨hlt, hget⟩ := List.getElem?_eq_some_iff.1 hk
  obtain ⟨p, hp, hleads⟩ := hled.of_getElem? hk
  have hbefore := htells p (List.mem_of_getElem? hp) _ _ hleads
  have hafter := htells p (List.mem_of_getElem? hp) _ _ (hleads.snoc (answer o r s.world).1)
  rw [List.countP_append, List.countP_singleton] at hafter
  -- the program that goes on is among those counted, so taking it out of the count is exact
  have hpos : (if described (.ask r next) then 1 else 0) ≤ s.programs.countP described := by
    split
    · next hd => exact List.countP_pos_iff.2 ⟨_, List.mem_of_getElem? hk, hd⟩
    · exact Nat.zero_le _
  rw [List.countP_cons, hs, List.countP_set hlt, hget]
  dsimp only
  omega

/-- **What is seen of the programs is counted in the history.** -/
theorem countP_of_run {world : σ} {programs : List (Program I α)} {signal : Program.Exchange I → Bool}
    {described : Program I α → Bool} (htells : ∀ p ∈ programs, p.Tells signal described 0)
    (hrun : (start world programs).run? answer moments = some s) :
    s.history.countP (fun e => signal e.exchange) = s.programs.countP described := by
  have hnone : programs.countP described = 0 := by
    rw [List.countP_eq_zero]
    intro p hp hd
    have := htells p hp [] p (.rest p)
    simp [hd] at this
  have hall : Led programs s ∧ s.history.countP (fun e => signal e.exchange) = s.programs.countP described :=
    run_preserves (P := fun s => Led programs s ∧ s.history.countP (fun e => signal e.exchange) =
      s.programs.countP described) (fun _ _ _ _ h hs => ⟨step_led h hs.1, step_countP htells hs.1 h hs.2⟩) hrun
      ⟨led_start world programs, hnone.symm⟩
  exact hall.2

end Interleaving

end AccountStats
