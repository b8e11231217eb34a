import Mathlib.Tactic
import AccountStats.Cache.Memory
import AccountStats.Freshness
import AccountStats.Proofs.Association
import AccountStats.Proofs.Program.Interleaving
/-
The cache in the process as a plain map whose entries run out.

Calls on the cache are interleaved step by step, in any order, on a clock that never goes back. A slot that has run out
stays in its place until it is looked up or purged, and between a look-up that saw it and its removal others may have
put a new one there. None of this can be told from outside. Results:
- `slot?_evict`, `slot?_set`, `slot?_delete`, `slot?_purge`: what each step does to the slot of a key;
- `step_holds`: a slot is the one written last, or it is gone because that one had run out;
- `plain_map`: what look-ups find, what becomes of slots that have not run out, and what a purge removes, after any run.
-/
namespace AccountStats.Cache

/-- a call that every cache takes -/
inductive Call where
  | get (username : String)
  | set (username : String) (entry : Entry) (ttl : Duration)
  | delete (username : String)
deriving DecidableEq, Repr

namespace Memory

open Association

variable {m : Memory} {slots : List (String × Slot)} {k : String} {s : Slot} {now : Nat}

/-! ## Slots by key -/

theorem lookup_put (j : String) : (put k s slots).lookup j = if j = k then some s else slots.lookup j := by
  induction slots with
  | nil =>
    rw [put, lookup_cons]
  | cons e slots ih =>
    obtain ⟨k', s'⟩ := e
    rw [put, lookup_cons]
    split
    · next heq =>
      subst heq
      rw [lookup_cons]
      by_cases h : j = k'
      · rw [if_pos h, if_pos h]
      · rw [if_neg h, if_neg h, if_neg h]
    · next hne =>
      rw [lookup_cons, ih]
      by_cases h : j = k'
      · rw [if_pos h, if_pos h, if_neg fun hk => hne (h.symm.trans hk)]
      · rw [if_neg h, if_neg h]

theorem keys_put : (put k s slots).map Prod.fst =
    if k ∈ slots.map Prod.fst then slots.map Prod.fst else slots.map Prod.fst ++ [k] := by
  induction slots with
  | nil => rfl
  | cons e slots ih =>
    obtain ⟨k', s'⟩ := e
    rw [put]
    split
    · next heq => simp [heq]
    · next hne =>
      rw [List.map_cons, ih, List.map_cons]
      by_cases hmem : k ∈ slots.map Prod.fst
      · rw [if_pos hmem, if_pos (List.mem_cons_of_mem _ hmem)]
      · have hnot : k ∉ k' :: slots.map Prod.fst := by
          rw [List.mem_cons]
          rintro (rfl | h)
          · exact hne rfl
          · exact hmem h
        rw [if_neg hmem, if_neg hnot, List.cons_append]

theorem keyed_put (h : Keyed slots) : Keyed (put k s slots) := by
  unfold Keyed at h ⊢
  rw [keys_put]
  split
  · exact h
  · next hnot =>
    rw [List.nodup_append]
    refine ⟨h, List.nodup_singleton k, ?_⟩
    intro a ha b hb hab
    rw [List.mem_singleton] at hb
    exact hnot (hb ▸ hab ▸ ha)

/-! ## What each step does to a slot -/

theorem slot?_evict (h : Keyed m.slots) (now : Nat) (u k : String) :
    (m.evict now u).slot? k = if k = key u then (m.slot? k).filter fun s => s.live now else m.slot? k := by
  rw [slot?, evict, lookup_filter _ h]
  by_cases hk : k = key u
  · simp [hk, slot?]
  · rw [if_neg hk, slot?]
    cases m.slots.lookup k <;> simp [hk]

theorem slot?_set (now : Nat) (u : String) (e : Entry) (ttl : Nat) (k : String) :
    (m.set now u e ttl).slot? k = if k = key u then some ⟨e, now + ttl⟩ else m.slot? k :=
  lookup_put k

theorem slot?_delete (h : Keyed m.slots) (u k : String) :
    (m.delete u).slot? k = if k = key u then none else m.slot? k := by
  rw [slot?, delete, lookup_filter _ h]
  by_cases hk : k = key u
  · simp [hk]
  · rw [if_neg hk, slot?]
    cases m.slots.lookup k <;> simp [hk]

theorem slot?_purge (h : Keyed m.slots) (now : Nat) (k : String) :
    (m.purge now).2.slot? k = (m.slot? k).filter fun s => s.live now :=
  lookup_filter _ h k

/-- a purge counts the slots that have run out -/
theorem purge_count (m : Memory) (now : Nat) : (m.purge now).1 = m.slots.countP fun e => !e.2.live now := by
  have hlength := List.length_eq_countP_add_countP (p := fun e : String × Slot => e.2.live now) (l := m.slots)
  simp only [purge, ← List.countP_eq_length_filter]
  simp only [Bool.not_eq_true, Bool.decide_eq_false] at hlength
  omega

/-! ## Calls step by step -/

/-- the type of the reply to each step -/
abbrev Op.Reply : Op → Type
  | .lookup _ => Found
  | .purge => Nat
  | .evict _ | .set _ _ _ | .delete _ => Unit

abbrev Calls : Interface := ⟨Op, Op.Reply⟩

/-- one step -/
def ask (r : Op) : Program Calls r.Reply := Program.ask r Program.done

/-- a step at a clock reading -/
def answer (now : Nat) (r : Op) (m : Memory) : r.Reply × Memory :=
  match r with
  | .lookup u => (m.lookup now u, m)
  | .evict u => ((), m.evict now u)
  | .set u e ttl => ((), m.set now u e ttl)
  | .delete u => ((), m.delete u)
  | .purge => m.purge now

theorem answer_step (now : Nat) (r : Op) (m : Memory) : (answer now r m).2 = m.step (now, r) := by
  cases r <;> rfl

/-- what is done with the cache: calls from outside, and purging it -/
inductive Job where
  | call (c : Call)
  | purge
deriving DecidableEq, Repr

/-- what a job comes to -/
inductive Outcome where
  | found (entry : Option Entry)
  | purged (count : Nat)
  | changed
deriving DecidableEq, Repr

/-- the entry that a look-up hits -/
def Found.entry? : Found → Option Entry
  | .hit e => some e
  | .expired | .nothing => none

namespace Job

/-- how a call goes on from what its look-up found; whoever sees an expired slot sees to its removal -/
def afterLookup (u : String) : Found → Program Calls Outcome
  | .hit e => return .found (some e)
  | .expired => do
    ask (.evict u)
    return .found none
  | .nothing => return .found none

def program : Job → Program Calls Outcome
  | .call (.get u) => do afterLookup u (← ask (.lookup u))
  | .call (.set u e ttl) => do
    ask (.set u e ttl)
    return .changed
  | .call (.delete u) => do
    ask (.delete u)
    return .changed
  | .purge => do return .purged (← ask .purge)

/-- all jobs are about to begin on an empty cache -/
def start (jobs : List Job) : Interleaving Calls Memory Outcome := .start .empty (jobs.map program)

end Job

/-! ## The plain map -/

/-- a write of an entry: when, and for how long -/
structure Written where
  entry : Entry
  time : Nat
  ttl : Nat
deriving DecidableEq, Repr

namespace Written

def expiresAt (w : Written) : Nat := w.time + w.ttl

def slot (w : Written) : Slot := ⟨w.entry, w.expiresAt⟩

end Written

/-- what was written last for an account, whatever the case of the letters in its name; nothing if that was deleted, or
there was none. The newest step comes first. -/
def latest (username : String) : List (Nat × Op) → Option Written
  | [] => none
  | (now, .set u e ttl) :: earlier =>
    if Text.lowered u = Text.lowered username then some ⟨e, now, ttl⟩ else latest username earlier
  | (_, .delete u) :: earlier => if Text.lowered u = Text.lowered username then none else latest username earlier
  | (_, .lookup _) :: earlier | (_, .evict _) :: earlier | (_, .purge) :: earlier => latest username earlier

variable {log : List (Nat × Op)} {slot : Option Slot} {u v : String} {r : Op}

theorem latest_set {e : Entry} {ttl : Nat} : latest u ((now, .set v e ttl) :: log) =
    if Text.lowered v = Text.lowered u then some ⟨e, now, ttl⟩ else latest u log := rfl

theorem latest_delete : latest u ((now, .delete v) :: log) =
    if Text.lowered v = Text.lowered u then none else latest u log := rfl

theorem key_eq_iff : key u = key v ↔ Text.lowered v = Text.lowered u := eq_comm

/-- a slot is what was written last for an account, or there is none and what was written last had run out -/
def Current (slot : Option Slot) (u : String) (log : List (Nat × Op)) : Prop :=
  slot = (latest u log).map Written.slot ∨
    slot = none ∧ ∀ w, latest u log = some w → ∃ step ∈ log, w.expiresAt ≤ step.1

theorem Current.later (h : Current slot u log) (hlatest : latest u ((now, r) :: log) = latest u log) :
    Current slot u ((now, r) :: log) := by
  unfold Current
  rw [hlatest]
  refine h.imp_right ?_
  rintro ⟨hnone, hout⟩
  refine ⟨hnone, fun w hw => ?_⟩
  obtain ⟨step, hstep, hle⟩ := hout w hw
  exact ⟨step, List.mem_cons_of_mem _ hstep, hle⟩

/-- a slot may go once it has run out -/
theorem Current.shed (h : Current slot u log) (hlatest : latest u ((now, r) :: log) = latest u log) :
    Current (slot.filter fun s => s.live now) u ((now, r) :: log) := by
  rcases h with hwritten | ⟨hnone, hout⟩
  · cases hw : latest u log with
    | none =>
      rw [hwritten, hw]
      exact Or.inl (by rw [hlatest, hw]; rfl)
    | some w =>
      rw [hwritten, hw, Option.map_some, Option.filter_some]
      split
      · exact Or.inl (by rw [hlatest, hw]; rfl)
      · next hdead =>
        refine Or.inr ⟨rfl, fun w' hw' => ⟨(now, r), List.mem_cons_self, ?_⟩⟩
        rw [hlatest, hw] at hw'
        cases hw'
        exact Nat.not_lt.1 fun hlt => hdead (decide_eq_true hlt)
  · rw [hnone, Option.filter_none]
    exact Current.later (Or.inr ⟨rfl, hout⟩) hlatest

/-- the slots that writes have left -/
structure Holds (m : Memory) (log : List (Nat × Op)) : Prop where
  keyed : Keyed m.slots
  current : ∀ u, Current (m.slot? (key u)) u log

theorem holds_empty : Holds .empty [] where
  keyed := List.nodup_nil
  current _ := Or.inl rfl

theorem Holds.later (h : Holds m log) (hlatest : ∀ u, latest u ((now, r) :: log) = latest u log) :
    Holds m ((now, r) :: log) := ⟨h.keyed, fun u => (h.current u).later (hlatest u)⟩

/-- removing a slot that has run out is no write, whatever it is done for -/
theorem Holds.evict (h : Holds m log) (v : String) (hlatest : ∀ u, latest u ((now, r) :: log) = latest u log) :
    Holds (m.evict now v) ((now, r) :: log) := by
  refine ⟨keyed_filter _ h.keyed, fun u => ?_⟩
  rw [slot?_evict h.keyed]
  split
  · exact (h.current u).shed (hlatest u)
  · exact (h.current u).later (hlatest u)

/-- **Every step leaves each slot as the last write made it, or gone because that write had run out.** -/
theorem step_holds (now : Nat) (r : Op) (h : Holds m log) : Holds (m.step (now, r)) ((now, r) :: log) := by
  cases r with
  | lookup v => exact h.later fun _ => rfl
  | evict v => exact h.evict v fun _ => rfl
  | purge =>
    refine ⟨keyed_filter _ h.keyed, fun u => ?_⟩
    change Current ((m.purge now).2.slot? (key u)) u _
    rw [slot?_purge h.keyed]
    exact (h.current u).shed rfl
  | set v e ttl =>
    refine ⟨keyed_put h.keyed, fun u => ?_⟩
    change Current ((m.set now v e ttl).slot? (key u)) u _
    rw [slot?_set]
    split
    · next hsame => exact Or.inl (by rw [latest_set, if_pos (key_eq_iff.1 hsame)]; rfl)
    · next hother => exact (h.current u).later (by rw [latest_set, if_neg fun hk => hother (key_eq_iff.2 hk)])
  | delete v =>
    refine ⟨keyed_filter _ h.keyed, fun u => ?_⟩
    change Current ((m.delete v).slot? (key u)) u _
    rw [slot?_delete h.keyed]
    split
    · next hsame => exact Or.inl (by rw [latest_delete, if_pos (key_eq_iff.1 hsame)]; rfl)
    · next hother => exact (h.current u).later (by rw [latest_delete, if_neg fun hk => hother (key_eq_iff.2 hk)])

/-- a look-up no earlier than all that was done finds what was written last, unless it has run out -/
theorem Holds.lookup (h : Holds m log) (hclock : ∀ step ∈ log, step.1 ≤ now) (u : String) (e : Entry) :
    m.lookup now u = .hit e ↔ ∃ w, latest u log = some w ∧ w.entry = e ∧ now < w.time + w.ttl := by
  rw [Memory.lookup]
  rcases h.current u with hwritten | ⟨hnone, hout⟩
  · rw [hwritten]
    cases latest u log with
    | none => simp
    | some w =>
      by_cases hlive : now < w.time + w.ttl <;> simp [Slot.live, Written.slot, Written.expiresAt, hlive]
  · rw [hnone]
    refine iff_of_false nofun ?_
    rintro ⟨w, hw, -, hlt⟩
    obtain ⟨step, hstep, hle⟩ := hout w hw
    have := hclock step hstep
    unfold Written.expiresAt at hle
    omega

/-! ## After any run -/

open Interleaving (timed)

/-- the clock reading and the request of each step, the newest first -/
def logOf (history : List (Nat × Occurrence Calls)) : List (Nat × Op) :=
  history.map fun e => (e.1, e.2.exchange.request)

variable {jobs : List Job} {moments : List (Nat × Nat)} {i : Interleaving Calls Memory Outcome}

theorem holds_of_run (hrun : (Job.start jobs).run? answer moments = some i) :
    Holds i.world (logOf (timed moments i)) := by
  induction moments using List.reverseRecOn generalizing i with
  | nil =>
    cases hrun
    exact holds_empty
  | append_singleton moments moment ih =>
    obtain ⟨j, hj, hstep⟩ := Interleaving.run?_snoc.1 hrun
    obtain ⟨r, next, -, rfl⟩ := Interleaving.step?_eq_some.1 hstep
    rw [Interleaving.timed_snoc rfl, answer_step]
    exact step_holds moment.2 r (ih hj)

/-- on a clock that never goes back, no step is later than the ones after it -/
theorem clock_of_timed {later earlier : List (Nat × Occurrence Calls)} {e : Nat × Occurrence Calls}
    (hrun : (Job.start jobs).run? answer moments = some i) (hclock : (moments.map Prod.snd).Pairwise (· ≤ ·))
    (hsplit : timed moments i = later ++ e :: earlier) : ∀ step ∈ logOf earlier, step.1 ≤ e.1 := by
  have hreadings : ((later ++ e :: earlier).map Prod.fst).Pairwise (fun a b => b ≤ a) := by
    rw [← hsplit, Interleaving.map_fst_timed hrun, List.pairwise_reverse]
    exact hclock
  rw [List.map_append, List.map_cons] at hreadings
  have hearlier := (List.pairwise_cons.1 (List.pairwise_append.1 hreadings).2.1).1
  intro step hstep
  obtain ⟨f, hf, rfl⟩ := List.mem_map.1 hstep
  exact hearlier f.1 (List.mem_map_of_mem hf)

/-- a slot that has not run out goes by no step but a deletion of its key, or a write to it that takes its place -/
theorem step_kept (h : Keyed m.slots) (r : Op) (u : String) (hslot : m.slot? (key u) = some s)
    (hlive : s.live now = true) :
    (m.step (now, r)).slot? (key u) = some s ∨
      (∃ v, r = .delete v ∧ key v = key u) ∨ ∃ v e ttl, r = .set v e ttl ∧ key v = key u := by
  cases r with
  | lookup v => exact Or.inl hslot
  | evict v =>
    refine Or.inl ?_
    change (m.evict now v).slot? (key u) = some s
    rw [slot?_evict h, hslot, Option.filter_some, if_pos hlive, ite_self]
  | purge =>
    refine Or.inl ?_
    change (m.purge now).2.slot? (key u) = some s
    rw [slot?_purge h, hslot, Option.filter_some, if_pos hlive]
  | set v e ttl =>
    by_cases hsame : key u = key v
    · exact Or.inr (Or.inr ⟨v, e, ttl, rfl, hsame.symm⟩)
    · refine Or.inl ?_
      change (m.set now v e ttl).slot? (key u) = some s
      rw [slot?_set, if_neg hsame, hslot]
  | delete v =>
    by_cases hsame : key u = key v
    · exact Or.inr (Or.inl ⟨v, rfl, hsame.symm⟩)
    · refine Or.inl ?_
      change (m.delete v).slot? (key u) = some s
      rw [slot?_delete h, if_neg hsame, hslot]

/-- a look-up that is over has found what its first step did -/
theorem get_outcome {username : String} {es : List (Program.Exchange Calls)} {o : Outcome}
    (h : (Job.program (.call (.get username))).Leads es (.done o)) :
    ∃ x, (⟨.lookup username, x⟩ : Program.Exchange Calls) ∈ es ∧ o = .found x.entry? := by
  rcases Program.leads_ask.1 h with ⟨-, hq⟩ | ⟨x, es', rfl, h'⟩
  · cases hq
  refine ⟨x, List.mem_cons_self, ?_⟩
  cases x with
  | hit e =>
    cases (Program.leads_done.1 h').2
    rfl
  | nothing =>
    cases (Program.leads_done.1 h').2
    rfl
  | expired =>
    rcases Program.leads_ask.1 h' with ⟨-, hq⟩ | ⟨y, es'', rfl, h''⟩
    · cases hq
    · cases (Program.leads_done.1 h'').2
      rfl

/-- what can be told of the cache after a run: of what it has replied, and of what the next step will do to it -/
structure PlainMap (jobs : List Job) (moments : List (Nat × Nat)) (i : Interleaving Calls Memory Outcome) : Prop where
  /-- a look-up hits what was written last before it, if that has not run out, and nothing otherwise -/
  lookups : ∀ later now k username x earlier,
    timed moments i = later ++ (now, ⟨k, ⟨.lookup username, x⟩⟩) :: earlier →
    ∀ e, x = .hit e ↔ ∃ w, latest username (logOf earlier) = some w ∧ w.entry = e ∧ now < w.time + w.ttl
  /-- a call that is over has found what its look-up hit, whatever became of the slot since -/
  results : ∀ (k : Nat) username o, jobs[k]? = some (.call (.get username)) → i.programs[k]? = some (.done o) →
    ∃ x now, (now, ⟨k, ⟨.lookup username, x⟩⟩) ∈ timed moments i ∧ o = .found x.entry?
  /-- a slot that has not run out stays, unless its key is deleted or written to -/
  kept : ∀ k now j r x, i.step? answer k now = some j → j.history = ⟨k, ⟨r, x⟩⟩ :: i.history →
    ∀ username slot, i.world.slot? (key username) = some slot → slot.live now = true →
    j.world.slot? (key username) = some slot ∨
      (∃ v, r = .delete v ∧ key v = key username) ∨ ∃ v e ttl, r = .set v e ttl ∧ key v = key username
  /-- a purge counts the slots that have run out, and leaves the others -/
  purged : ∀ k now j n, i.step? answer k now = some j → j.history = ⟨k, ⟨.purge, n⟩⟩ :: i.history →
    n = i.world.slots.countP (fun e => !e.2.live now) ∧ j.world.slots = i.world.slots.filter fun e => e.2.live now

/-- **Calls in any interleaving see a plain map whose entries run out.** -/
theorem plain_map (hrun : (Job.start jobs).run? answer moments = some i)
    (hclock : (moments.map Prod.snd).Pairwise (· ≤ ·)) : PlainMap jobs moments i where
  lookups later now k username x earlier hsplit e := by
    obtain ⟨before, j, hj, rfl, rfl⟩ := Interleaving.answered_of_run hrun hsplit
    exact (holds_of_run hj).lookup (clock_of_timed hrun hclock hsplit) username e
  results k username o hjob hover := by
    obtain ⟨p, hp, hleads⟩ := (Interleaving.leads_of_run hrun).of_getElem? hover
    rw [List.getElem?_map, hjob, Option.map_some, Option.some.injEq] at hp
    subst hp
    obtain ⟨x, hx, ho⟩ := get_outcome hleads
    have hmem := Interleaving.mem_of_mem_exchangesOf hx
    rw [← Interleaving.map_snd_timed hrun] at hmem
    obtain ⟨⟨now, e⟩, he, rfl⟩ := List.mem_map.1 hmem
    exact ⟨x, now, he, ho⟩
  kept k now j r x hstep hhistory username slot hslot hlive := by
    obtain ⟨r', next, -, rfl⟩ := Interleaving.step?_eq_some.1 hstep
    cases hhistory
    rw [answer_step]
    exact step_kept (holds_of_run hrun).keyed r username hslot hlive
  purged k now j n hstep hhistory := by
    obtain ⟨r', next, -, rfl⟩ := Interleaving.step?_eq_some.1 hstep
    cases hhistory
    exact ⟨purge_count i.world now, rfl⟩

/-! ## A write between a look-up and its removal -/

/-- an entry of this many repositories -/
def entryOf (repos : Int64) : Entry := ⟨.start repos, .epoch⟩

/-- an entry is replaced, under another spelling of its key -/
def replaced : List Job :=
  [.call (.set "octocat" (entryOf 1) 5), .call (.get "OctoCat"), .call (.set "OCTOCAT" (entryOf 2) 10),
    .call (.get "octocat"), .purge]

/-- after a look-up has seen that the first one has run out, and before its slot is removed -/
def replacedInBetween : List (Nat × Nat) := [(0, 0), (1, 5), (2, 6), (1, 7), (3, 15), (4, 15)]

theorem plain_map_replaced : (replacedInBetween.map Prod.snd).Pairwise (· ≤ ·) ∧
    ∃ i, (Job.start replaced).run? answer replacedInBetween = some i ∧
      i.world.slots = [("octocat", ⟨entryOf 2, 16⟩)] ∧ PlainMap replaced replacedInBetween i := by
  have hclock : (replacedInBetween.map Prod.snd).Pairwise (· ≤ ·) := by decide
  have hrun : ((Job.start replaced).run? answer replacedInBetween).map (fun i => i.world.slots) =
      some [("octocat", ⟨entryOf 2, 16⟩)] := by decide +kernel
  obtain ⟨i, hi, hslots⟩ := Option.map_eq_some_iff.1 hrun
  exact ⟨hclock, i, hi, hslots, plain_map hi hclock⟩

end Memory

end AccountStats.Cache
