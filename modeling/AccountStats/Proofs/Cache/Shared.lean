import Mathlib.Tactic
import AccountStats.Cache.Shared
import AccountStats.Redis.Keys
import AccountStats.Proofs.Account.Wire
import AccountStats.Proofs.Cache.Memory
import AccountStats.Proofs.Program.Running
import AccountStats.Proofs.Text.Utf8
/-
The shared cache as the cache in the process.

Both are given the same calls at the same times. What they reply is worked out from the same thing: what was written last
for an account, and when it runs out. The cache in the process keeps that in its slots, the shared one in the keys of
its server, as text and in whole seconds. Results:
- `program_trace`: what a call asks the server for, and what it makes of the reply;
- `decoded_payload`: an entry is read back from the bytes it is sent as;
- `step_mirrors`: after every call the keys of the server hold what was written last;
- `shared_as_memory`: both caches reply the same, and the shared one never fails.
-/
namespace AccountStats.Cache

/-- the replies to calls, each made at its time on what the ones before it have left -/
def replies {σ ρ : Type} (serve : Nat → Call → σ → ρ × σ) : σ → List (Nat × Call) → List ρ
  | _, [] => []
  | s, (now, c) :: calls => (serve now c s).1 :: replies serve (serve now c s).2 calls

namespace Memory

/-- a call without anything in between -/
def serve (now : Nat) (c : Call) (m : Memory) : Except CacheError (Option Entry) × Memory :=
  match c with
  | .get u => (.ok (m.get now u).1, (m.get now u).2)
  | .set u e ttl => (.ok none, m.set now u e ttl)
  | .delete u => (.ok none, m.delete u)

/-- the step of a call that counts for what is written -/
def opOf : Call → Op
  | .get u => .lookup u
  | .set u e ttl => .set u e ttl
  | .delete u => .delete u

variable {m : Memory} {log : List (Nat × Op)} {now : Nat}

/-- the entry of a write that has not run out -/
def due (now : Nat) (w : Option Written) : Option Entry :=
  w.bind fun w => if now < w.expiresAt then some w.entry else none

theorem get_eq_due (h : Holds m log) (hclock : ∀ step ∈ log, step.1 ≤ now) (u : String) :
    (m.get now u).1 = due now (latest u log) := by
  have hhit : ∀ e, (m.get now u).1 = some e ↔ m.lookup now u = .hit e := by
    intro e
    rw [get]
    cases m.lookup now u <;> simp
  ext e
  rw [hhit, h.lookup hclock]
  cases latest u log with
  | none => simp [due]
  | some w =>
    simp only [due, Option.some.injEq, exists_eq_left', Option.bind_some, Option.ite_none_right_eq_some]
    exact and_comm

theorem serve_holds (now : Nat) (c : Call) (h : Holds m log) : Holds (serve now c m).2 ((now, opOf c) :: log) := by
  cases c with
  | get u =>
    change Holds (m.get now u).2 _
    rw [get]
    cases m.lookup now u with
    | hit e => exact h.later fun _ => rfl
    | expired => exact h.evict u fun _ => rfl
    | nothing => exact h.later fun _ => rfl
  | set u e ttl => exact step_holds now (.set u e ttl) h
  | delete u => exact step_holds now (.delete u) h

end Memory

namespace Shared

open Program (Exchange Runs Replied runs_ask runs_done)

/-! ## What a call asks for -/

def program : Call → Program Redis.Calls (Except CacheError (Option Entry))
  | .get u => get u
  | .set u e ttl => do return (← set u e ttl).map fun () => none
  | .delete u => do return (← delete u).map fun () => none

/-- the command that a call sends -/
def command : Call → Redis.Ask
  | .get u => .get (keyOf u)
  | .set u e ttl => .setex (keyOf u) (lifetime ttl) e.toJson.render
  | .delete u => .del (keyOf u)

/-- the entry that a value is the text of -/
def decoded (value : ByteArray) : Option Entry := do Entry.ofJson? (← Json.readText (← Text.decodeUtf8 value))

/-- the entry that a look-up finds in the reply to it; a failure is a miss, and so is what is no entry -/
def found : Except String (Option ByteArray) → Option Entry
  | .ok (some value) => decoded value
  | .ok none | .error _ => none

def outcome : (c : Call) → (command c).Reply → Option Entry
  | .get _, x => found x
  | .set _ _ _, _ | .delete _, _ => none

theorem found_value (value : Option ByteArray) :
    found (.ok value) = match Payload.ofValue value with
      | .entry e => some e
      | .none | .undecodable | .bytes => none := by
  cases value with
  | none => rfl
  | some value =>
    change (Text.decodeUtf8 value >>= fun s => Json.readText s >>= Entry.ofJson?) = _
    rw [Payload.ofValue]
    cases Text.decodeUtf8 value with
    | none => rfl
    | some s =>
      change Json.readText s >>= Entry.ofJson? = _
      dsimp only
      cases Json.readText s >>= Entry.ofJson? <;> rfl

/-- a look-up from what was found on -/
def byPayload (username : String) : Payload → Program Redis.Calls (Except CacheError (Option Entry))
  | .entry e => do
    Redis.note (.debug "Cache HIT" [("username", username)])
    return .ok (some e)
  | .undecodable => do
    Redis.note (.warn "Discarding undecodable cache entry" [("username", username)])
    return .ok none
  | .none => do
    Redis.note (.debug "Cache MISS" [("username", username)])
    return .ok none
  | .bytes => do
    noteGetError username "Cannot convert from UTF-8"
    return .ok none

theorem runs_note {α : Type} {n : Note} {a b : α} {es : List (Exchange Redis.Calls)}
    (h : (do Redis.note n; return a : Program Redis.Calls α).Runs es b) : es = [⟨.note n, ()⟩] ∧ b = a := by
  obtain ⟨_, rest, rfl, hrest⟩ := runs_ask.1 h
  obtain ⟨rfl, rfl⟩ := runs_done.1 hrest
  exact ⟨rfl, rfl⟩

/-- **A call sends its command, notes what there is to note, and succeeds.** -/
theorem program_trace {c : Call} {es : List (Exchange Redis.Calls)} {r : Except CacheError (Option Entry)}
    (h : (program c).Runs es r) :
    ∃ x, ∃ notes : List Note, es = ⟨command c, x⟩ :: notes.map (fun n => ⟨.note n, ()⟩) ∧ r = .ok (outcome c x) := by
  cases c with
  | get u =>
    obtain ⟨x, rest, rfl, hrest⟩ := runs_ask.1 h
    cases x with
    | error e =>
      obtain ⟨rfl, rfl⟩ := runs_note hrest
      exact ⟨.error e, [_], rfl, rfl⟩
    | ok value =>
      have hfound := found_value value
      change Runs (byPayload u (Payload.ofValue value)) rest r at hrest
      cases hpayload : Payload.ofValue value <;>
      · rw [hpayload] at hrest hfound
        obtain ⟨rfl, rfl⟩ := runs_note hrest
        exact ⟨.ok value, [_], rfl, congrArg Except.ok hfound.symm⟩
  | set u e ttl =>
    obtain ⟨x, rest, rfl, hrest⟩ := runs_ask.1 h
    cases x with
    | error err =>
      obtain ⟨rfl, rfl⟩ := runs_note hrest
      exact ⟨.error err, [_], rfl, rfl⟩
    | ok _ =>
      obtain ⟨rfl, rfl⟩ := runs_note hrest
      exact ⟨.ok (), [_], rfl, rfl⟩
  | delete u =>
    obtain ⟨x, rest, rfl, hrest⟩ := runs_ask.1 h
    cases x with
    | error err =>
      obtain ⟨rfl, rfl⟩ := runs_note hrest
      exact ⟨.error err, [_], rfl, rfl⟩
    | ok n =>
      refine ⟨.ok n, ?_⟩
      cases n with
      | zero =>
        obtain ⟨rfl, rfl⟩ := runs_done.1 hrest
        exact ⟨[], rfl, rfl⟩
      | succ n =>
        obtain ⟨rfl, rfl⟩ := runs_note hrest
        exact ⟨[_], rfl, rfl⟩

/-- an entry is read back from the bytes it is sent as -/
theorem decoded_payload (e : Entry) : decoded e.toJson.render.toUTF8 = some e := by
  rw [decoded, Text.decodeUtf8_toUTF8, Option.bind_eq_bind, Option.bind_some]
  exact Entry.undoes_json.readText_render e

/-! ## A server -/

section Server

variable {σ : Type} (server : Nat → (r : Redis.Ask) → σ → r.Reply × σ) (start : σ)

/-- a call, with all its requests replied to at one time -/
def serve (now : Nat) (c : Call) : σ → Except CacheError (Option Entry) × σ := (program c).run (server now)

/-- what these requests have left, the newest of which comes first -/
def after : List (Nat × Redis.Ask) → σ
  | [] => start
  | (now, r) :: log => (server now r (after log)).2

/-- what a key was set to last, and when that runs out; nothing if it was deleted since -/
def held (key : String) : List (Nat × Redis.Ask) → Option (String × Nat)
  | [] => none
  | (now, .setex k seconds payload) :: log =>
    if k = key then some (payload, now + Duration.ofSeconds seconds) else held key log
  | (_, .del k) :: log => if k = key then none else held key log
  | _ :: log => held key log

/-- requests in the order of their times, of which a server refuses none: what is set lives for some time -/
structure InOrder (log : List (Nat × Redis.Ask)) : Prop where
  times : log.Pairwise fun a b => b.1 ≤ a.1
  lives : ∀ now key seconds payload, (now, .setex key seconds payload) ∈ log → 0 < seconds

/-- a server that begins without keys and never fails: it has of a key what that was set to last, strictly before it
runs out -/
def Reliable : Prop :=
  ∀ log now key, InOrder ((now, .get key) :: log) →
    (server now (.get key) (after server start log)).1 =
      .ok ((held key log).bind fun (payload, expiresAt) => if now < expiresAt then some payload.toUTF8 else none)

variable {server start} {now : Nat} {c : Call} {log : List (Nat × Redis.Ask)} {written : List (Nat × Memory.Op)}

theorem after_of_replied {t : σ} {es : List (Exchange Redis.Calls)}
    (h : Replied (server now) (after server start log) es t) :
    t = after server start ((es.map fun e => (now, e.request)).reverse ++ log) := by
  induction es generalizing log with
  | nil => exact Program.replied_nil.1 h
  | cons e es ih =>
    obtain ⟨r, x⟩ := e
    have hrest : Replied (server now) (after server start ((now, r) :: log)) es t := (Program.replied_cons.1 h).2
    rw [ih hrest, List.map_cons, List.reverse_cons, List.append_assoc]
    rfl

variable (server start) in
/-- a call at a time comes to one command and notes -/
theorem serve_spec (now : Nat) (c : Call) (log : List (Nat × Redis.Ask)) : ∃ notes : List Note,
    serve server now c (after server start log) =
      (.ok (outcome c (server now (command c) (after server start log)).1),
        after server start (notes.map (fun n => (now, .note n)) ++ (now, command c) :: log)) := by
  obtain ⟨es, hruns, hreplied⟩ := Program.exists_runs (server now) (program c) (after server start log)
  obtain ⟨x, notes, rfl, hr⟩ := program_trace hruns
  have hx := (Program.replied_cons.1 hreplied).1
  subst hx
  refine ⟨notes.reverse, Prod.ext hr ?_⟩
  refine (after_of_replied hreplied).trans ?_
  simp [Function.comp_def]

/-! ## The keys of the server -/

theorem keyOf_inj {u v : String} : keyOf u = keyOf v ↔ Text.lowered u = Text.lowered v := by
  simp [keyOf, key]

/-- the keys hold what was written last -/
structure Mirrors (written : List (Nat × Memory.Op)) (log : List (Nat × Redis.Ask)) : Prop where
  inOrder : InOrder log
  holds : ∀ u, held (keyOf u) log =
    (Memory.latest u written).map fun w => (w.entry.toJson.render, w.expiresAt)

theorem mirrors_nil : Mirrors [] [] where
  inOrder := ⟨List.Pairwise.nil, nofun⟩
  holds _ := rfl

theorem InOrder.cons {r : Redis.Ask} (h : InOrder log) (hclock : ∀ step ∈ log, step.1 ≤ now)
    (hlives : ∀ key seconds payload, r = .setex key seconds payload → 0 < seconds) : InOrder ((now, r) :: log) where
  times := List.pairwise_cons.2 ⟨hclock, h.times⟩
  lives := by
    intro now' key seconds payload hmem
    rcases List.mem_cons.1 hmem with heq | hlog
    · cases heq
      exact hlives key seconds payload rfl
    · exact h.lives now' key seconds payload hlog

theorem Mirrors.note (h : Mirrors written log) (hclock : ∀ step ∈ log, step.1 ≤ now) (notes : List Note) :
    Mirrors written (notes.map (fun n => (now, .note n)) ++ log) ∧
      ∀ step ∈ notes.map (fun n => (now, Redis.Ask.note n)) ++ log, step.1 ≤ now := by
  induction notes with
  | nil => exact ⟨h, hclock⟩
  | cons n notes ih =>
    obtain ⟨hmirrors, hnow⟩ := ih
    refine ⟨⟨hmirrors.inOrder.cons hnow nofun, hmirrors.holds⟩, ?_⟩
    intro step hstep
    rcases List.mem_cons.1 hstep with rfl | hlog
    · exact le_refl now
    · exact hnow step hlog

/-- a call whose time to live, if it sets one, is a whole number of seconds and at least one -/
def WholeSeconds : Call → Prop
  | .set _ _ ttl => ∃ n, 0 < n ∧ ttl = .ofSeconds n
  | .get _ | .delete _ => True

theorem ofSeconds_lifetime {n : Nat} (hn : 0 < n) : Duration.ofSeconds (lifetime (.ofSeconds n)) = .ofSeconds n := by
  have hseconds : Duration.seconds (.ofSeconds n) = n := Nat.mul_div_cancel n (by decide)
  rw [lifetime, hseconds, Nat.max_eq_left hn]

/-- **After every call the keys hold what was written last.** -/
theorem step_mirrors (h : Mirrors written log) (hclock : ∀ step ∈ log, step.1 ≤ now) (hc : WholeSeconds c) :
    Mirrors ((now, Memory.opOf c) :: written) ((now, command c) :: log) := by
  cases c with
  | get u => exact ⟨h.inOrder.cons hclock nofun, h.holds⟩
  | set v e ttl =>
    obtain ⟨n, hn, rfl⟩ := hc
    refine ⟨h.inOrder.cons hclock ?_, fun u => ?_⟩
    · rintro key seconds payload ⟨⟩
      exact Nat.le_max_right _ 1
    · change held (keyOf u) ((now, .setex (keyOf v) _ _) :: log) =
        (Memory.latest u ((now, .set v e _) :: written)).map _
      rw [held, Memory.latest_set, ofSeconds_lifetime hn]
      by_cases hsame : Text.lowered v = Text.lowered u
      · rw [if_pos (keyOf_inj.2 hsame), if_pos hsame]
        rfl
      · rw [if_neg fun hk => hsame (keyOf_inj.1 hk), if_neg hsame]
        exact h.holds u
  | delete v =>
    refine ⟨h.inOrder.cons hclock nofun, fun u => ?_⟩
    change held (keyOf u) ((now, .del (keyOf v)) :: log) = (Memory.latest u ((now, .delete v) :: written)).map _
    rw [held, Memory.latest_delete]
    by_cases hsame : Text.lowered v = Text.lowered u
    · rw [if_pos (keyOf_inj.2 hsame), if_pos hsame]
      rfl
    · rw [if_neg fun hk => hsame (keyOf_inj.1 hk), if_neg hsame]
      exact h.holds u

/-- what a reliable server replies makes a look-up find what was written last, unless that has run out -/
theorem found_due (hserver : Reliable server start) (h : Mirrors written log) (hclock : ∀ step ∈ log, step.1 ≤ now)
    (u : String) :
    found (server now (.get (keyOf u)) (after server start log)).1 = Memory.due now (Memory.latest u written) := by
  rw [hserver log now (keyOf u) (h.inOrder.cons hclock nofun), h.holds u]
  cases Memory.latest u written with
  | none => rfl
  | some w =>
    change found (.ok (if now < w.expiresAt then some _ else none)) = if now < w.expiresAt then some w.entry else none
    split
    · exact decoded_payload w.entry
    · rfl

theorem replies_agree (hserver : Reliable server start) {m : Memory} {calls : List (Nat × Call)}
    (hm : Memory.Holds m written) (hlog : Mirrors written log)
    (hbefore : ∀ call ∈ calls, (∀ step ∈ written, step.1 ≤ call.1) ∧ ∀ step ∈ log, step.1 ≤ call.1)
    (htimes : (calls.map Prod.fst).Pairwise (· ≤ ·)) (hwhole : ∀ call ∈ calls, WholeSeconds call.2) :
    replies (serve server) (after server start log) calls = replies Memory.serve m calls := by
  induction calls generalizing m written log with
  | nil => rfl
  | cons call calls ih =>
    obtain ⟨now, c⟩ := call
    obtain ⟨hfirst, htimes⟩ := List.pairwise_cons.1 htimes
    obtain ⟨⟨hwritten, hclock⟩, hbefore⟩ := List.forall_mem_cons.1 hbefore
    obtain ⟨hc, hwhole⟩ := List.forall_mem_cons.1 hwhole
    obtain ⟨notes, hserve⟩ := serve_spec server start now c log
    have hnow : ∀ step ∈ (now, command c) :: log, step.1 ≤ now :=
      List.forall_mem_cons.2 ⟨le_refl now, hclock⟩
    obtain ⟨hlog', hclock'⟩ := (step_mirrors hlog hclock hc).note hnow notes
    have hreply : .ok (outcome c (server now (command c) (after server start log)).1) = (Memory.serve now c m).1 := by
      cases c with
      | get u => exact congrArg Except.ok ((found_due hserver hlog hclock u).trans (Memory.get_eq_due hm hwritten u).symm)
      | set u e ttl => rfl
      | delete u => rfl
    rw [replies, replies, hserve, ← hreply]
    refine congrArg _ (ih (Memory.serve_holds now c hm) hlog' ?_ htimes hwhole)
    intro call hcall
    have hlater : now ≤ call.1 := hfirst call.1 (List.mem_map_of_mem hcall)
    exact ⟨List.forall_mem_cons.2 ⟨hlater, (hbefore call hcall).1⟩, fun step hstep => (hclock' step hstep).trans hlater⟩

/-! ## A server of which nothing is known -/

/-- what calls come to whatever the server replies, and whatever it has under the keys -/
structure FailOpen (server : Nat → (r : Redis.Ask) → σ → r.Reply × σ) : Prop where
  /-- no call fails -/
  succeeds : ∀ s calls, ∀ reply ∈ replies (serve server) s calls, ∃ entry, reply = .ok entry
  /-- a look-up that the server fails is a miss, as is one that it replies to with what is no entry -/
  misses : ∀ s now username,
    (∀ value e, (server now (.get (keyOf username)) s).1 = .ok (some value) → decoded value ≠ some e) →
    (serve server now (.get username) s).1 = .ok none
  /-- and with an entry, a hit -/
  hits : ∀ s now username value e,
    (server now (.get (keyOf username)) s).1 = .ok (some value) → decoded value = some e →
    (serve server now (.get username) s).1 = .ok (some e)

theorem serve_outcome (now : Nat) (c : Call) (s : σ) :
    (serve server now c s).1 = .ok (outcome c (server now (command c) s).1) := by
  obtain ⟨notes, hserve⟩ := serve_spec server s now c []
  exact congrArg Prod.fst hserve

theorem failOpen (server : Nat → (r : Redis.Ask) → σ → r.Reply × σ) : FailOpen server where
  succeeds s calls := by
    induction calls generalizing s with
    | nil => exact List.forall_mem_nil _
    | cons call calls ih =>
      intro reply hreply
      rcases List.mem_cons.1 hreply with rfl | hrest
      · exact ⟨_, serve_outcome call.1 call.2 s⟩
      · exact ih _ reply hrest
  misses s now username hno := by
    rw [serve_outcome, outcome]
    change Except.ok (found (server now (.get (keyOf username)) s).1) = .ok none
    cases hx : (server now (.get (keyOf username)) s).1 with
    | error e => rfl
    | ok value =>
      cases value with
      | none => rfl
      | some value => exact congrArg Except.ok (Option.eq_none_iff_forall_ne_some.2 fun e => hno value e hx)
  hits s now username value e hx he := by
    rw [serve_outcome]
    change Except.ok (found (server now (.get (keyOf username)) s).1) = .ok (some e)
    rw [hx]
    exact congrArg Except.ok he

/-- **The shared cache replies to every look-up as the cache in the process does, where its server never fails; and where
it fails, no call does.** -/
theorem shared_as_memory (server : Nat → (r : Redis.Ask) → σ → r.Reply × σ) (start : σ) :
    (Reliable server start → ∀ calls : List (Nat × Call), (calls.map Prod.fst).Pairwise (· ≤ ·) →
      (∀ call ∈ calls, WholeSeconds call.2) →
      replies (serve server) start calls = replies Memory.serve .empty calls) ∧
    FailOpen server := by
  refine ⟨fun hserver calls htimes hwhole => ?_, failOpen server⟩
  exact replies_agree hserver Memory.holds_empty mirrors_nil (fun _ _ => ⟨List.forall_mem_nil _, List.forall_mem_nil _⟩)
    htimes hwhole

end Server

/-! ## A server that is reliable -/

/-- the keys at a time -/
def keysAt (now : Nat) (r : Redis.Ask) (k : Redis.Keys) : r.Reply × Redis.Keys := Redis.Keys.answer r { k with now }

theorem lookup_after (log : List (Nat × Redis.Ask)) (key : String) :
    ((after keysAt .empty log).slots.lookup key).map (fun k => (k.value, k.expiresAt)) =
      (held key log).map fun (payload, expiresAt) => (payload.toUTF8, expiresAt) := by
  induction log with
  | nil => rfl
  | cons step log ih =>
    obtain ⟨now, r⟩ := step
    cases r with
    | setex k seconds payload =>
      change (((k, _) :: (after keysAt .empty log).slots.filter fun e => e.1 != k).lookup key).map _ = _
      rw [Association.lookup_cons, Association.lookup_filter_key (· != k), held]
      by_cases hk : key = k
      · rw [if_pos hk, if_pos hk.symm]
        rfl
      · rw [if_neg hk, if_pos (bne_iff_ne.2 hk), if_neg fun h => hk h.symm, ih]
    | del k =>
      change (((after keysAt .empty log).slots.filter fun e => e.1 != k).lookup key).map _ = _
      rw [Association.lookup_filter_key (· != k), held]
      by_cases hk : key = k
      · rw [if_neg (by simp [hk]), if_pos hk.symm]
        rfl
      · rw [if_pos (bne_iff_ne.2 hk), if_neg fun h => hk h.symm, ih]
    | _ => exact ih

theorem keys_reliable : Reliable keysAt .empty := by
  intro log now key _
  have hheld := lookup_after log key
  change Except.ok (((after keysAt .empty log).slots.lookup key).bind fun k =>
    if now < k.expiresAt then some k.value else none) = _
  cases hslot : (after keysAt .empty log).slots.lookup key with
  | none =>
    rw [hslot, Option.map_none] at hheld
    rw [Option.map_eq_none_iff.1 hheld.symm]
    rfl
  | some k =>
    rw [hslot, Option.map_some] at hheld
    obtain ⟨⟨payload, expiresAt⟩, hw, heq⟩ := Option.map_eq_some_iff.1 hheld.symm
    obtain ⟨hvalue, hexpires⟩ := Prod.mk.inj heq
    rw [hw, Option.bind_some, Option.bind_some, ← hvalue, ← hexpires]

/-- an entry is written and found under another spelling, up to the end of its second; then it is deleted -/
def spelledCalls : List (Nat × Call) :=
  [(0, .set "OctoCat" (Memory.entryOf 1) (.ofSeconds 1)), (999999999, .get "octocat"), (1000000000, .get "octocat"),
    (1000000001, .set "octocat" (Memory.entryOf 2) (.ofSeconds 2)), (1500000000, .get "OCTOCAT"),
    (1500000000, .delete "OctoCat"), (1500000001, .get "octocat")]

theorem shared_as_memory_spelled :
    Reliable keysAt .empty ∧ (spelledCalls.map Prod.fst).Pairwise (· ≤ ·) ∧
      (∀ call ∈ spelledCalls, WholeSeconds call.2) ∧
      replies (serve keysAt) .empty spelledCalls = replies Memory.serve .empty spelledCalls ∧
      replies Memory.serve .empty spelledCalls =
        [.ok none, .ok (some (Memory.entryOf 1)), .ok none, .ok none, .ok (some (Memory.entryOf 2)), .ok none, .ok none] := by
  have htimes : (spelledCalls.map Prod.fst).Pairwise (· ≤ ·) := by decide
  have hwhole : ∀ call ∈ spelledCalls, WholeSeconds call.2 := by
    simp only [spelledCalls, List.forall_mem_cons, WholeSeconds, true_and]
    exact ⟨⟨1, by decide, rfl⟩, ⟨2, by decide, rfl⟩, List.forall_mem_nil _⟩
  refine ⟨keys_reliable, htimes, hwhole, (shared_as_memory keysAt .empty).1 keys_reliable spelledCalls htimes hwhole, ?_⟩
  decide +kernel

end Shared

end AccountStats.Cache
