import AccountStats.Program
/-
Several programs on one clock. Replies take time (milliseconds); a program that waits for one lets the others go on. The
clock jumps to the next moment at which a program has something to do. Programs that have it at the same moment go on in
the order of their numbers.

A program may have a time limit and another program that takes its place when the limit is over; a reply that comes at
that very moment is still taken. Surroundings may start programs of their own, which begin at once.
-/
namespace AccountStats

/-- a time limit, and what is done instead when it is over -/
structure Limit (I : Interface) (α : Type) where
  time : Nat
  late : Program I α

/-- what answers the requests of programs that share a clock -/
structure Surroundings (I : Interface) (σ α : Type) where
  /-- reply to a request made at a time, and how long the reply takes -/
  answer : (r : I.Request) → Nat → σ → (I.Reply r × Nat) × σ
  /-- programs started since this was asked last -/
  started : σ → List (Program I α × Limit I α) × σ

/-- a program after it has gone on as far as it could -/
inductive Progress (I : Interface) (α : Type) where
  | finished (a : α)
  | waiting (delay : Nat) (rest : Program I α)

/-- a program that waits; it goes on at `due`, unless its limit (a time of the clock) is over before -/
structure Task (I : Interface) (α : Type) where
  number : Nat
  due : Nat
  limit : Option (Limit I α)
  rest : Program I α

namespace Task

/-- when something happens to a task -/
def wakes (t : Task I α) : Nat := match t.limit with
  | some l => min t.due l.time
  | none => t.due

/-- the task at the moment it wakes: on its way, or past its limit -/
def awake (t : Task I α) : Task I α :=
  match t.limit with
  | some l => if t.due ≤ l.time then t else { t with due := l.time, limit := none, rest := l.late }
  | none => t

/-- the task to which something happens first -/
def first? : List (Task I α) → Option (Task I α)
  | [] => none
  | t :: ts => match first? ts with
    | none => some t
    | some u => if u.wakes < t.wakes ∨ (u.wakes = t.wakes ∧ u.number < t.number) then some u else some t

end Task

/-- all tasks on one clock, and the results so far, each with the number of its task -/
structure Tasks (I : Interface) (σ α : Type) where
  now : Nat
  world : σ
  tasks : List (Task I α)
  results : List (Nat × α)
  /-- number of the next task -/
  next : Nat

namespace Tasks

variable {I : Interface} {σ α : Type}

def start (world : σ) : Tasks I σ α := ⟨0, world, [], [], 0⟩

/-- goes on until a reply takes time -/
def advance (env : Surroundings I σ α) (now : Nat) : Program I α → σ → Progress I α × σ
  | .done a, s => (.finished a, s)
  | .ask r next, s =>
    let ((x, delay), s) := env.answer r now s
    if delay = 0 then advance env now (next x) s else (.waiting delay (next x), s)

/-- adds a program that begins now -/
def add (t : Tasks I σ α) (limit : Option (Limit I α)) (p : Program I α) : Tasks I σ α :=
  { t with
    tasks := t.tasks ++ [⟨t.next, t.now, limit.map fun l => ⟨t.now + l.time, l.late⟩, p⟩]
    next := t.next + 1 }

/-- lets one task go on -/
def resume (env : Surroundings I σ α) (t : Tasks I σ α) (task : Task I α) : Tasks I σ α :=
  let task := task.awake
  let now := task.due
  let others := t.tasks.filter fun u => u.number != task.number
  let (progress, world) := advance env now task.rest t.world
  let (started, world) := env.started world
  let t : Tasks I σ α := match progress with
    | .finished a => { t with now, world, tasks := others, results := t.results ++ [(task.number, a)] }
    | .waiting delay rest => { t with now, world, tasks := others ++ [{ task with due := now + delay, rest }] }
  started.foldl (fun t (p, limit) => t.add (some limit) p) t

/-- lets everything happen up to a time, `fuel` events at most, and moves the clock there -/
def runUntil (env : Surroundings I σ α) (limit : Nat) : Nat → Tasks I σ α → Tasks I σ α
  | 0, t => t
  | fuel + 1, t =>
    match Task.first? t.tasks with
    | some task => if task.wakes ≤ limit then runUntil env limit fuel (t.resume env task) else { t with now := limit }
    | none => { t with now := limit }

/-- lets everything happen until the tasks with these numbers are over, `fuel` events at most -/
def runToEnd (env : Surroundings I σ α) (numbers : List Nat) : Nat → Tasks I σ α → Tasks I σ α
  | 0, t => t
  | fuel + 1, t =>
    if numbers.all fun n => t.results.any fun r => r.1 == n then t
    else match Task.first? t.tasks with
      | some task => runToEnd env numbers fuel (t.resume env task)
      | none => t

/-- the result of a task, if it came to one -/
def result? (t : Tasks I σ α) (number : Nat) : Option α :=
  (t.results.find? fun r => r.1 == number).map Prod.snd

end Tasks

end AccountStats
