/-
What the service tells its operators: log events and counters.

Events of level debug are kept where the statistics service notes them, the cache on a Redis server and the publisher on
one. Those of the store, the cache in the process, the pool, the fetches and the sweeps are left out: they tell of a step
only what its request and the reply to it show. So are events about tasks that have panicked, about signals, and the end
of each request.
-/
namespace AccountStats

inductive Level where
  | debug
  | info
  | warn
  | error
deriving DecidableEq, Repr

namespace Level

def name : Level → String
  | .debug => "DEBUG"
  | .info => "INFO"
  | .warn => "WARN"
  | .error => "ERROR"

end Level

/-- a log event with its fields -/
structure LogEvent where
  level : Level
  message : String
  fields : List (String × String)
deriving DecidableEq, Repr

/-- a counter with its labels -/
structure Counter where
  name : String
  labels : List (String × String)
deriving DecidableEq, Repr

/-- one thing noted -/
inductive Note where
  | log (event : LogEvent)
  | count (counter : Counter) (by_ : Nat)
deriving DecidableEq, Repr

namespace Note

def debug (message : String) (fields : List (String × String)) : Note := .log ⟨.debug, message, fields⟩

def info (message : String) (fields : List (String × String)) : Note := .log ⟨.info, message, fields⟩

def warn (message : String) (fields : List (String × String)) : Note := .log ⟨.warn, message, fields⟩

def error (message : String) (fields : List (String × String)) : Note := .log ⟨.error, message, fields⟩

end Note

/-- all that was noted, in order -/
abbrev Journal := List Note

namespace Journal

/-- the log events of some levels -/
def events (levels : List Level) (j : Journal) : List LogEvent :=
  j.filterMap fun
    | .log e => if e.level ∈ levels then some e else none
    | .count .. => none

/-- adds to a counter; one not touched before stands at the end -/
def addTo (c : Counter) (n : Nat) : List (Counter × Nat) → List (Counter × Nat)
  | [] => [(c, n)]
  | (d, m) :: rest => if c = d then (d, m + n) :: rest else (d, m) :: addTo c n rest

/-- the counters touched, with their totals -/
def totals (j : Journal) : List (Counter × Nat) :=
  j.foldl (fun acc => fun
    | .count c n => addTo c n acc
    | .log _ => acc) []

end Journal

end AccountStats
