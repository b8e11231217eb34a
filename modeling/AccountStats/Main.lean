import AccountStats.Scenario.Offline
/-
The command line. `serve` starts the service; all other arguments are those of the administration tool. Only files and
the terminal are at hand here, so every connection is refused.
-/
namespace AccountStats.CommandLine

/-- the environment variables that are set, of those that settings are read from -/
def readEnvironment : List String → IO Environment
  | [] => return []
  | name :: names => do
    let rest ← readEnvironment names
    match ← IO.getEnv name with
    | some value => return (name, value.toUTF8) :: rest
    | none => return rest

/-- what the clock reads: no command gets as far as asking for the time where no server can be reached -/
def clock : Time.Instant := .epoch

/-- shows what a run left on its terminal, and the error that ended it -/
def finish (t : Scenario.Terminal) (error? : Option ErrorChain) (code : Nat) : IO UInt32 := do
  for line in t.lines do IO.println line
  match error? with
  | some e => IO.eprint e.render
  | none => pure ()
  return UInt32.ofNat code

def serve (env : Environment) : IO UInt32 := do
  let (result, t) := (Startup.service env).run (Scenario.Offline.startup clock) .blank
  match result with
  | .ok () => finish t none 0
  | .error e => finish t (some e) 1

def administer (env : Environment) (arguments : List String) : IO UInt32 := do
  let (ending, t) := (Admin.run env arguments).run (Scenario.Offline.admin clock) .blank
  match ending with
  | .failure e => finish t (some e) ending.code
  | _ => finish t none ending.code

end AccountStats.CommandLine

def main (arguments : List String) : IO UInt32 := do
  let env ← AccountStats.CommandLine.readEnvironment AccountStats.Settings.variableNames
  match arguments with
  | ["serve"] => AccountStats.CommandLine.serve env
  | _ => AccountStats.CommandLine.administer env arguments
