import AccountStats.Settings.Environment
import AccountStats.Startup.Connect
/-
The service from its start to its end: settings, database, tables, cache, credentials, and then requests until it is told
to stop.
-/
namespace AccountStats.Startup

/-- the error of a step that is known by its text only -/
def stepError : Except String Unit → Except ErrorChain Unit
  | .ok () => .ok ()
  | .error message => .error (.plain message)

/-- a step that may fail -/
abbrev Step := ExceptT ErrorChain (Program Calls)

def Step.of (p : Program Calls (Except ErrorChain α)) : Step α := ExceptT.mk p

def Step.noted (n : Note) : Step Unit := ExceptT.lift (note n)

/-- applies the migrations of the database -/
def migrate : Program Calls (Except ErrorChain Unit) := do
  return (← ask .migrate).mapError fun e => ⟨"Failed to run migrations", e.chain⟩

def announce : Journal → Program Calls Unit
  | [] => return ()
  | n :: ns => do
    note n
    announce ns

/-- the service with settings that were checked -/
def serve (s : Settings) : Step Unit := do
  ExceptT.lift (announce s.summary)
  Step.of (connectDatabase s)
  Step.noted (.info "Connected to database" [])
  Step.of migrate
  let _ ← ExceptT.lift (connectCache s)
  let _ ← ExceptT.lift (connectServices s)
  Step.of (do return stepError (← ask (.checkAddress s.listen)))
  Step.of (do return stepError (← ask (.listen s.listen)))
  Step.noted (.info ("Listening on http://" ++ s.listen) [])
  Step.of (do return stepError (← ask .serve))
  Step.noted (.info "Server stopped" [])

/-- the service in an environment -/
def service (env : Environment) : Program Calls (Except ErrorChain Unit) :=
  match Settings.load env with
  | .error e => return .error (.ofTexts e.chain)
  | .ok s => (serve s).run

end AccountStats.Startup
