import AccountStats.Account.Wire
import AccountStats.Admin.Calls
import AccountStats.Admin.Command
import AccountStats.Settings.Environment
import AccountStats.Startup.Connect
import AccountStats.Store.Read
import AccountStats.Sync.Lookup
import AccountStats.Time.Rfc3339
/-
The commands of the administration tool. What a command has printed before it fails stays printed.
-/
namespace AccountStats.Admin

/-- a step of a command -/
abbrev Step := ExceptT ErrorChain (Program Calls)

namespace Step

def of (p : Program Calls (Except ErrorChain α)) : Step α := ExceptT.mk p

def say (lines : List String) : Step Unit := ExceptT.lift (print lines)

def fail (message : String) : Step α := throw (.plain message)

end Step

/-! ## Settings -/

def settings (env : Environment) : Step Settings :=
  ExceptT.mk (return (Settings.load env).mapError fun e => .ofTexts e.chain)

/-- connects to the database without any other setting, and without further attempts -/
def connectDatabaseOnly (env : Environment) : Step Unit := do
  let url ← ExceptT.mk (return (Settings.loadDatabaseUrl env).mapError fun e => .ofTexts e.databaseChain)
  Step.of (do return (← startup (Startup.ask (.connectDatabase url))).mapError Startup.databaseError)

def connectDatabase (s : Settings) : Step Unit := Step.of (startup (Startup.connectDatabase s))

/-- the stored accounts -/
def listAccounts : Step (List String) := do
  match ← ExceptT.lift (store Store.listUsernames) with
  | .ok usernames => return usernames
  | .error f => Step.fail ("Failed to list accounts: " ++ f.text)

/-! ## `refresh` -/

/-- the settings of a sweep, with the number of workers given on the command line -/
def sweepConfig (s : Settings) (concurrency : Option Nat) : Sweep.Config :=
  match concurrency with
  | some n => Sweep.Config.normalized { s.sweep with concurrency := n }
  | none => s.sweep.normalized

def outcomeLine : Except Sweep.Problem String → String
  | .ok username => "  ✓ " ++ username
  | .error p => "  ✗ " ++ p.text

def succeeded : Except Sweep.Problem String → Bool
  | .ok _ => true
  | .error _ => false

/-- the sweep itself, and what it came to -/
def sweepLines (r : SweepReport) : List String :=
  let refreshed := (r.outcomes.filter succeeded).length
  let failed := (r.outcomes.filter fun o => !succeeded o).length
  r.outcomes.map outcomeLine ++ [""] ++ (if r.cancelled then ["⚠️  Sweep cancelled"] else []) ++
    ["  Refreshed: " ++ toString refreshed ++ "   Failed: " ++ toString failed, ""]

/-- whether the user agrees, unless that is not asked -/
def confirmed (yes : Bool) : Step Bool := do
  if yes then return true
  match ← ExceptT.lift (ask (.confirm "Re-sync every account from GitHub?")) with
  | .ok answer => return answer
  | .error message => throw ⟨"IO error: " ++ message, [message]⟩

def refresh (s : Settings) (concurrency : Option Nat) (yes : Bool) : Step Unit := do
  Step.say ["🔄 Bulk Refresh", ""]
  connectDatabase s
  let usernames ← listAccounts
  if usernames = [] then Step.say ["  No stored accounts"]
  else
    let c := sweepConfig s concurrency
    Step.say ["  Accounts:    " ++ toString usernames.length, "  Concurrency: " ++ toString c.concurrency, ""]
    if ← confirmed yes then
      let _ ← ExceptT.lift (startup (Startup.connectCache s))
      let _ ← ExceptT.lift (startup (Startup.connectServices s))
      Step.say (sweepLines (← ExceptT.lift (ask (.sweep c))))
    else Step.say ["❌ Cancelled"]

/-! ## `stats` -/

/-- languages with the most used first, and by name where they are used alike -/
def rankedLanguages (c : LanguageCounts) : List (String × Int64) :=
  c.entries.mergeSort fun a b => b.2 < a.2 || (b.2 == a.2 && a.1 ≤ b.1)

/-- a text filled up with blanks on the right -/
def padded (width : Nat) (s : String) : String :=
  s ++ String.ofList (List.replicate (width - s.length) ' ')

def languageLines (c : LanguageCounts) : List String :=
  if c.entries = [] then []
  else "  Languages:" :: (rankedLanguages c).map fun (name, n) => "    " ++ padded 20 name ++ " " ++ toString n.toInt

def statsLines (e : Entry) : List String :=
  let s := e.stats
  ["  Repositories:  " ++ toString s.totalRepos.toInt ++ " (" ++ toString s.originalRepos.toInt ++ " original, " ++
      toString s.forkedRepos.toInt ++ " forks)",
    "  Stars:         " ++ toString s.totalStars.toInt,
    "  Forks:         " ++ toString s.totalForks.toInt] ++
    languageLines s.languages ++ ["", "  Computed at:   " ++ Time.Rfc3339.renderMoment e.updatedAt, ""]

def showStats (s : Settings) (username : String) : Step Unit := do
  Step.say ["📊 Statistics for " ++ username, ""]
  connectDatabase s
  let _ ← ExceptT.lift (startup (Startup.connectServices s))
  match ← ExceptT.lift (sync (Sync.getEntry s.policy username)) with
  | .ok e => Step.say (statsLines e)
  | .error f => Step.fail ("Failed to load stats: " ++ f.text)

/-! ## `users`, `cache`, `db` -/

def listUsers : Step Unit := do
  Step.say ["👥 Stored Accounts", ""]
  let usernames ← listAccounts
  if usernames = [] then Step.say ["  No stored accounts", ""]
  else Step.say (usernames.map ("  " ++ ·) ++ ["", "  Total: " ++ toString usernames.length, ""])

/-- only a shared cache outlives the tool, so without one there is nothing to purge -/
def purge (s : Settings) (username : String) : Step Unit := do
  match ← ExceptT.lift (startup (Startup.connectCache s)) with
  | .memory => Step.say ["⚠️  Redis not configured or unreachable; nothing to purge"]
  | .shared =>
    match ← ExceptT.lift (cache (Cache.Shared.delete username)) with
    | .ok () => Step.say ["🗑️  Purged cached stats for " ++ username]
    | .error e => Step.fail ("Failed to purge cache entry: " ++ e.text)

def checkDatabase : Step Unit := do
  Step.say ["🔍 Checking database connection..."]
  Step.of (do return (← store Store.ping).mapError fun e => .ofTexts e.chain)
  let n ← Step.of (do
    return (← store Store.countUsers).mapError fun e => ⟨"Schema check failed; have migrations run?", e.chain⟩)
  Step.say ["✅ Database connection OK", "  Stored accounts: " ++ toString n.toInt]

/-! ## All commands -/

def command (env : Environment) : Command → Step Unit
  | .refresh concurrency yes => do refresh (← settings env) concurrency yes
  | .stats username => do showStats (← settings env) username
  | .users => do
    connectDatabaseOnly env
    listUsers
  | .purge username => do purge (← settings env) username
  | .checkDatabase => do
    connectDatabaseOnly env
    checkDatabase

/-- the name and version of the tool -/
def versionLine : String := "admin 0.1.0"

/-- how the tool ended -/
inductive Ending where
  | success
  | failure (e : ErrorChain)
  /-- the arguments make no command -/
  | misuse
deriving DecidableEq, Repr

def Ending.code : Ending → Nat
  | .success => 0
  | .failure _ => 1
  | .misuse => 2

def run (env : Environment) (arguments : List String) : Program Calls Ending := do
  match readArguments arguments with
  | .misuse => return .misuse
  | .help topic =>
    print topic.lines
    return .success
  | .version =>
    print [versionLine]
    return .success
  | .run c =>
    match ← (command env c).run with
    | .ok () => return .success
    | .error e => return .failure e

end AccountStats.Admin
