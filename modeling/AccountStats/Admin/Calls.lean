import AccountStats.Startup.Calls
import AccountStats.Store.Calls
import AccountStats.Sweep.Config
import AccountStats.Sync.Calls
/-
The requests that the administration tool makes: those of a start, of the store, of the statistics service, of a shared
cache, a sweep, and those of its terminal.
-/
namespace AccountStats.Admin

/-- what a sweep reported, in the order in which it was taken from the streams -/
structure SweepReport where
  outcomes : List (Except Sweep.Problem String)
  cancelled : Bool

inductive Ask where
  | startup (r : Startup.Ask)
  | store (r : Store.Ask)
  | sync (r : Sync.Ask)
  | cache (r : Redis.Ask)
  /-- one sweep over all stored accounts -/
  | sweep (c : Sweep.Config)
  /-- a line of output -/
  | print (line : String)
  /-- a question to the user; fails when there is nobody to ask -/
  | confirm (prompt : String)

/-- the type of the reply to each request -/
abbrev Ask.Reply : Ask → Type
  | .startup r => r.Reply
  | .store r => r.Reply
  | .sync r => r.Reply
  | .cache r => r.Reply
  | .sweep _ => SweepReport
  | .print _ => Unit
  | .confirm _ => Except String Bool

abbrev Calls : Interface := ⟨Ask, Ask.Reply⟩

/-- one request -/
def ask (r : Ask) : Program Calls r.Reply := Program.ask r Program.done

def startup (p : Program Startup.Calls α) : Program Calls α :=
  p.through fun r => Program.ask (Ask.startup r) Program.done

def store (p : Program Store.Calls α) : Program Calls α :=
  p.through fun r => Program.ask (Ask.store r) Program.done

def sync (p : Program Sync.Calls α) : Program Calls α :=
  p.through fun r => Program.ask (Ask.sync r) Program.done

def cache (p : Program Redis.Calls α) : Program Calls α :=
  p.through fun r => Program.ask (Ask.cache r) Program.done

/-- lines of output, one after the other -/
def print : List String → Program Calls Unit
  | [] => return ()
  | line :: lines => do
    let () ← ask (.print line)
    print lines

end AccountStats.Admin
