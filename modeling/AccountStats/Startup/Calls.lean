import AccountStats.GitHub.Client
import AccountStats.Redis.Calls
import AccountStats.Store.Failure
/-
The requests that the service makes while it starts: connections to the database and to Redis, first calls to GitHub, a
pause, the address to listen on, and notes.
-/
namespace AccountStats.Startup

inductive Ask where
  | connectDatabase (url : String)
  /-- brings the tables of the database up to date -/
  | migrate
  | redis (r : Redis.Ask)
  | gitHub (r : GitHub.Wired)
  /-- waits, at most so many milliseconds -/
  | pause (millis : Nat)
  /-- whether a text is an address to listen on -/
  | checkAddress (address : String)
  | listen (address : String)
  /-- answers requests until the service is told to stop -/
  | serve
  | note (n : Note)

/-- the type of the reply to each request; where no more is known of a failure, it is a text -/
abbrev Ask.Reply : Ask → Type
  | .connectDatabase _ | .migrate => Except Store.DbError Unit
  | .redis r => r.Reply
  | .gitHub r => r.Reply
  | .pause _ => Unit
  | .checkAddress _ | .listen _ | .serve => Except String Unit
  | .note _ => Unit

abbrev Calls : Interface := ⟨Ask, Ask.Reply⟩

/-- one request -/
def ask (r : Ask) : Program Calls r.Reply := Program.ask r Program.done

def note (n : Note) : Program Calls Unit := ask (.note n)

/-- a program on Redis -/
def redis (p : Program Redis.Calls α) : Program Calls α :=
  p.through fun r => Program.ask (Ask.redis r) Program.done

/-- a program on GitHub, whose calls go over HTTP -/
def gitHub (p : Program GitHub.WiredCalls α) : Program Calls α :=
  p.through fun r => Program.ask (Ask.gitHub r) Program.done

end AccountStats.Startup
