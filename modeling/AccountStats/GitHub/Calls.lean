import AccountStats.GitHub.Pool
import AccountStats.GitHub.Wire
/-
The requests that programs on the GitHub side make: steps on the pool, calls to GitHub, the clock, and notes.
-/
namespace AccountStats.GitHub

inductive Ask where
  | now
  | check (index : Nat)
  | install (index : Nat) (fresh : Quota)
  | record (index : Nat) (report : QuotaReport)
  /-- the quota of a token, within the time that a probe may take -/
  | probe (token : String)
  | getUser (token login : String)
  | listRepositories (token login : String) (page : UInt32)
  | note (n : Note)
deriving DecidableEq, Repr

/-- the type of the reply to each request -/
abbrev Ask.Reply : Ask → Type
  | .now => Time.Instant
  | .check _ => Pool.Check
  | .install _ _ => Bool
  | .record _ _ => Unit
  | .probe _ => Except ProbeError Quota
  | .getUser _ _ => Except CallError (Response User)
  | .listRepositories _ _ _ => Except CallError (Response (List ListedRepository))
  | .note _ => Unit

abbrev Calls : Interface := ⟨Ask, Ask.Reply⟩

/-- one request -/
def ask (r : Ask) : Program Calls r.Reply := Program.ask r Program.done

def note (n : Note) : Program Calls Unit := ask (.note n)

end AccountStats.GitHub
