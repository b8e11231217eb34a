import AccountStats.Journal
import AccountStats.Program
/-
The requests that programs make of a Redis server. A failure is known by its text only.
-/
namespace AccountStats.Redis

inductive Ask where
  /-- whether the URL is one of a Redis server -/
  | check (url : String)
  | connect (url : String)
  | ping
  | get (key : String)
  /-- sets a key that lives so many seconds -/
  | setex (key : String) (seconds : Nat) (payload : String)
  /-- deletes a key; says how many were there -/
  | del (key : String)
  /-- publishes on a channel; says how many received it -/
  | publish (channel payload : String)
  | note (n : Note)
deriving DecidableEq, Repr

/-- the type of the reply to each request -/
abbrev Ask.Reply : Ask → Type
  | .check _ | .connect _ | .ping | .setex _ _ _ => Except String Unit
  | .get _ => Except String (Option ByteArray)
  | .del _ | .publish _ _ => Except String Nat
  | .note _ => Unit

abbrev Calls : Interface := ⟨Ask, Ask.Reply⟩

/-- one request -/
def ask (r : Ask) : Program Calls r.Reply := Program.ask r Program.done

def note (n : Note) : Program Calls Unit := ask (.note n)

/-- opens a connection and tries it out; the text says what failed -/
def connect (url : String) : Program Calls (Except String Unit) := do
  note (.info "Connecting to Redis" [])
  match ← ask (.check url) with
  | .error e => return .error ("Failed to create Redis client: " ++ e)
  | .ok () =>
    match ← ask (.connect url) with
    | .error e => return .error ("Failed to connect to Redis: " ++ e)
    | .ok () =>
      match ← ask .ping with
      | .error e => return .error ("Redis PING failed: " ++ e)
      | .ok () =>
        note (.info "Connected to Redis" [])
        return .ok ()

end AccountStats.Redis
