import AccountStats.Account.Wire
import AccountStats.Cache.Basic
import AccountStats.Freshness
import AccountStats.Json.Reader
import AccountStats.Redis.Calls
import AccountStats.Text.Utf8
/-
The cache shared through a Redis server. Entries are JSON under `stats:` and the key of the account, and live whole
seconds, at least one. No failure reaches the caller: it is noted, and counts as a miss where something was looked up.

The note about a text that is no entry does not say what is wrong with it: readers of JSON only tell whether they can
read a text.
-/
namespace AccountStats.Cache.Shared

open AccountStats.Redis

def keyOf (username : String) : String := "stats:" ++ key username

/-- opens the cache of a server -/
def connect (url : String) : Program Redis.Calls (Except CacheError Unit) := do
  return (← Redis.connect url).mapError .connection

/-- the text of a value, if it is one -/
inductive Payload where
  | none
  | entry (e : Entry)
  /-- a text that is no entry -/
  | undecodable
  /-- no text -/
  | bytes
deriving DecidableEq

def Payload.ofValue : Option ByteArray → Payload
  | .none => .none
  | some value => match Text.decodeUtf8 value with
    | .none => .bytes
    | some s => match Json.readText s >>= Entry.ofJson? with
      | some e => .entry e
      | .none => .undecodable

def noteGetError (username error : String) : Program Redis.Calls Unit :=
  note (.error "Redis GET error" [("username", username), ("error", error)])

def get (username : String) : Program Redis.Calls (Except CacheError (Option Entry)) := do
  match ← ask (.get (keyOf username)) with
  | .error e =>
    noteGetError username e
    return .ok none
  | .ok value =>
    match Payload.ofValue value with
    | .entry e =>
      note (.debug "Cache HIT" [("username", username)])
      return .ok (some e)
    | .undecodable =>
      note (.warn "Discarding undecodable cache entry" [("username", username)])
      return .ok none
    | .none =>
      note (.debug "Cache MISS" [("username", username)])
      return .ok none
    | .bytes =>
      noteGetError username "Cannot convert from UTF-8"
      return .ok none

/-- the seconds that an entry lives -/
def lifetime (ttl : Duration) : Nat := max ttl.seconds 1

def set (username : String) (e : Entry) (ttl : Duration) : Program Redis.Calls (Except CacheError Unit) := do
  match ← ask (.setex (keyOf username) (lifetime ttl) e.toJson.render) with
  | .ok () =>
    note (.debug "Cache SET" [("username", username), ("ttl_seconds", toString (lifetime ttl))])
    return .ok ()
  | .error err =>
    note (.warn "Redis SET error" [("username", username), ("error", err)])
    return .ok ()

def delete (username : String) : Program Redis.Calls (Except CacheError Unit) := do
  match ← ask (.del (keyOf username)) with
  | .ok n =>
    if 0 < n then note (.debug "Cache DELETE" [("username", username)])
    return .ok ()
  | .error err =>
    note (.warn "Redis DEL error" [("username", username), ("error", err)])
    return .ok ()

/-- whether the server answers -/
def healthy : Program Redis.Calls Bool := do
  match ← ask .ping with
  | .ok () => return true
  | .error _ => return false

end AccountStats.Cache.Shared
