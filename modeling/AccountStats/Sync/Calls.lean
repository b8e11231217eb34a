import AccountStats.Banner.Publisher
import AccountStats.Cache.Basic
import AccountStats.Failure
import AccountStats.Freshness
import AccountStats.Journal
import AccountStats.Program
/-
The requests that the statistics service makes: the cache, the store, fetching from GitHub, the publisher, a place for a
refresh in the background, the clock, and notes.
-/
namespace AccountStats.Sync

inductive Ask where
  | now
  | cacheGet (username : String)
  | cacheSet (username : String) (entry : Entry) (ttl : Duration)
  | cacheDelete (username : String)
  | readStored (username : String)
  | save (snapshot : Snapshot)
  | fetch (username : String)
  /-- start a refresh in the background, if a place is free; says whether one was -/
  | startRefresh (username : String)
  /-- give the place of a refresh back -/
  | endRefresh
  | publish (event : Banner.Event)
  | note (n : Note)

/-- the type of the reply to each request -/
abbrev Ask.Reply : Ask → Type
  | .now => Time.Instant
  | .cacheGet _ => Except Cache.CacheError (Option Entry)
  | .cacheSet _ _ _ => Except Cache.CacheError Unit
  | .cacheDelete _ => Except Cache.CacheError Unit
  | .readStored _ => Except Failure Snapshot
  | .save _ => Except Failure Unit
  | .fetch _ => Except Failure Snapshot
  | .startRefresh _ => Bool
  | .endRefresh => Unit
  | .publish _ => Except Banner.PublishError Unit
  | .note _ => Unit

abbrev Calls : Interface := ⟨Ask, Ask.Reply⟩

/-- one request -/
def ask (r : Ask) : Program Calls r.Reply := Program.ask r Program.done

def note (n : Note) : Program Calls Unit := ask (.note n)

end AccountStats.Sync
