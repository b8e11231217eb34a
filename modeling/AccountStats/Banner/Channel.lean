import AccountStats.Banner.Publisher
import AccountStats.Redis.Calls
/-
Publishing banner events as JSON on a channel of a Redis server. An event that nobody received is noted, and counts as
published.
-/
namespace AccountStats.Banner

open AccountStats.Redis

/-- publishes on a channel -/
def publishOn (channel : String) (event : Event) : Program Redis.Calls (Except PublishError Unit) := do
  match ← ask (.publish channel event.toJson.render) with
  | .error e => return .error (.delivery e)
  | .ok 0 =>
    note (.warn "Banner event had no subscribers" [("channel", channel), ("username", event.payload.username)])
    return .ok ()
  | .ok n =>
    note (.debug "Banner event published" [("channel", channel), ("receivers", toString n)])
    return .ok ()

end AccountStats.Banner
