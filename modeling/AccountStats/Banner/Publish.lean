import AccountStats.Sync.Lookup
/-
Publishing a banner: one look-up, one event, one attempt to deliver it. The event says when the statistics were
computed, which may be long before it is produced.
-/
namespace AccountStats.Banner

open AccountStats.Sync

def publish (policy : FreshnessPolicy) (username : String) (layout : Layout) (storagePath : String) :
    Program Calls (Except Failure Event) := do
  match ← getEntry policy username with
  | .error f => return .error f
  | .ok e =>
    let event := Event.ofBanner ⟨username, layout, storagePath, e.stats, e.updatedAt⟩ (← ask .now)
    match ← ask (.publish event) with
    | .error err =>
      note (.error "Failed to publish banner event" [("username", username), ("error", err.text)])
      return .error (Failure.bannerNotPublished username)
    | .ok () =>
      note (.info "Banner event published" [("username", username), ("banner_type", layout.name)])
      return .ok event

end AccountStats.Banner
