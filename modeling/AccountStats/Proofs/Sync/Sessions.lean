import Mathlib.Tactic
import AccountStats.Proofs.Sync.Refreshing
/-
The service among its partners: the store, GitHub and the publisher.

Each partner replies however it likes, by what it was asked before; the cache may be any. A session keeps what has
become of them and all that was asked so far, so that it tells afterwards who was asked what, and in which order.
-/
namespace AccountStats

def Banner.Event.timeless (e : Banner.Event) : Banner.Event :=
  { e with producedAt := .epoch, payload := { e.payload with fetchedAt := .epoch } }

namespace Sync

/-- the store, GitHub and the publisher, however they reply, with a state of their own. Of an event the publisher does
not look at the times. -/
structure Partners (σ : Type) where
  readStored : String → σ → Except Failure Snapshot × σ
  save : Snapshot → σ → Except Failure Unit × σ
  fetch : String → σ → Except Failure Snapshot × σ
  publish : Banner.Event → σ → Except Banner.PublishError Unit × σ

/-- what a run has come to: all that may change, and all that was asked -/
structure Session (σ κ : Type) where
  partners : σ
  places : Background
  cache : κ
  asked : List Ask

variable {σ κ : Type}

/-- one request is answered; the time is what the clock shows then -/
def Session.answer (partners : Partners σ) (server : CacheServer κ) (clock : Nat → Time.Instant) (r : Ask)
    (w : Session σ κ) : r.Reply × Session σ κ :=
  let time := w.asked.length
  let next := { w with asked := w.asked ++ [r] }
  match r with
  | .now => (clock time, next)
  | .cacheGet u => ((server.get time u w.cache).1, { next with cache := (server.get time u w.cache).2 })
  | .cacheSet u e ttl =>
    ((server.set time u e ttl w.cache).1, { next with cache := (server.set time u e ttl w.cache).2 })
  | .cacheDelete u => ((server.delete time u w.cache).1, { next with cache := (server.delete time u w.cache).2 })
  | .readStored u =>
    ((partners.readStored u w.partners).1, { next with partners := (partners.readStored u w.partners).2 })
  | .save s => ((partners.save s w.partners).1, { next with partners := (partners.save s w.partners).2 })
  | .fetch u => ((partners.fetch u w.partners).1, { next with partners := (partners.fetch u w.partners).2 })
  | .publish event =>
    ((partners.publish event.timeless w.partners).1,
      { next with partners := (partners.publish event.timeless w.partners).2 })
  | .startRefresh _ => (w.places.start.1, { next with places := w.places.start.2 })
  | .endRefresh => ((), { next with places := w.places.finish })
  | .note _ => ((), next)

theorem asked_answer (partners : Partners σ) (server : CacheServer κ) (clock : Nat → Time.Instant) (r : Ask)
    (w : Session σ κ) :
    (w.answer partners server clock r).2.asked = w.asked ++ [r] := by
  cases r <;> rfl

/-! ## What was asked -/

def Ask.note? : Ask → Option Note
  | .note n => some n
  | _ => none

/-- what was noted -/
def journal (asked : List Ask) : Journal := asked.filterMap Ask.note?

end Sync

end AccountStats
