import Mathlib.Tactic
import AccountStats.Banner.Publish
import AccountStats.Proofs.Store.Wording
import AccountStats.Proofs.Sync.Requests
/-
What the words of a failed read or save change of a look-up.

The service asks the store for an account, and to save one; if that fails, the failure is noted with its text, and that
is all that the text is used for. Results:
- `related_pipeline`: a synchronization comes to the same, whatever becomes of the save;
- `related_getEntry`, `related_publish`: so do look-ups and banners.
-/
namespace AccountStats.Sync

open Program (Related related_self)

variable {α β : Type} {policy : FreshnessPolicy} {username : String}

/-- a request that the store answers -/
def Ask.ofStore : Ask → Bool
  | .readStored _ | .save _ => true
  | _ => false

/-- the same is asked, and the replies are the same but for the words of the database; what is logged may differ -/
inductive Reworded : Calls.Pairing where
  | same {r : Ask} (h : r.ofStore = false) : Reworded r r Eq
  | readStored (username : String) : Reworded (.readStored username) (.readStored username) SameToClient
  | save (s : Snapshot) : Reworded (.save s) (.save s) SameToClient
  | log (event event' : LogEvent) : Reworded (.note (.log event)) (.note (.log event')) Eq

/-- a program that asks nothing of the store -/
theorem related_apart {p : Program Calls α} (hp : p.Asks fun _ r => r.ofStore = false) : Related Reworded Eq p p :=
  related_self hp fun _ hr => .same hr

/-- a request that the store does not answer -/
theorem related_same {R : α → β → Prop} {r : Ask} (h : r.ofStore = false) {next : r.Reply → Program Calls α}
    {next' : r.Reply → Program Calls β} (hnext : ∀ x, Related Reworded R (next x) (next' x)) :
    Related Reworded R (Program.ask (I := Calls) r next) (Program.ask (I := Calls) r next') := by
  refine .ask (Reworded.same h) ?_
  rintro x _ rfl
  exact hnext x

theorem related_log (event event' : LogEvent) : Related Reworded Eq (note (.log event)) (note (.log event')) :=
  .ask (Reworded.log event event') fun _ _ => .done

theorem related_storeInCache (e : Entry) (ttl : Duration) :
    Related Reworded Eq (storeInCache username e ttl) (storeInCache username e ttl) :=
  related_apart (storeInCache_asks rfl fun _ => rfl)

theorem related_noteSave {r r' : Except Failure Unit} (h : SameToClient r r') :
    Related Reworded Eq (noteSave username r) (noteSave username r') := by
  cases h with
  | ok _ => exact .done rfl
  | @error f f' h =>
    rw [noteSave, noteSave, h.kind]
    split
    · exact related_log _ _
    · exact related_log _ _

/-- a failed save is noted, and that is all -/
theorem related_pipeline (username : String) (ttl : Duration) :
    Related Reworded Eq (pipeline username ttl) (pipeline username ttl) := by
  refine related_same rfl fun fetched => ?_
  cases fetched with
  | error f => exact .done rfl
  | ok snapshot =>
    refine .ask (Reworded.save snapshot) fun saved saved' hsaved => ?_
    refine (related_noteSave hsaved).bind fun _ _ _ => ?_
    refine related_same rfl fun now => ?_
    exact (related_storeInCache _ ttl).bind fun _ _ _ => .done rfl

theorem related_syncNow (policy : FreshnessPolicy) (username : String) :
    Related Reworded Eq (syncNow policy username) (syncNow policy username) := by
  apply (related_pipeline username policy.hard).bind
  rintro result _ rfl
  cases result with
  | error f => exact .done rfl
  | ok e => exact related_same rfl fun _ => .done rfl

theorem related_noteReadFailure {f f' : Failure} (h : f.Alike f') :
    Related Reworded Eq (noteReadFailure username f) (noteReadFailure username f') := by
  rw [noteReadFailure, noteReadFailure, h.kind]
  split
  · exact related_log _ _
  · exact related_log _ _

/-- a failed read is noted, and GitHub is asked instead -/
theorem related_lookupBehindCache (policy : FreshnessPolicy) (username : String) :
    Related Reworded Eq (lookupBehindCache policy username) (lookupBehindCache policy username) := by
  refine related_same rfl fun _ => ?_
  refine .ask (Reworded.readStored username) fun stored stored' hstored => ?_
  cases hstored with
  | ok snapshot =>
    refine related_same rfl fun now => ?_
    exact (related_storeInCache _ policy.hard).bind fun _ _ _ => .done rfl
  | error h => exact (related_noteReadFailure h).bind fun _ _ _ => related_syncNow policy username

/-- **A look-up comes to the same**, whatever words the store fails with. -/
theorem related_getEntry (policy : FreshnessPolicy) (username : String) :
    Related Reworded Eq (getEntry policy username) (getEntry policy username) := by
  rw [getEntry_eq]
  refine related_same rfl fun x => ?_
  cases x with
  | error err => exact related_same rfl fun _ => related_lookupBehindCache policy username
  | ok entry? =>
    cases entry? with
    | none => exact related_lookupBehindCache policy username
    | some e =>
      refine related_same rfl fun now => ?_
      cases policy.classify e.updatedAt now with
      | fresh => exact related_same rfl fun _ => .done rfl
      | stale =>
        refine related_same rfl fun _ => related_same rfl fun granted => ?_
        cases granted with
        | true => exact .done rfl
        | false => exact related_same rfl fun _ => .done rfl
      | expired => exact related_same rfl fun _ => related_lookupBehindCache policy username

theorem related_publish (policy : FreshnessPolicy) (username : String) (layout : Banner.Layout) (path : String) :
    Related Reworded Eq (Banner.publish policy username layout path) (Banner.publish policy username layout path) := by
  apply (related_getEntry policy username).bind
  rintro result _ rfl
  cases result with
  | error f => exact .done rfl
  | ok e =>
    refine related_same rfl fun now => ?_
    refine related_same rfl fun delivered => ?_
    cases delivered with
    | error err => exact related_same rfl fun _ => .done rfl
    | ok _ => exact related_same rfl fun _ => .done rfl

end AccountStats.Sync
