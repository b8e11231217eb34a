import Mathlib.Tactic
import AccountStats.Account.Repository
import AccountStats.Time.Micros
/-
Instants that the database keeps as they are.

The clock of the database counts microseconds and has no leap seconds, so it cuts finer digits off, and an instant in a
leap second shares its count with one in the second after it. Results:
- `ofMicros?_toMicros`: the instants that come back from the database as they were are whole microseconds in no leap
  second (`Kept`);
- `toMicros_le`: between them, the order of instants is that of their counts.
-/
namespace AccountStats

namespace Time.Instant

variable {a b : Instant}

/-- in no leap second -/
def Ordinary (a : Instant) : Prop := a.nanos < nanosPerSecond

instance (a : Instant) : Decidable a.Ordinary := inferInstanceAs (Decidable (_ < _))

/-- a whole number of microseconds -/
def WholeMicros (a : Instant) : Prop := 1000 ∣ a.nanos

instance (a : Instant) : Decidable a.WholeMicros := inferInstanceAs (Decidable (_ ∣ _))

/-- an instant that the database keeps as it is -/
structure Kept (a : Instant) : Prop where
  ordinary : a.Ordinary
  whole : a.WholeMicros

theorem seconds_century : century.seconds = 946684800 := rfl

theorem nanos_century : century.nanos = 0 := rfl

/-- the count starts at midnight, so no leap second lies between -/
theorem since_century (a : Instant) : a.since century = (a.seconds - 946684800) * 1000000000 + a.nanos := by
  have hday : ¬ a.secondOfDay < century.secondOfDay := by
    simp only [secondOfDay, seconds_century]
    omega
  simp [since, hday, seconds_century, nanos_century, nanosPerSecond]

theorem toMicros_of_whole (h : a.WholeMicros) :
    a.toMicros = (a.seconds - 946684800) * 1000000 + ((a.nanos / 1000 : Nat) : Int) := by
  obtain ⟨k, hk⟩ := h
  have hsince : a.since century = ((a.seconds - 946684800) * 1000000 + (k : Int)) * 1000 := by
    rw [since_century, hk]
    push_cast
    ring
  rw [toMicros, hsince, Int.mul_tdiv_cancel _ (by decide), hk, Nat.mul_div_cancel_left k (by decide)]

theorem ofParts?_self (a : Instant) : ofParts? a.seconds a.nanos = some a :=
  dif_pos ⟨a.in_calendar, a.nanos_lt, a.leap_at_minute_end⟩

theorem parts_of_ofParts? {seconds : Int} {nanos : Nat} (h : ofParts? seconds nanos = some a) :
    a.seconds = seconds ∧ a.nanos = nanos := by
  unfold ofParts? at h
  split at h
  · cases h; exact ⟨rfl, rfl⟩
  · cases h

/-- **What comes back from the database unchanged.** -/
theorem ofMicros?_toMicros : ofMicros? a.toMicros = some a ↔ a.Kept := by
  constructor
  · intro h
    obtain ⟨-, hn⟩ := parts_of_ofParts? h
    have hlt : a.nanos < 1000000000 := by omega
    have hwhole : 1000 ∣ a.nanos := by
      rw [hn]
      exact Nat.dvd_mul_left ..
    exact ⟨hlt, hwhole⟩
  · intro h
    obtain ⟨k, hk⟩ := h.whole
    have hlt : a.nanos < 1000000000 := h.ordinary
    have hseconds : century.seconds + a.toMicros / 1000000 = a.seconds := by
      rw [toMicros_of_whole h.whole, seconds_century]
      omega
    have hnanos : (a.toMicros % 1000000).toNat * 1000 = a.nanos := by
      rw [toMicros_of_whole h.whole]
      omega
    rw [ofMicros?, hseconds, hnanos, ofParts?_self]

theorem before_iff : a.before b = true ↔ a.seconds < b.seconds ∨ a.seconds = b.seconds ∧ a.nanos < b.nanos := by
  simp [before]

/-- no instant is between: what is not after another is before it, or the same -/
theorem before_eq_false_iff : a.before b = false ↔ b.before a = true ∨ b = a := by
  obtain ⟨s, n⟩ := a
  obtain ⟨s', n'⟩ := b
  simp only [← Bool.not_eq_true, before_iff, mk.injEq]
  omega

/-- **The counts of whole microseconds are ordered as the instants are.** -/
theorem toMicros_le (ha : a.Kept) (hb : b.Kept) : b.toMicros ≤ a.toMicros ↔ a.before b = false := by
  have hlta : a.nanos < 1000000000 := ha.ordinary
  have hltb : b.nanos < 1000000000 := hb.ordinary
  obtain ⟨j, hj⟩ := ha.whole
  obtain ⟨k, hk⟩ := hb.whole
  rw [← Bool.not_eq_true, before_iff, toMicros_of_whole ha.whole, toMicros_of_whole hb.whole]
  omega

end Time.Instant

/-- the times in a repository -/
def Repository.times (r : Repository) : List Time.Instant := r.pushedAt.toList ++ r.updatedAt.toList

/-- all times in a snapshot -/
def Snapshot.times (s : Snapshot) : List Time.Instant := s.fetchedAt :: s.repositories.flatMap Repository.times

theorem Snapshot.times_repository {s : Snapshot} {r : Repository} (h : r ∈ s.repositories) : r.times ⊆ s.times :=
  fun _ ha => List.mem_cons_of_mem _ (List.mem_flatMap.2 ⟨r, h, ha⟩)

end AccountStats
