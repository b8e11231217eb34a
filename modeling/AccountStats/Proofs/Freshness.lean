import Mathlib.Tactic
import AccountStats.Freshness
import AccountStats.Proofs.Time.WholeMicros
/-
How the class of an entry changes as the clock goes on.

The clock reads no leap seconds, so the time between two of its readings is that between their counts of nanoseconds,
and the age of an entry that it has dated only grows. A date from elsewhere may be in a leap second, which counts as
passed only while the time of day is later than it: at midnight the age falls back by a second. Results:
- `age_of_ordinary`: ages to the nanosecond, outside leap seconds;
- `classify_ne_fresh_iff`, `classify_ne_expired_iff`: what the classes say of the age;
- `rank_classify_le`: outside leap seconds a class never moves back.
-/
namespace AccountStats

namespace Time.Instant

variable {a b : Instant}

/-- nanoseconds since 1970-01-01T00:00:00, with no leap second counted -/
def sinceEpoch (a : Instant) : Int := a.seconds * 1000000000 + a.nanos

theorem since_of_ordinary (ha : a.Ordinary) (hb : b.Ordinary) : a.since b = a.sinceEpoch - b.sinceEpoch := by
  have hearlier : ¬ (a.secondOfDay > b.secondOfDay ∧ nanosPerSecond ≤ b.nanos) := fun h => Nat.not_le_of_lt hb h.2
  have hlater : ¬ (a.secondOfDay < b.secondOfDay ∧ nanosPerSecond ≤ a.nanos) := fun h => Nat.not_le_of_lt ha h.2
  rw [since, if_neg hearlier, if_neg hlater, sinceEpoch, sinceEpoch, nanosPerSecond]
  push_cast
  ring

/-- the clock goes on: one reading is not before another just if its count is not less -/
theorem sinceEpoch_le_iff (ha : a.Ordinary) (hb : b.Ordinary) : b.sinceEpoch ≤ a.sinceEpoch ↔ a.before b = false := by
  have hlta : a.nanos < 1000000000 := ha
  have hltb : b.nanos < 1000000000 := hb
  rw [← Bool.not_eq_true, before_iff, sinceEpoch, sinceEpoch]
  omega

end Time.Instant

open Time (Instant)

variable {updatedAt now later : Instant}

/-! ## Ages -/

/-- **An age is exact to the nanosecond**, and that of an entry from the future is zero. -/
theorem age_of_ordinary (hupdated : updatedAt.Ordinary) (hnow : now.Ordinary) :
    age updatedAt now = (now.sinceEpoch - updatedAt.sinceEpoch).toNat := by
  rw [age, Instant.since_of_ordinary hnow hupdated]

theorem age_le_age (hupdated : updatedAt.Ordinary) (hnow : now.Ordinary) (hlater : later.Ordinary)
    (h : later.before now = false) : age updatedAt now ≤ age updatedAt later := by
  have hcount : now.sinceEpoch ≤ later.sinceEpoch := (Instant.sinceEpoch_le_iff hlater hnow).2 h
  rw [age_of_ordinary hupdated hnow, age_of_ordinary hupdated hlater]
  exact Int.toNat_le_toNat (Int.sub_le_sub_right hcount _)

theorem age_of_future (hupdated : updatedAt.Ordinary) (hnow : now.Ordinary) (h : updatedAt.before now = false) :
    age updatedAt now = 0 := by
  have hcount : now.sinceEpoch ≤ updatedAt.sinceEpoch := (Instant.sinceEpoch_le_iff hupdated hnow).2 h
  rw [age_of_ordinary hupdated hnow, Int.toNat_eq_zero]
  exact Int.sub_nonpos_of_le hcount

/-! ## Classes -/

/-- how far on a class is -/
def Freshness.rank : Freshness → Nat
  | .fresh => 0
  | .stale => 1
  | .expired => 2

variable {policy : FreshnessPolicy}

theorem classify_ne_fresh_iff : policy.classify updatedAt now ≠ .fresh ↔ policy.soft < age updatedAt now := by
  unfold FreshnessPolicy.classify
  split_ifs <;> simp_all

/-- an entry is served as long as it is not older than the hard limit -/
theorem classify_ne_expired_iff (h : policy.soft ≤ policy.hard) :
    policy.classify updatedAt now ≠ .expired ↔ age updatedAt now ≤ policy.hard := by
  unfold FreshnessPolicy.classify
  split_ifs with hsoft hhard
  · exact iff_of_true nofun (hsoft.trans h)
  · exact iff_of_true nofun hhard
  · exact iff_of_false (fun hne => hne rfl) hhard

theorem rank_classify : (policy.classify updatedAt now).rank =
    if age updatedAt now ≤ policy.soft then 0 else if age updatedAt now ≤ policy.hard then 1 else 2 := by
  unfold FreshnessPolicy.classify
  split_ifs <;> rfl

/-- **A class never moves back while the clock goes on**, outside leap seconds. -/
theorem rank_classify_le (hupdated : updatedAt.Ordinary) (hnow : now.Ordinary) (hlater : later.Ordinary)
    (h : later.before now = false) :
    (policy.classify updatedAt now).rank ≤ (policy.classify updatedAt later).rank := by
  have hage : age updatedAt now ≤ age updatedAt later := age_le_age hupdated hnow hlater h
  rw [rank_classify, rank_classify]
  by_cases hsoft : age updatedAt later ≤ policy.soft
  · rw [if_pos (hage.trans hsoft)]
    exact Nat.zero_le _
  · rw [if_neg hsoft]
    by_cases hhard : age updatedAt later ≤ policy.hard
    · rw [if_pos hhard, if_pos (hage.trans hhard)]
      split_ifs <;> decide
    · rw [if_neg hhard]
      split_ifs <;> decide

end AccountStats
