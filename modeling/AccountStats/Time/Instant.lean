/-
Instants of universal time: whole seconds from 1970-01-01T00:00:00 and nanoseconds in the second. A leap second is kept
as a second second in the last second of a minute, so its nanoseconds run from one to two thousand million.

The calendar covers the years -262143 to 262142.
-/
namespace AccountStats.Time

/-- first and last second of the calendar -/
def firstSecond : Int := -8334601228800
def lastSecond : Int := 8210266876799

def nanosPerSecond : Nat := 1000000000

structure Instant where
  seconds : Int
  nanos : Nat
  in_calendar : firstSecond ≤ seconds ∧ seconds ≤ lastSecond
  nanos_lt : nanos < 2 * nanosPerSecond
  leap_at_minute_end : nanosPerSecond ≤ nanos → seconds % 60 = 59
deriving DecidableEq, Repr

namespace Instant

/-- the instant with these seconds and nanoseconds, if there is one -/
def ofParts? (seconds : Int) (nanos : Nat) : Option Instant :=
  if h : (firstSecond ≤ seconds ∧ seconds ≤ lastSecond) ∧ nanos < 2 * nanosPerSecond ∧
      (nanosPerSecond ≤ nanos → seconds % 60 = 59) then
    some ⟨seconds, nanos, h.1, h.2.1, h.2.2⟩
  else none

/-- the start of a second, if the calendar covers it -/
def ofSeconds? (seconds : Int) : Option Instant := ofParts? seconds 0

def epoch : Instant := ⟨0, 0, by decide, by decide, by decide⟩

/-- a nanosecond later, up to the end of the calendar -/
def next (a : Instant) : Instant :=
  let n := a.nanos + 1
  (if n % nanosPerSecond = 0 then ofParts? (a.seconds + 1) 0 else ofParts? a.seconds n).getD a

/-- strictly earlier -/
def before (a b : Instant) : Bool := a.seconds < b.seconds || (a.seconds == b.seconds && a.nanos < b.nanos)

/-- the second of the day, not counting leap seconds -/
def secondOfDay (a : Instant) : Int := a.seconds % 86400

/-- the time from `earlier` to `later` in nanoseconds. A leap second is counted as passed when one of the two lies in
it and the other has a time of day on the far side of it. -/
def since (later earlier : Instant) : Int :=
  let leap : Int :=
    if later.secondOfDay > earlier.secondOfDay ∧ nanosPerSecond ≤ earlier.nanos then 1
    else if later.secondOfDay < earlier.secondOfDay ∧ nanosPerSecond ≤ later.nanos then -1
    else 0
  (later.seconds - earlier.seconds + leap) * nanosPerSecond + ((later.nanos : Int) - earlier.nanos)

end Instant

end AccountStats.Time
