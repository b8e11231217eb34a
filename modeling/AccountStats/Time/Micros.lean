import AccountStats.Time.Instant
/-
Instants as whole microseconds from 2000-01-01T00:00:00, as the database keeps them. Finer digits are cut off towards
that instant.
-/
namespace AccountStats.Time

/-- the instant from which microseconds are counted -/
def century : Instant := (Instant.ofSeconds? 946684800).getD Instant.epoch

/-- the microseconds of an instant -/
def Instant.toMicros (a : Instant) : Int := (a.since century).tdiv 1000

/-- the instant of so many microseconds, if the calendar covers it -/
def Instant.ofMicros? (n : Int) : Option Instant :=
  ofParts? (century.seconds + n / 1000000) ((n % 1000000).toNat * 1000)

end AccountStats.Time
