import AccountStats.Text.Blank
import AccountStats.Text.Decimal
import AccountStats.Time.Calendar
import AccountStats.Time.Instant
/-
Instants as RFC 3339 text.

Writing gives universal time with `Z` and the fewest of 0, 3, 6 or 9 fraction digits that are exact; a year outside 0 to
9999 has a sign. Reading is lenient: blanks between the parts, fewer digits than usual, `t` or a blank between date and
time, any fraction, `UTC` or an offset with or without colon. A second 60 is the leap second of any minute.
-/
namespace AccountStats.Time.Rfc3339

open AccountStats.Text

/-! ## Writing -/

/-- four digits, or a sign and at least four outside 0 to 9999 -/
def writeYear (year : Int) : List Char :=
  if 0 ≤ year ∧ year ≤ 9999 then paddedDecimal 4 year.toNat
  else (if year < 0 then '-' else '+') :: paddedDecimal 4 year.natAbs

/-- a point and the fewest of 3, 6 or 9 digits that are exact; nothing for a whole second -/
def writeFraction (nanos : Nat) : List Char :=
  if nanos = 0 then []
  else if nanos % 1000000 = 0 then '.' :: paddedDecimal 3 (nanos / 1000000)
  else if nanos % 1000 = 0 then '.' :: paddedDecimal 6 (nanos / 1000)
  else '.' :: paddedDecimal 9 nanos

/-- date and time of day to the second, with a character between them -/
def writeMoment (between : Char) (t : Instant) : List Char :=
  let date := Date.ofDays (t.seconds / 86400)
  let second := t.secondOfDay.toNat
  let leap := if nanosPerSecond ≤ t.nanos then 1 else 0
  writeYear date.year ++ '-' :: paddedDecimal 2 date.month ++ '-' :: paddedDecimal 2 date.day ++
    between :: paddedDecimal 2 (second / 3600) ++ ':' :: paddedDecimal 2 (second / 60 % 60) ++
    ':' :: paddedDecimal 2 (second % 60 + leap)

/-- the same with the fraction of the second -/
def writeLocal (between : Char) (t : Instant) : List Char :=
  writeMoment between t ++ writeFraction (t.nanos % nanosPerSecond)

def write (t : Instant) : List Char := writeLocal 'T' t ++ ['Z']

/-- the text with `Z` -/
def render (t : Instant) : String := String.ofList (write t)

/-- the text with the offset written out -/
def renderWithOffset (t : Instant) : String := String.ofList (writeLocal 'T' t ++ ['+', '0', '0', ':', '0', '0'])

/-- the text for people: blanks between the parts, and the zone by name -/
def renderSpaced (t : Instant) : String := String.ofList (writeLocal ' ' t ++ [' ', 'U', 'T', 'C'])

/-- the text for people, to the second -/
def renderMoment (t : Instant) : String := String.ofList (writeMoment ' ' t ++ [' ', 'U', 'T', 'C'])

/-! ## Reading -/

/-- the digits in front, at most `limit` of them, and what follows -/
def takeDigits : Nat → List Char → List Char × List Char
  | limit + 1, c :: cs =>
    if c.isDigit then let (ds, rest) := takeDigits limit cs; (c :: ds, rest) else ([], c :: cs)
  | _, cs => ([], cs)

/-- a number of one to `limit` digits that fits 64 bits -/
def number? (limit : Nat) (cs : List Char) : Option (Nat × List Char) :=
  match takeDigits limit cs with
  | ([], _) => none
  | (ds, rest) =>
    let n := Nat.ofDigitChars 10 ds 0
    if n < 9223372036854775808 then some (n, rest) else none

/-- the same after blanks, within bounds -/
def field? (low high : Nat) (cs : List Char) : Option (Nat × List Char) := do
  let (n, rest) ← number? 2 (trimStart cs)
  if low ≤ n ∧ n ≤ high then some (n, rest) else none

/-- one character after blanks -/
def mark? (c : Char) (cs : List Char) : Option (List Char) :=
  match trimStart cs with
  | d :: rest => if d = c then some rest else none
  | [] => none

/-- up to four digits, or a sign and any number of digits -/
def year? (cs : List Char) : Option (Int × List Char) := do
  let (year, rest) ← match trimStart cs with
    | '-' :: cs => (number? cs.length cs).map fun (n, rest) => (-(n : Int), rest)
    | '+' :: cs => (number? cs.length cs).map fun (n, rest) => ((n : Int), rest)
    | cs => (number? 4 cs).map fun (n, rest) => ((n : Int), rest)
  if -2147483648 ≤ year ∧ year < 2147483648 then some (year, rest) else none

/-- nanoseconds after a point, if there is one; digits after the ninth are passed over -/
def fraction? : List Char → Option (Nat × List Char)
  | '.' :: cs => match takeDigits 9 cs with
    | ([], _) => none
    | (ds, rest) => some (Nat.ofDigitChars 10 ds 0 * Nat.pow 10 (9 - ds.length), rest.dropWhile Char.isDigit)
  | cs => some (0, cs)

/-- two digits and their number -/
def twoDigits? : List Char → Option (Nat × List Char)
  | a :: b :: cs => if a.isDigit && b.isDigit then some (Nat.ofDigitChars 10 [a, b] 0, cs) else none
  | _ => none

/-- seconds east of universal time: `Z`, `UTC`, or a sign, two digits of hours and two of minutes -/
def offset? (cs : List Char) : Option (Int × List Char) :=
  match cs with
  | a :: b :: c :: rest =>
    if a.toUpper = 'U' ∧ b.toUpper = 'T' ∧ c.toUpper = 'C' then some (0, rest) else signed cs
  | _ => signed cs
where
  signed : List Char → Option (Int × List Char)
    | [] => none
    | s :: cs =>
      if s = 'Z' ∨ s = 'z' then some (0, cs)
      else if s = '+' then (amount cs).map fun (n, rest) => ((n : Int), rest)
      else if s = '-' ∨ s = '\u2212' then (amount cs).map fun (n, rest) => (-(n : Int), rest)
      else none
  amount (cs : List Char) : Option (Nat × List Char) := do
    let (hours, cs) ← twoDigits? cs
    let (minutes, cs) ← twoDigits? (cs.dropWhile fun c => c = ':' || isBlank c)
    if minutes < 60 then some (hours * 3600 + minutes * 60, cs) else none

/-- the instant that a text names -/
def read (cs : List Char) : Option Instant := do
  let (year, cs) ← year? cs
  let cs ← mark? '-' cs
  let (month, cs) ← field? 1 12 cs
  let cs ← mark? '-' cs
  let (day, cs) ← field? 1 31 cs
  let cs ← match cs with
    | c :: cs => if c = 'T' ∨ c = 't' ∨ c = ' ' then some cs else none
    | [] => none
  let (hour, cs) ← field? 0 23 cs
  let cs ← mark? ':' cs
  let (minute, cs) ← field? 0 59 cs
  let cs ← mark? ':' cs
  let (second, cs) ← field? 0 60 cs
  let (nanos, cs) ← fraction? cs
  let (offset, cs) ← offset? (trimStart cs)
  let date : Date := ⟨year, month, day⟩
  if trimStart cs = [] ∧ date.Valid ∧ -86400 < offset ∧ offset < 86400 then
    let (second, nanos) := if second = 60 then (59, nanos + nanosPerSecond) else (second, nanos)
    let naive := date.toDays * 86400 + hour * 3600 + minute * 60 + second
    if firstSecond ≤ naive ∧ naive ≤ lastSecond then Instant.ofParts? (naive - offset) nanos else none
  else none

def parse? (s : String) : Option Instant := read s.toList

end AccountStats.Time.Rfc3339
