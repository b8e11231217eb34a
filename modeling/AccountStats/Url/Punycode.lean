/-
Punycode: text of all characters, written in letters and digits of ASCII. What stands before the last hyphen is
the text without its other characters; what follows gives, for each of these in ascending order, the distance to its
place, in digits whose weights adapt to the distances read so far.
-/
namespace AccountStats.Url.Punycode

/-- the value of a digit; letters of both cases come before the decimal digits -/
def digit? (c : Char) : Option Nat :=
  if 'a' ≤ c ∧ c ≤ 'z' then some (c.toNat - 'a'.toNat)
  else if 'A' ≤ c ∧ c ≤ 'Z' then some (c.toNat - 'A'.toNat)
  else if '0' ≤ c ∧ c ≤ '9' then some (c.toNat - '0'.toNat + 26)
  else none

/-- a digit below the threshold ends its number -/
def threshold (place bias : Nat) : Nat := max 1 (min 26 (place - bias))

/-- halves the digit range until the distance fits; `place` counts the digits that this saves -/
def scale (delta place : Nat) : Nat :=
  if 455 < delta then scale (delta / 35) (place + 36) else place + 36 * delta / (delta + 38)
termination_by delta
decreasing_by exact Nat.div_lt_self (by omega) (by omega)

/-- the bias for the next distance, from the last one and the length of the text with its character -/
def adapt (delta length : Nat) (first : Bool) : Nat :=
  let delta := if first then delta / 700 else delta / 2
  scale (delta + delta / length) 0

/-- how far a text has been read -/
structure Reading where
  text : List Char
  code : Nat
  bias : Nat
  /-- the place that the last distance led to -/
  start : Nat
  /-- the place that the digits of the distance being read lead to -/
  index : Nat
  weight : Nat
  place : Nat
deriving Repr

namespace Reading

def ofBasic (text : List Char) : Reading := ⟨text, 128, 72, 0, 0, 1, 36⟩

/-- between two distances -/
def isClosed (r : Reading) : Bool := r.place == 36

/-- puts in the character that a whole distance leads to -/
def close? (r : Reading) : Option Reading :=
  let length := r.text.length + 1
  let code := r.code + r.index / length
  let target := r.index % length
  if code.isValidChar then
    some { text := r.text.insertIdx target (Char.ofNat code), code, bias := adapt (r.index - r.start) length (r.start == 0),
           start := target + 1, index := target + 1, weight := 1, place := 36 }
  else none

def push? (r : Reading) (c : Char) : Option Reading :=
  match digit? c with
  | none => none
  | some d =>
    let t := threshold r.place r.bias
    let r := { r with index := r.index + d * r.weight }
    if d < t then r.close? else some { r with weight := r.weight * (36 - t), place := r.place + 36 }

end Reading

/-- what stands before the last hyphen, and behind it -/
def sections (cs : List Char) : List Char × List Char :=
  let digits := (cs.reverse.takeWhile (· ≠ '-')).reverse
  ((cs.take (cs.length - digits.length)).dropLast, digits)

/-- the text that is written so -/
def decode? (cs : List Char) : Option (List Char) :=
  let (basic, digits) := sections cs
  if basic.all (·.toNat < 128) then
    match digits.foldlM Reading.push? (Reading.ofBasic basic) with
    | some r => if r.isClosed then some r.text else none
    | none => none
  else none

end AccountStats.Url.Punycode
