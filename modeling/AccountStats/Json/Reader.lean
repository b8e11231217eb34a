import AccountStats.Json.Basic
import AccountStats.Text.Decimal
import AccountStats.Text.Utf8
/-
Reading JSON text strictly: one value, blanks around tokens, no trailing commas, no leading zeros, nothing after it.

Text arrives in pieces, so that bytes outside UTF-8 may stand inside a string literal. A literal is first read as marks
(characters, halves of surrogate pairs, stray bytes) and then spelled; one that cannot be spelled is kept as `none`.
Recursion over values is bounded by the number of pieces, since every value takes at least one.
-/
namespace AccountStats.Json

open AccountStats.Text

/-! ## String literals -/

/-- what stands in a string literal once escapes are read -/
inductive Mark where
  | char (c : Char)
  /-- one half of a surrogate pair, escaped -/
  | half (unit : Nat)
  /-- a byte that belongs to no character -/
  | stray
deriving DecidableEq, Repr

def hexValue? (c : Char) : Option Nat :=
  if '0' ≤ c ∧ c ≤ '9' then some (c.toNat - 48)
  else if 'a' ≤ c ∧ c ≤ 'f' then some (c.toNat - 87)
  else if 'A' ≤ c ∧ c ≤ 'F' then some (c.toNat - 55)
  else none

/-- the number that four hex digits write -/
def hex4? (a b c d : Piece) : Option Nat := do
  let a ← a >>= hexValue?
  let b ← b >>= hexValue?
  let c ← c >>= hexValue?
  let d ← d >>= hexValue?
  return a * 4096 + b * 256 + c * 16 + d

/-- a 16-bit unit as a mark -/
def Mark.ofUnit (n : Nat) : Mark :=
  if 0xD800 ≤ n ∧ n < 0xE000 then .half n else .char (Char.ofNat n)

/-- the character of a short escape -/
def shortEscape? : Char → Option Char
  | '"' => some '"'
  | '\\' => some '\\'
  | '/' => some '/'
  | 'b' => some '\x08'
  | 'f' => some '\x0c'
  | 'n' => some '\n'
  | 'r' => some '\r'
  | 't' => some '\t'
  | _ => none

/-- marks up to the closing quote, and what follows it; control characters must be escaped -/
def readMarks : List Piece → Option (List Mark × List Piece)
  | [] => none
  | some '"' :: ps => some ([], ps)
  | some '\\' :: some 'u' :: a :: b :: c :: d :: ps => do
    let n ← hex4? a b c d
    let (ms, rest) ← readMarks ps
    return (Mark.ofUnit n :: ms, rest)
  | some '\\' :: some e :: ps => do
    let c ← shortEscape? e
    let (ms, rest) ← readMarks ps
    return (.char c :: ms, rest)
  | some c :: ps => do
    if c = '\\' ∨ c.toNat < 0x20 then none
    let (ms, rest) ← readMarks ps
    return (.char c :: ms, rest)
  | none :: ps => do
    let (ms, rest) ← readMarks ps
    return (.stray :: ms, rest)

/-- the text that marks spell: a high half is followed by a low half, and nothing is stray -/
def spell : List Mark → Option (List Char)
  | [] => some []
  | .char c :: ms => (spell ms).map (c :: ·)
  | .half hi :: .half lo :: ms =>
    if hi < 0xDC00 ∧ 0xDC00 ≤ lo then
      (spell ms).map (Char.ofNat (0x10000 + (hi - 0xD800) * 1024 + (lo - 0xDC00)) :: ·)
    else none
  | _ => none

/-- a literal whose opening quote is read already -/
def readLiteral (ps : List Piece) : Option (Option String × List Piece) :=
  (readMarks ps).map fun (ms, rest) => ((spell ms).map String.ofList, rest)

/-! ## Numbers -/

/-- the longest run of digits in front -/
def spanDigits : List Piece → List Char × List Piece
  | some c :: ps =>
    if c.isDigit then let (ds, rest) := spanDigits ps; (c :: ds, rest) else ([], some c :: ps)
  | ps => ([], ps)

/-- digits after a point, if there is a point -/
def readFraction : List Piece → Option (Option (List Char) × List Piece)
  | some '.' :: ps => match spanDigits ps with
    | ([], _) => none
    | (ds, rest) => some (some ds, rest)
  | ps => some (none, ps)

/-- an exponent, if there is one -/
def readExponent : List Piece → Option (Option Int × List Piece)
  | some c :: ps =>
    if c = 'e' ∨ c = 'E' then
      let (negative, ps) := match ps with
        | some '-' :: ps => (true, ps)
        | some '+' :: ps => (false, ps)
        | ps => (false, ps)
      match spanDigits ps with
      | ([], _) => none
      | (ds, rest) =>
        let n : Int := Nat.ofDigitChars 10 ds 0
        some (some (if negative then -n else n), rest)
    else some (none, some c :: ps)
  | ps => some (none, ps)

/-- the number written by a sign, whole digits, and perhaps a fraction and an exponent -/
def assemble (negative : Bool) (whole : List Char) (fraction : Option (List Char)) (exponent : Option Int) : Number :=
  let n := Nat.ofDigitChars 10 whole 0
  match fraction, exponent with
  | none, none =>
    let v : Int := if negative then -n else n
    if (negative = true ∧ n = 0) ∨ v < -9223372036854775808 ∨ 18446744073709551616 ≤ v then .real ⟨negative, n, 0⟩ else .int v
  | fraction, exponent =>
    let ds := fraction.getD []
    .real ⟨negative, Nat.ofDigitChars 10 (whole ++ ds) 0, exponent.getD 0 - ds.length⟩

/-- the digits before the point: zero alone, or no leading zero -/
def readWhole : List Piece → Option (List Char × List Piece)
  | some '0' :: ps => some (['0'], ps)
  | ps => match spanDigits ps with
    | ([], _) => none
    | found => some found

def readNumber (ps : List Piece) : Option (Number × List Piece) := do
  let (negative, ps) := match ps with
    | some '-' :: ps => (true, ps)
    | ps => (false, ps)
  let (whole, ps) ← readWhole ps
  let (fraction, ps) ← readFraction ps
  let (exponent, ps) ← readExponent ps
  return (assemble negative whole fraction exponent, ps)

/-! ## Values -/

/-- what follows the blanks in front -/
def skipBlanks : List Piece → List Piece
  | some ' ' :: ps => skipBlanks ps
  | some '\n' :: ps => skipBlanks ps
  | some '\t' :: ps => skipBlanks ps
  | some '\r' :: ps => skipBlanks ps
  | ps => ps

mutual

/-- one value and what follows it -/
def readValue : Nat → List Piece → Option (Json × List Piece)
  | 0, _ => none
  | fuel + 1, ps => match skipBlanks ps with
    | some 'n' :: some 'u' :: some 'l' :: some 'l' :: ps => some (.null, ps)
    | some 't' :: some 'r' :: some 'u' :: some 'e' :: ps => some (.bool true, ps)
    | some 'f' :: some 'a' :: some 'l' :: some 's' :: some 'e' :: ps => some (.bool false, ps)
    | some '"' :: ps => (readLiteral ps).map fun (s, rest) => (.string s, rest)
    | some '[' :: ps => match skipBlanks ps with
      | some ']' :: ps => some (.array [], ps)
      | ps => (readItems fuel ps).map fun (xs, rest) => (.array xs, rest)
    | some '\x7b' :: ps => match skipBlanks ps with
      | some '\x7d' :: ps => some (.object [], ps)
      | ps => (readMembers fuel ps).map fun (ms, rest) => (.object ms, rest)
    | ps => (readNumber ps).map fun (n, rest) => (.number n, rest)

/-- items up to the closing bracket, at least one -/
def readItems : Nat → List Piece → Option (List Json × List Piece)
  | 0, _ => none
  | fuel + 1, ps => do
    let (x, ps) ← readValue fuel ps
    match skipBlanks ps with
    | some ',' :: ps =>
      let (xs, rest) ← readItems fuel ps
      return (x :: xs, rest)
    | some ']' :: ps => return ([x], ps)
    | _ => none

/-- members up to the closing brace, at least one -/
def readMembers : Nat → List Piece → Option (List (Option String × Json) × List Piece)
  | 0, _ => none
  | fuel + 1, ps => match skipBlanks ps with
    | some '"' :: ps => do
      let (k, ps) ← readLiteral ps
      match skipBlanks ps with
      | some ':' :: ps =>
        let (v, ps) ← readValue fuel ps
        match skipBlanks ps with
        | some ',' :: ps =>
          let (ms, rest) ← readMembers fuel ps
          return ((k, v) :: ms, rest)
        | some '\x7d' :: ps => return ([(k, v)], ps)
        | _ => none
      | _ => none
    | _ => none

end

/-- the one value that a whole text writes -/
def read (ps : List Piece) : Option Json :=
  match readValue (2 * ps.length + 2) ps with
  | some (j, rest) => if skipBlanks rest = [] then some j else none
  | none => none

/-- the one value that a byte sequence writes -/
def readBytes (bytes : ByteArray) : Option Json := read (pieces bytes)

/-- the one value that a text writes -/
def readText (s : String) : Option Json := read (ofText s)

end AccountStats.Json
