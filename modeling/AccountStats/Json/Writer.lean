import AccountStats.Json.Real
/-
Compact JSON text: no blanks, members in the order held. Quotes, backslashes and control characters are escaped (the
five short escapes, else four hex digits); all else is written as it is.

Writing puts a value in front of the text that follows it.
-/
namespace AccountStats.Json

open AccountStats.Text

/-! ## Strings and numbers -/

def hexDigit (n : Nat) : Char := Nat.digitChar (n % 16)

/-- a character as it stands in a string literal -/
def escape (c : Char) : List Char :=
  if c = '"' then ['\\', '"']
  else if c = '\\' then ['\\', '\\']
  else if 0x20 ≤ c.toNat then [c]
  else if c = '\n' then ['\\', 'n']
  else if c = '\r' then ['\\', 'r']
  else if c = '\t' then ['\\', 't']
  else if c = '\x08' then ['\\', 'b']
  else if c = '\x0c' then ['\\', 'f']
  else ['\\', 'u', '0', '0', hexDigit (c.toNat / 16), hexDigit c.toNat]

/-- a string literal in front of `rest` -/
def writeString (s : List Char) (rest : List Char) : List Char :=
  '"' :: (s.flatMap escape ++ '"' :: rest)

/-- a literal that spells no text is never written; the empty one stands for it -/
def writeLiteral (s : Option String) (rest : List Char) : List Char :=
  writeString (s.elim [] String.toList) rest

def writeNumber : Number → List Char
  | .int n => signedDecimal n
  | .real x => Real.render x

/-! ## Values -/

mutual

/-- a value in front of `rest` -/
def write (j : Json) (rest : List Char) : List Char :=
  match j with
  | .null => 'n' :: 'u' :: 'l' :: 'l' :: rest
  | .bool true => 't' :: 'r' :: 'u' :: 'e' :: rest
  | .bool false => 'f' :: 'a' :: 'l' :: 's' :: 'e' :: rest
  | .number n => writeNumber n ++ rest
  | .string s => writeLiteral s rest
  | .array items => '[' :: writeItems items rest
  | .object members => '\x7b' :: writeMembers members rest

def writeItems (items : List Json) (rest : List Char) : List Char :=
  match items with
  | [] => ']' :: rest
  | [x] => write x (']' :: rest)
  | x :: xs => write x (',' :: writeItems xs rest)

def writeMembers (members : List (Option String × Json)) (rest : List Char) : List Char :=
  match members with
  | [] => '\x7d' :: rest
  | [(k, v)] => writeLiteral k (':' :: write v ('\x7d' :: rest))
  | (k, v) :: ms => writeLiteral k (':' :: write v (',' :: writeMembers ms rest))

end

/-- the compact text of a value -/
def render (j : Json) : String := String.ofList (write j [])

/-! ## Members sorted by name -/

mutual

/-- the same value with the members of every object sorted by name; of a repeated name the last member counts -/
def sorted (j : Json) : Json :=
  match j with
  | .array items => .array (sortedItems items)
  | .object members => .object (sortedMembers members)
  | other => other

def sortedItems (items : List Json) : List Json :=
  match items with
  | [] => []
  | x :: xs => sorted x :: sortedItems xs

def sortedMembers (members : List (Option String × Json)) : List (Option String × Json) :=
  match members with
  | [] => []
  | (k, v) :: ms => insertFirst k (sorted v) (sortedMembers ms)
where
  /-- puts a member in its place among sorted ones, unless the name is there already -/
  insertFirst (k : Option String) (v : Json) : List (Option String × Json) → List (Option String × Json)
    | [] => [(k, v)]
    | (k', v') :: ms =>
      if k = k' then (k', v') :: ms
      else if k.getD "" < k'.getD "" then (k, v) :: (k', v') :: ms
      else (k', v') :: insertFirst k v ms

end

end AccountStats.Json
