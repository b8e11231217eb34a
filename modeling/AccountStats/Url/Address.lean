import AccountStats.Text.Decimal
import AccountStats.Text.Percent
import AccountStats.Text.Split
/-
Internet addresses as text. An address of 32 bits is a dotted quad; in the host of a URL its parts may be fewer, and
octal or hexadecimal. An address of 128 bits is eight groups, of which one run of zeros may be left out.
-/
namespace AccountStats.Url

open AccountStats.Text

/-! ## 32 bits -/

/-- a part of a dotted quad: three digits at most, without leading zeros -/
def octet? (cs : List Char) : Option Nat :=
  if cs.length ≤ 3 ∧ (cs.head? ≠ some '0' ∨ cs = ['0']) then (magnitude? cs).filter (· < 256) else none

def dottedQuad? (cs : List Char) : Option Nat :=
  match (splitOn '.' cs).mapM octet? with
  | some [a, b, c, d] => some (((a * 256 + b) * 256 + c) * 256 + d)
  | _ => none

/-- digits of a base that is 16 at most; no digits make zero -/
def ofDigits? (base : Nat) (cs : List Char) : Option Nat :=
  cs.foldlM (fun n c => ((hexDigit? c).filter (· < base)).map (base * n + ·)) 0

/-- a part of an address in the host of a URL: hexadecimal behind `0x`, octal behind another zero -/
def part? : List Char → Option Nat
  | [] => none
  | '0' :: 'x' :: cs | '0' :: 'X' :: cs => ofDigits? 16 cs
  | '0' :: c :: cs => ofDigits? 8 (c :: cs)
  | cs => ofDigits? 10 cs

/-- the parts between dots; a dot at the end closes the last one -/
def parts (cs : List Char) : List (List Char) :=
  match (splitOn '.' cs).reverse with
  | [] :: rest => rest.reverse
  | rest => rest.reverse

/-- whether the last part is a number, so that the whole must be an address -/
def endsInNumber (cs : List Char) : Bool :=
  match (parts cs).getLast? with
  | none => false
  | some last => (last ≠ [] && last.all Char.isDigit) || (part? last).isSome

/-- the address that numbers make: the last one fills all the bytes that the others leave -/
def ofParts? (ns : List Nat) : Option Nat :=
  match ns.getLast? with
  | none => none
  | some last =>
    let front := ns.dropLast
    let left := 4 - front.length
    if front.length < 4 ∧ front.all (· < 256) ∧ last < Nat.pow 256 left then
      some (front.foldl (fun n byte => n * 256 + byte) 0 * Nat.pow 256 left + last)
    else none

/-- an address of 32 bits in the host of a URL -/
def ipv4? (cs : List Char) : Option Nat := ((parts cs).mapM part?).bind ofParts?

/-! ## 128 bits -/

/-- one group: four hexadecimal digits at most -/
def group? (cs : List Char) : Option Nat := if cs ≠ [] ∧ cs.length ≤ 4 then ofDigits? 16 cs else none

/-- groups; a dotted quad may stand for the last two -/
def groups? : List (List Char) → Option (List Nat)
  | [] => some []
  | [part] => match group? part with
    | some g => some [g]
    | none => (dottedQuad? part).map fun n => [n / 65536, n % 65536]
  | part :: parts => do
    let g ← group? part
    return g :: (← groups? parts)

/-- the groups of an address of 128 bits; two colons stand for the groups that are missing, one at least -/
def ipv6? (cs : List Char) : Option (List Nat) :=
  match splitAround [':', ':'] cs with
  | none => (groups? (splitOn ':' cs)).filter (·.length = 8)
  | some (head, tail) => do
    let front ← if head = [] then some [] else (splitOn ':' head).mapM group?
    let back ← if tail = [] then some [] else groups? (splitOn ':' tail)
    let missing := 8 - (front.length + back.length)
    if missing = 0 then none else some (front ++ List.replicate missing 0 ++ back)

/-- whether a text is an address, in its plain form -/
def isAddress (cs : List Char) : Bool := (dottedQuad? cs).isSome || (ipv6? cs).isSome

end AccountStats.Url
