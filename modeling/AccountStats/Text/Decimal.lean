/-
Whole numbers as decimal text. Writing is the plain form without leading zeros; reading accepts an optional sign, then
digits alone, and refuses what the width cannot hold.
-/
namespace AccountStats.Text

/-! ## Writing -/

/-- the digits of a number, most significant first -/
def decimal (n : Nat) : List Char := Nat.toDigits 10 n

/-- a minus sign where one is needed, then digits -/
def signedDecimal : Int → List Char
  | .ofNat n => decimal n
  | .negSucc n => '-' :: decimal (n + 1)

/-- at least `width` digits, filled up with zeros on the left -/
def paddedDecimal (width n : Nat) : List Char :=
  List.replicate (width - (decimal n).length) '0' ++ decimal n

/-! ## Reading -/

/-- one digit or more, and nothing else -/
def magnitude? (cs : List Char) : Option Nat :=
  if cs ≠ [] ∧ cs.all Char.isDigit = true then some (Nat.ofDigitChars 10 cs 0) else none

/-- an optional plus sign, then a magnitude below `2 ^ bits` -/
def unsigned? (bits : Nat) (cs : List Char) : Option Nat :=
  let body := match cs with
    | '+' :: rest => rest
    | _ => cs
  (magnitude? body).filter (· < Nat.pow 2 bits)

/-- why a text is no number -/
inductive NumberFault where
  | empty
  | digit
  | tooLarge
deriving DecidableEq, Repr

def NumberFault.text : NumberFault → String
  | .empty => "cannot parse integer from empty string"
  | .digit => "invalid digit found in string"
  | .tooLarge => "number too large to fit in target type"

/-- a number that begins with the digits of `n`; the first thing wrong counts -/
def readDigits (limit n : Nat) : List Char → Except NumberFault Nat
  | [] => .ok n
  | c :: cs =>
    if c.isDigit then
      let n := 10 * n + (c.toNat - '0'.toNat)
      if n < limit then readDigits limit n cs else .error .tooLarge
    else .error .digit

/-- an optional plus sign, then digits of a number below `2 ^ bits` -/
def readUnsigned (bits : Nat) (cs : List Char) : Except NumberFault Nat :=
  match cs with
  | [] => .error .empty
  | ['+'] => .error .digit
  | '+' :: rest => readDigits (Nat.pow 2 bits) 0 rest
  | _ => readDigits (Nat.pow 2 bits) 0 cs

/-- an optional sign, then a magnitude; the value must fit two's complement of that many bits -/
def signed? (bits : Nat) (cs : List Char) : Option Int :=
  let value : Option Int := match cs with
    | '+' :: rest => (magnitude? rest).map Int.ofNat
    | '-' :: rest => (magnitude? rest).map fun n => -(n : Int)
    | _ => (magnitude? cs).map Int.ofNat
  let limit : Int := Nat.pow 2 (bits - 1)
  value.filter fun v => -limit ≤ v && v < limit

/-! ## What is written -/

theorem all_isDigit_decimal (n : Nat) : (decimal n).all Char.isDigit = true := by
  rw [List.all_eq_true]
  exact fun c hc => Nat.isDigit_of_mem_toDigits (by decide) (by decide) hc

theorem decimal_ne_nil (n : Nat) : decimal n ≠ [] := Nat.toDigits_ne_nil

end AccountStats.Text
