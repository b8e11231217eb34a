/-
JSON values.

A string literal is kept as the text it spells. Some literals spell none (bytes outside UTF-8, half of a surrogate
pair); they may stand where a value is passed over and are kept as `none`. Objects keep their members in the order
written, repeated names included.
-/
namespace AccountStats

/-- an exact decimal: `digits * 10 ^ exponent`, negated if so marked -/
structure Scientific where
  negative : Bool
  digits : Nat
  exponent : Int
deriving DecidableEq, Repr

/-- numbers: those written as whole numbers within 64 bits, and all others -/
inductive Number where
  | int (n : Int)
  | real (x : Scientific)
deriving DecidableEq, Repr

inductive Json where
  | null
  | bool (b : Bool)
  | number (n : Number)
  | string (text : Option String)
  | array (items : List Json)
  | object (members : List (Option String × Json))
deriving Repr

namespace Json

/-- a text as a value -/
def text (s : String) : Json := .string (some s)

/-- a whole number as a value -/
def int (n : Int) : Json := .number (.int n)

/-- an object with the given members, in the given order -/
def record (members : List (String × Json)) : Json := .object (members.map fun (k, v) => (some k, v))

/-- nothing as `null` -/
def ofOption (f : α → Json) : Option α → Json
  | none => .null
  | some a => f a

end Json

end AccountStats
