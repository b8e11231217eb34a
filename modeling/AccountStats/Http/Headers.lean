import AccountStats.Text.Case
/-
Header fields of requests and responses. A name may be repeated, and its letters may be in any case; the first field of
a name counts.
-/
namespace AccountStats.Http

/-- fields in the order received -/
abbrev Headers := List (String × ByteArray)

/-- the value of the first field with that name, which is given in lower case -/
def header? (name : String) (hs : Headers) : Option ByteArray :=
  (hs.find? fun h => Text.lowered h.1 = name).map Prod.snd

/-- a value as text, if all its bytes are visible ASCII, blanks or tabs -/
def headerText? (value : ByteArray) : Option (List Char) :=
  if value.data.toList.all fun b => (0x20 ≤ b && b < 0x7F) || b == 0x9 then
    some (value.data.toList.map fun b => Char.ofNat b.toNat)
  else none

/-- a value may hold tabs, and all bytes but control characters -/
def isHeaderValue (s : String) : Bool :=
  s.toUTF8.data.toList.all fun b => b == 0x9 || (0x20 ≤ b && b != 0x7F)

end AccountStats.Http
