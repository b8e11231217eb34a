import AccountStats.Text.Utf8
/-
Percent escapes in the parts of a path. A percent sign with two hexadecimal digits behind it stands for a byte; any other
one stands for itself.
-/
namespace AccountStats.Text

def hexDigit? (c : Char) : Option Nat :=
  if c.isDigit then some (c.toNat - '0'.toNat)
  else if 'a' ≤ c ∧ c ≤ 'f' then some (c.toNat - 'a'.toNat + 10)
  else if 'A' ≤ c ∧ c ≤ 'F' then some (c.toNat - 'A'.toNat + 10)
  else none

/-- the bytes that a text stands for -/
def percentBytes : List Char → List UInt8
  | [] => []
  | '%' :: a :: b :: cs => match hexDigit? a, hexDigit? b with
    | some hi, some lo => UInt8.ofNat (16 * hi + lo) :: percentBytes cs
    | _, _ => '%'.toString.toUTF8.data.toList ++ percentBytes (a :: b :: cs)
  | c :: cs => c.toString.toUTF8.data.toList ++ percentBytes cs

/-- the bytes that a text with escapes stands for -/
def percentDecoded (cs : List Char) : ByteArray := ⟨(percentBytes cs).toArray⟩

/-- the text that a text with escapes stands for, if the bytes are one -/
def percentDecode (cs : List Char) : Option String := decodeUtf8 (percentDecoded cs)

end AccountStats.Text
