import AccountStats.Text.Invisible
import AccountStats.Text.Utf8
/-
Text in quotes, so that every character can be told apart. Quotes and backslashes are escaped, blanks other than the
plain one and characters that leave no mark are given by number.
-/
namespace AccountStats.Text

/-- a number in hexadecimal, without leading zeros -/
def hex (n : Nat) : List Char := Nat.toDigits 16 n

/-- a character as it stands between quotes -/
def quotedChar (c : Char) : List Char :=
  if c = '\x00' then ['\\', '0']
  else if c = '\t' then ['\\', 't']
  else if c = '\r' then ['\\', 'r']
  else if c = '\n' then ['\\', 'n']
  else if c = '"' then ['\\', '"']
  else if c = '\\' then ['\\', '\\']
  else if isInvisible c then '\\' :: 'u' :: '\x7b' :: hex c.toNat ++ ['\x7d']
  else [c]

/-- a text in quotes -/
def quoted (s : String) : String := String.ofList ('"' :: s.toList.flatMap quotedChar ++ ['"'])

/-- one byte by number, two capital digits -/
def quotedByte (b : UInt8) : List Char :=
  ['\\', 'x', (Nat.digitChar (b.toNat / 16)).toUpper, (Nat.digitChar (b.toNat % 16)).toUpper]

/-- a character as it stands between the quotes of a byte sequence, where single quotes are escaped too -/
def quotedCharOfBytes (c : Char) : List Char := if c = '\'' then ['\\', '\''] else quotedChar c

/-- bytes in quotes from position `i` on: characters that they encode, all other bytes by number -/
def quotedFrom (bytes : ByteArray) (i : Nat) : List Char :=
  if h : i < bytes.size then
    match bytes.utf8DecodeChar? i with
    | some c => quotedCharOfBytes c ++ quotedFrom bytes (i + c.utf8Size)
    | none => quotedByte bytes[i] ++ quotedFrom bytes (i + 1)
  else []
termination_by bytes.size - i
decreasing_by
  · have := c.utf8Size_pos; omega
  · omega

/-- bytes in quotes -/
def quotedBytes (bytes : ByteArray) : String := String.ofList ('"' :: quotedFrom bytes 0 ++ ['"'])

end AccountStats.Text
