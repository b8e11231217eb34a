/-
Blank characters (Unicode `White_Space`) and the text between them.
-/
namespace AccountStats.Text

/-- the characters that Unicode calls white space -/
def isBlank (c : Char) : Bool :=
  let n := c.toNat
  (0x9 ≤ n && n ≤ 0xD) || n == 0x20 || n == 0x85 || n == 0xA0 || n == 0x1680 || (0x2000 ≤ n && n ≤ 0x200A) ||
    n == 0x2028 || n == 0x2029 || n == 0x202F || n == 0x205F || n == 0x3000

def trimStart (cs : List Char) : List Char := cs.dropWhile isBlank

def trimEnd (cs : List Char) : List Char := (cs.reverse.dropWhile isBlank).reverse

/-- without the blanks at both ends -/
def trim (cs : List Char) : List Char := trimEnd (trimStart cs)

/-- nothing but blanks -/
def allBlank (s : String) : Bool := s.toList.all isBlank

/-- a text without the blanks at both ends -/
def trimmed (s : String) : String := String.ofList (trim s.toList)

end AccountStats.Text
