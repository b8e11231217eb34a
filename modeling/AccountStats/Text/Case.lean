/-
Texts that differ in the case of ASCII letters only.
-/
namespace AccountStats.Text

/-- ASCII letters in lower case, all else as it is -/
def lowered (s : String) : String := String.ofList (s.toList.map Char.toLower)

end AccountStats.Text
