import AccountStats.Text.Mark
import AccountStats.Text.Unprintable
/-
Characters that leave no mark of their own on a line: those that are not printed, marks that extend the character before
them, and letters that only fill the place of one.
-/
namespace AccountStats.Text

/-- the letters that display may leave out (Unicode property Default_Ignorable_Code_Point): fillers of Hangul syllables -/
def fillers : List Char := ['\u115f', '\u1160', '\u3164', '\uffa0']

def isInvisible (c : Char) : Bool := isUnprintable c || isExtending c || fillers.contains c

end AccountStats.Text
