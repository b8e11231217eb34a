/-
Logins that an account can have: ASCII letters and digits, single hyphens between them, 1 to 39 characters.

`isLogin` is the test; `Login.Spelled` is the grammar.
-/
namespace AccountStats.GitHub

def maxLoginLength : Nat := 39

/-- whether two hyphens stand side by side -/
def hasDoubleHyphen : List Char → Bool
  | '-' :: '-' :: _ => true
  | _ :: cs => hasDoubleHyphen cs
  | [] => false

/-- whether a text can be a login at all -/
def isLogin (username : String) : Bool :=
  let cs := username.toList
  cs ≠ [] && username.utf8ByteSize ≤ maxLoginLength && cs.head? != some '-' && cs.getLast? != some '-' &&
    !hasDoubleHyphen cs && cs.all fun c => c.isAlphanum || c == '-'

/-- a letter or digit, then any number of letters and digits, each with at most one hyphen before it -/
inductive Login.Spelled : List Char → Prop where
  | single {c : Char} : c.isAlphanum = true → Spelled [c]
  | snoc {cs : List Char} {c : Char} : Spelled cs → c.isAlphanum = true → Spelled (cs ++ [c])
  | hyphen {cs : List Char} {c : Char} : Spelled cs → c.isAlphanum = true → Spelled (cs ++ ['-', c])

end AccountStats.GitHub
