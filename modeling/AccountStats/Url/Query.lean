import AccountStats.Text.Percent
import AccountStats.Text.Split
/-
The query of a URL as parameters. A plus sign stands for a blank; bytes that are no text are mended.
-/
namespace AccountStats.Url

open AccountStats.Text

/-- a key or a value as it is meant -/
def formDecoded (cs : List Char) : String := mended (percentDecoded (cs.map fun c => if c = '+' then ' ' else c))

/-- a parameter; without an equals sign its value is empty -/
def parameterOf (cs : List Char) : String × String :=
  match splitOnce '=' cs with
  | some (key, value) => (formDecoded key, formDecoded value)
  | none => (formDecoded cs, "")

/-- the parameters of a query, in order -/
def parameters (query : List Char) : List (String × String) :=
  ((splitOn '&' query).filter (· ≠ [])).map parameterOf

end AccountStats.Url
