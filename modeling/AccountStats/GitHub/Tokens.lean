import AccountStats.Text.Blank
import AccountStats.Text.Split
/-
Lists of access tokens: tokens between commas, with blanks around them or without.
-/
namespace AccountStats.GitHub

/-- the tokens that are not blank, without the blanks around them -/
def usableTokens (tokens : List String) : List String := (tokens.map Text.trimmed).filter (· ≠ "")

/-- the tokens of a comma-separated list -/
def tokensOf (list : String) : List String := usableTokens ((Text.splitOn ',' list.toList).map String.ofList)

end AccountStats.GitHub
