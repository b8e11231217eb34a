import AccountStats.Text.Blank
import AccountStats.Text.Decimal
import AccountStats.Text.Split
/-
The `Link` header of a listing, which names the next page. Entries are separated by commas and look like
`<url>; rel="next"`.
-/
namespace AccountStats.GitHub.Link

open AccountStats.Text

/-- the value of the first parameter called `page` in the query of a URL -/
def pageOf? (url : List Char) : Option UInt32 := do
  let (_, query) ← splitOnce '?' url
  let pairs := (splitOn '&' query).filterMap (splitOnce '=')
  let (_, value) ← pairs.find? fun p => p.1 = ['p', 'a', 'g', 'e']
  let n ← unsigned? 32 value
  return UInt32.ofNat n

/-- what the segments of one entry say -/
structure Entry where
  url : Option (List Char)
  isNext : Bool
deriving DecidableEq, Repr

/-- the text without the quotes at both ends -/
def unquoted (cs : List Char) : List Char :=
  ((cs.dropWhile (· = '"')).reverse.dropWhile (· = '"')).reverse

/-- the text between angle brackets -/
def bracketed? : List Char → Option (List Char)
  | '<' :: cs => match cs.reverse with
    | '>' :: inner => some inner.reverse
    | _ => none
  | _ => none

/-- one more segment read: a URL, a relation, or something else -/
def Entry.read (e : Entry) (segment : List Char) : Entry :=
  let segment := trim segment
  match bracketed? segment with
  | some url => { e with url := some url }
  | none => match ['r', 'e', 'l', '='].isPrefixOf? segment with
    | some rel => { e with isNext := unquoted rel = ['n', 'e', 'x', 't'] }
    | none => e

def Entry.ofPart (part : List Char) : Entry := (splitOn ';' part).foldl Entry.read ⟨none, false⟩

/-- the URL of the first entry that has one and is called `next` -/
def nextUrl? : List Entry → Option (List Char)
  | [] => none
  | ⟨some url, true⟩ :: _ => some url
  | _ :: es => nextUrl? es

/-- the page that the header names as the next one -/
def nextPage? (header : String) : Option UInt32 :=
  nextUrl? ((splitOn ',' header.toList).map Entry.ofPart) >>= pageOf?

/-! ## Writing -/

/-- one entry as the header shows it -/
def writeEntry (url rel : String) : List Char :=
  '<' :: url.toList ++ '>' :: ';' :: ' ' :: 'r' :: 'e' :: 'l' :: '=' :: '"' :: rel.toList ++ ['"']

/-- a header of such entries -/
def write (entries : List (String × String)) : String :=
  String.ofList (join [',', ' '] (entries.map fun (url, rel) => writeEntry url rel))

end AccountStats.GitHub.Link
