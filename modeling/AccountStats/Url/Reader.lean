import AccountStats.Url.Authority
import AccountStats.Url.Path
/-
The text of a URL. Blanks and control characters around it do not count, and neither do tabs and line ends in it.
-/
namespace AccountStats.Url

open AccountStats.Text

/-- the scheme in lower case, and what follows its colon -/
def splitScheme : List Char → Option (List Char × List Char)
  | [] => none
  | c :: cs =>
    let isPart (c : Char) : Bool := c.isAlphanum || c == '+' || c == '-' || c == '.'
    if c.isAlpha then
      match cs.dropWhile isPart with
      | ':' :: rest => some ((c :: cs.takeWhile isPart).map Char.toLower, rest)
      | _ => none
    else none

/-- the text without control characters and blanks at its ends, and without tabs and line ends anywhere -/
def bare (cs : List Char) : List Char :=
  let isEdge (c : Char) : Bool := c.toNat ≤ 0x20
  let inner := ((cs.dropWhile isEdge).reverse.dropWhile isEdge).reverse
  inner.filter fun c => c != '\t' && c != '\n' && c != '\r'

/-- path and query of what follows the authority -/
def splitTarget (cs : List Char) : List Char × List Char :=
  let cs := cs.takeWhile (· ≠ '#')
  (cs.takeWhile (· ≠ '?'), (cs.dropWhile (· ≠ '?')).drop 1)

/-- the URL whose target follows the authority -/
def ofTarget (scheme : List Char) (a : Authority) (cs : List Char) : Url :=
  let k := kindOf scheme
  let (path, query) := splitTarget cs
  let path := match path with
    | [] => if k = .other then [] else ['/']
    | c :: rest => if k.isSlash c then pathOf k rest else pathOf k (c :: rest)
  ⟨scheme, a.user.name, a.user.password, a.host, a.port, path, query⟩

/-- a URL from what follows its scheme -/
def ofScheme (scheme cs : List Char) : Except Fault Url :=
  match kindOf scheme, cs with
  | .web, cs => do
    let (a, cs) ← readAuthority scheme (cs.dropWhile Kind.web.isSlash)
    return ofTarget scheme a cs
  | .other, '/' :: '/' :: cs => do
    let (a, cs) ← readAuthority scheme cs
    return ofTarget scheme a cs
  | .other, '/' :: cs => .ok (ofTarget scheme .empty ('/' :: cs))
  | .other, cs =>
    let (path, query) := splitTarget cs
    .ok ⟨scheme, [], none, none, none, path, query⟩
  | .file, a :: b :: cs =>
    if Kind.file.isSlash a && Kind.file.isSlash b then do
      let (a, cs) ← readFileHost cs
      return ofTarget scheme a cs
    else .ok (ofTarget scheme .empty (a :: b :: cs))
  | .file, cs => .ok (ofTarget scheme .empty cs)

def parse (s : String) : Except Fault Url :=
  match splitScheme (bare s.toList) with
  | none => .error .noScheme
  | some (scheme, rest) => ofScheme scheme rest

end AccountStats.Url
