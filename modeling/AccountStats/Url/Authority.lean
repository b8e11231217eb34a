import AccountStats.Url.Address
import AccountStats.Url.Basic
import AccountStats.Url.Domain
/-
The part of a URL between its scheme and its path: a user, a host and a port.
-/
namespace AccountStats.Url

open AccountStats.Text

/-! ## Hosts -/

/-- characters that no host has, whatever the scheme -/
def refusedInHost : List Char :=
  ['\x00', '\t', '\n', '\r', ' ', '#', '/', ':', '<', '>', '?', '@', '[', '\\', ']', '^', '|']

/-- an address in brackets, from what follows the first of them -/
def bracketed (cs : List Char) : Except Fault Host :=
  match cs.reverse with
  | ']' :: inner => match ipv6? inner.reverse with
    | some groups => .ok (.ipv6 groups)
    | none => .error .ipv6
  | _ => .error .ipv6

/-- a host of any text -/
def anyHost : List Char → Except Fault Host
  | '[' :: cs => bracketed cs
  | cs => if cs.any refusedInHost.contains then .error .hostCharacter else .ok (.name cs)

/-- the host of a URL of the web: an address, or a name -/
def webHost : List Char → Except Fault Host
  | '[' :: cs => bracketed cs
  | cs => match Domain.ofBytes? (percentDecoded cs) with
    | none => .error .domain
    | some [] => .error .emptyHost
    | some name =>
      if endsInNumber name then
        match ipv4? name with
        | some address => .ok (.ipv4 address)
        | none => .error .ipv4
      else .ok (.name name)

/-- the host up to its end, and the rest; a colon in brackets does not end it -/
def splitHost (k : Kind) (inBrackets : Bool) : List Char → List Char × List Char
  | [] => ([], [])
  | c :: cs =>
    if k.isEnd c || (c == ':' && !inBrackets) then ([], c :: cs)
    else
      let inBrackets := c == '[' || (inBrackets && c != ']')
      let (host, rest) := splitHost k inBrackets cs
      (c :: host, rest)

/-- a port of 16 bits, if there are digits, and the rest; slashes of both kinds end it -/
def readPort (n : Option Nat) : List Char → Except Fault (Option Nat × List Char)
  | [] => .ok (n, [])
  | c :: cs =>
    if c.isDigit then
      let n := 10 * n.getD 0 + (c.toNat - '0'.toNat)
      if n < 65536 then readPort (some n) cs else .error .port
    else if Kind.web.isEnd c then .ok (n, c :: cs)
    else .error .port

/-! ## Authority -/

/-- what stands before the host -/
structure User where
  name : List Char
  password : Option (List Char)
deriving DecidableEq, Repr

def User.nobody : User := ⟨[], none⟩

/-- a name, and a password behind the first colon if there is one -/
def User.ofText (cs : List Char) : User :=
  match splitOnce ':' cs with
  | none => ⟨cs, none⟩
  | some (name, []) => ⟨name, none⟩
  | some (name, password) => ⟨name, some password⟩

/-- the user, and what follows the sign behind it; without a user, the sign must not be all of the authority -/
def splitUser (k : Kind) (cs : List Char) : Except Fault (User × List Char) :=
  let authority := cs.takeWhile fun c => !k.isEnd c
  let rest := cs.dropWhile fun c => !k.isEnd c
  match splitLast '@' authority with
  | none => .ok (.nobody, cs)
  | some ([], []) => if rest = [] then .ok (.nobody, []) else .error .emptyHost
  | some (user, host) => .ok (.ofText user, host ++ rest)

/-- the port that a scheme has if none is given -/
def defaultPort? (scheme : List Char) : Option Nat :=
  if scheme = "http".toList ∨ scheme = "ws".toList then some 80
  else if scheme = "https".toList ∨ scheme = "wss".toList then some 443
  else if scheme = "ftp".toList then some 21
  else none

structure Authority where
  user : User
  host : Option Host
  port : Option Nat
deriving DecidableEq, Repr

def Authority.empty : Authority := ⟨.nobody, none, none⟩

/-- the authority of a URL that is not one of a file, and what follows it -/
def readAuthority (scheme cs : List Char) : Except Fault (Authority × List Char) := do
  let k := kindOf scheme
  let (user, cs) ← splitUser k cs
  let (host, cs) := splitHost k false cs
  let host ← if k = .other then anyHost host else if host = [] then throw .emptyHost else webHost host
  if host = .name [] ∧ cs.head? = some ':' then throw .emptyHost
  let (port, cs) ← match cs with
    | ':' :: cs => readPort none cs
    | cs => pure (none, cs)
  if host = .name [] ∧ user ≠ .nobody then throw .emptyHost
  return (⟨user, if host = .name [] then none else some host,
    port.filter fun n => some n ≠ defaultPort? scheme⟩, cs)

/-- the authority of the URL of a file: a host that is not this one -/
def readFileHost (cs : List Char) : Except Fault (Authority × List Char) :=
  let text := cs.takeWhile fun c => !Kind.file.isEnd c
  let rest := cs.dropWhile fun c => !Kind.file.isEnd c
  if isDrive text then .ok (.empty, cs)
  else if text = [] then .ok (.empty, rest)
  else do
    let host ← webHost text
    return (⟨.nobody, if host = .name "localhost".toList then none else some host, none⟩, rest)

end AccountStats.Url
