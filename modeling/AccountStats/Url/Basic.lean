/-
URLs, their parts, and what can be wrong with them. User, password, path and query stay as they are written, with their
percent escapes; the path is without `.` and `..`.

Schemes of the web (`http` and its like, and `file`) have rules of their own: a backslash counts as a slash, and the host
is a name or an address. With any other scheme the host is any text.
-/
namespace AccountStats

namespace Url

/-- what is wrong with a URL -/
inductive Fault where
  | noScheme
  | emptyHost
  | domain
  | port
  | ipv4
  | ipv6
  | hostCharacter
deriving DecidableEq, Repr

def Fault.text : Fault → String
  | .noScheme => "relative URL without a base"
  | .emptyHost => "empty host"
  | .domain => "invalid international domain name"
  | .port => "invalid port number"
  | .ipv4 => "invalid IPv4 address"
  | .ipv6 => "invalid IPv6 address"
  | .hostCharacter => "invalid domain character"

inductive Host where
  | name (text : List Char)
  /-- an address of 32 bits -/
  | ipv4 (address : Nat)
  /-- the groups of an address of 128 bits -/
  | ipv6 (groups : List Nat)
deriving DecidableEq, Repr

end Url

structure Url where
  scheme : List Char
  username : List Char
  password : Option (List Char)
  host : Option Url.Host
  port : Option Nat
  path : List Char
  /-- without its question mark -/
  query : List Char
deriving DecidableEq, Repr

namespace Url

inductive Kind where
  /-- a scheme of the web whose URLs have a host -/
  | web
  | file
  | other
deriving DecidableEq, Repr

def kindOf (scheme : List Char) : Kind :=
  if scheme = "file".toList then .file
  else if ["http", "https", "ws", "wss", "ftp"].any (·.toList = scheme) then .web
  else .other

/-- whether a character counts as a slash -/
def Kind.isSlash (k : Kind) (c : Char) : Bool := c == '/' || (c == '\\' && k != .other)

/-- whether a character ends the authority -/
def Kind.isEnd (k : Kind) (c : Char) : Bool := k.isSlash c || c == '?' || c == '#'

/-- the two characters of the name of a drive -/
def isDrive : List Char → Bool
  | [letter, mark] => letter.isAlpha && (mark == ':' || mark == '|')
  | _ => false

end Url

end AccountStats
