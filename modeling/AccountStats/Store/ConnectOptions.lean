import AccountStats.Store.Failure
import AccountStats.Text.Case
import AccountStats.Text.Decimal
import AccountStats.Url.Query
import AccountStats.Url.Reader
/-
What is needed to connect to a database, and its URL. User, password and database come from the URL's own parts; the
parameters of its query are taken in order and win over them. The first thing wrong counts.
-/
namespace AccountStats.Store

/-- where a database listens -/
inductive Server where
  | host (host : Url.Host)
  /-- in the file system -/
  | socket (path : String)
deriving DecidableEq, Repr

/-- a host by its address or its name; brackets around it mean nothing -/
def Server.ofText (cs : List Char) : Server :=
  let isBracket (c : Char) : Bool := c == '[' || c == ']'
  let inner := ((cs.dropWhile isBracket).reverse.dropWhile isBracket).reverse
  match Url.dottedQuad? inner, Url.ipv6? inner with
  | some address, _ => .host (.ipv4 address)
  | none, some groups => .host (.ipv6 groups)
  | none, none => .host (.name inner)

/-- how a connection is encrypted, and what of the server is verified -/
inductive Encryption where
  | disable
  | allow
  | prefer
  | require
  | verifyAuthority
  | verifyFull
deriving DecidableEq, Repr

def Encryption.parse? (s : String) : Option Encryption :=
  match Text.lowered s with
  | "disable" => some .disable
  | "allow" => some .allow
  | "prefer" => some .prefer
  | "require" => some .require
  | "verify-ca" => some .verifyAuthority
  | "verify-full" => some .verifyFull
  | _ => none

structure ConnectOptions where
  server : Server
  port : Nat
  username : Option String
  password : Option String
  database : Option String
  encryption : Encryption
  /-- how many prepared statements a connection keeps -/
  statementCache : Nat
deriving DecidableEq, Repr

namespace ConnectOptions

def default : ConnectOptions := ⟨.host (.name "localhost".toList), 5432, none, none, none, .prefer, 100⟩

/-- a part of a URL as the text that its escapes stand for -/
def decoded (cs : List Char) : Except DbError String :=
  (Text.readUtf8 (Text.percentDecoded cs)).mapError fun f => .configuration f.text

/-- a part of a URL, if there is one -/
def decoded? (cs : List Char) : Except DbError (Option String) := if cs = [] then .ok none else some <$> decoded cs

/-- where a host is; one that begins with a slash is a path -/
def serverOf : Url.Host → Except DbError Server
  | .name cs =>
    if (Text.percentDecoded cs)[0]? = some 0x2F then .socket <$> decoded cs else .ok (.ofText cs)
  | host => .ok (.host host)

def number (bits : Nat) (value : String) : Except DbError Nat :=
  (Text.readUnsigned bits value.toList).mapError fun f => .configuration f.text

/-- sets what a parameter is about; one of an unknown name is left out -/
def set (o : ConnectOptions) (key value : String) : Except DbError ConnectOptions :=
  match key with
  | "sslmode" | "ssl-mode" => match Encryption.parse? value with
    | some encryption => .ok { o with encryption }
    | none => .error (.misconfigured (.configuration ("unknown value " ++ Text.quoted value ++ " for `ssl_mode`")))
  | "statement-cache-capacity" => do return { o with statementCache := ← number 64 value }
  | "host" => .ok { o with server := if value.startsWith "/" then .socket value else .ofText value.toList }
  | "hostaddr" =>
    if Url.isAddress value.toList then .ok { o with server := .ofText value.toList }
    else .error (.configuration "invalid IP address syntax")
  | "port" => do return { o with port := ← number 16 value }
  | "dbname" => .ok { o with database := some value }
  | "user" => .ok { o with username := some value }
  | "password" => .ok { o with password := some value }
  | _ => .ok o

/-- the options that the parts of a URL give -/
def ofParts (url : Url) : Except DbError ConnectOptions := do
  let server ← match url.host with
    | some host => serverOf host
    | none => pure default.server
  let username ← decoded? url.username
  let password ← decoded? (url.password.getD [])
  let database ← decoded? (url.path.dropWhile (· = '/'))
  return { default with server, port := url.port.getD default.port, username, password, database }

def ofUrl (url : Url) : Except DbError ConnectOptions := do
  (Url.parameters url.query).foldlM (fun o (key, value) => o.set key value) (← ofParts url)

/-- the options that the text of a URL gives -/
def parse (s : String) : Except DbError ConnectOptions :=
  match Url.parse s with
  | .ok url => ofUrl url
  | .error f => .error (.configuration f.text)

end ConnectOptions

end AccountStats.Store
