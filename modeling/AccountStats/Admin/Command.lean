import AccountStats.Admin.Help
import AccountStats.Text.Decimal
/-
The command line of the administration tool: which arguments make which command. Options may stand before or behind
other arguments of their command, and at most once; after `--` there are none.
-/
namespace AccountStats.Admin

inductive Command where
  /-- synchronize every stored account once -/
  | refresh (concurrency : Option Nat) (yes : Bool)
  /-- show the statistics of an account -/
  | stats (username : String)
  /-- list the stored accounts -/
  | users
  /-- drop the cached statistics of an account -/
  | purge (username : String)
  /-- check the connection to the database -/
  | checkDatabase
deriving DecidableEq, Repr

/-- what the arguments ask for -/
inductive Invocation where
  | run (command : Command)
  | help (topic : Topic)
  | version
  /-- the arguments make no command -/
  | misuse
deriving DecidableEq, Repr

/-! ## Options of a refresh -/

/-- the options read so far -/
structure RefreshOptions where
  concurrency : Option Nat
  yes : Bool
deriving DecidableEq, Repr

namespace RefreshOptions

def setConcurrency (o : RefreshOptions) (value : List Char) : Option RefreshOptions :=
  match o.concurrency, Text.unsigned? 64 value with
  | none, some n => some { o with concurrency := some n }
  | _, _ => none

def setYes (o : RefreshOptions) : Option RefreshOptions := if o.yes then none else some { o with yes := true }

end RefreshOptions

/-- what an argument to a refresh does -/
inductive RefreshStep where
  | options (o : RefreshOptions)
  /-- the next argument is the value of an option -/
  | awaits (o : RefreshOptions)
  | help
  | misuse

/-- a bundle of one-letter options; a letter that takes a value takes the rest of the bundle -/
def readLetters (o : RefreshOptions) : List Char → RefreshStep
  | [] => .options o
  | 'y' :: rest => match o.setYes with
    | some o => readLetters o rest
    | none => .misuse
  | 'h' :: _ => .help
  | ['c'] => .awaits o
  | 'c' :: '=' :: value | 'c' :: value => match o.setConcurrency value with
    | some o => .options o
    | none => .misuse
  | _ => .misuse

def readRefreshArgument (o : RefreshOptions) (argument : List Char) : RefreshStep :=
  let setYes : RefreshStep := match o.setYes with
    | some o => .options o
    | none => .misuse
  if argument = "--help".toList then .help
  else if argument = "--yes".toList then setYes
  else if argument = "--concurrency".toList then .awaits o
  else match "--concurrency=".toList.isPrefixOf? argument with
    | some value => match o.setConcurrency value with
      | some o => .options o
      | none => .misuse
    | none => match argument with
      | '-' :: '-' :: _ => .misuse
      | '-' :: letter :: letters => readLetters o (letter :: letters)
      | _ => .misuse

/-- the arguments of a refresh -/
def readRefresh (o : RefreshOptions) : List String → Invocation
  | [] => .run (.refresh o.concurrency o.yes)
  | "--" :: [] => .run (.refresh o.concurrency o.yes)
  | argument :: rest => match readRefreshArgument o argument.toList with
    | .options o => readRefresh o rest
    | .help => .help .refresh
    | .misuse => .misuse
    | .awaits o => match rest with
      | [] => .misuse
      | value :: rest =>
        if value.toList.head? = some '-' then .misuse
        else match o.setConcurrency value.toList with
          | some o => readRefresh o rest
          | none => .misuse

/-! ## Other commands -/

/-- whether an argument asks for help; of a bundle of letters the first one counts -/
def asksHelp (argument : String) : Bool := argument == "--help" || "-h".toList.isPrefixOf argument.toList

def asksVersion (argument : String) : Bool := argument == "--version" || "-V".toList.isPrefixOf argument.toList

/-- whether an argument looks like an option -/
def isOption (argument : String) : Bool :=
  match argument.toList with
  | '-' :: _ :: _ => true
  | _ => false

/-- the one argument of a command that takes a name -/
def readName (topic : Topic) (command : String → Command) : List String → Invocation
  | ["--", name] => .run (command name)
  | [name, "--"] =>
    if isOption name then (if asksHelp name then .help topic else .misuse) else .run (command name)
  | [name] => if asksHelp name then .help topic else if isOption name then .misuse else .run (command name)
  | name :: more :: _ => if asksHelp name || (!isOption name && asksHelp more) then .help topic else .misuse
  | [] => .misuse

/-- a command that takes nothing -/
def readNone (topic : Topic) (command : Command) : List String → Invocation
  | [] | ["--"] => .run command
  | argument :: _ => if asksHelp argument then .help topic else .misuse

/-- what names lead to: a command, or a group of commands -/
def topic? : List String → Option Topic
  | [] => some .tool
  | ["refresh"] => some .refresh
  | ["stats"] => some .stats
  | ["users"] => some .users
  | ["cache"] => some .cache
  | ["cache", "purge"] => some .purge
  | ["db"] => some .database
  | ["db", "check"] => some .checkDatabase
  | ["help"] => some (.help none)
  | ["cache", "help"] => some (.help (some "cache"))
  | ["db", "help"] => some (.help (some "db"))
  | _ => none

/-- help with what the names lead to -/
def readTopic (names : List String) : Invocation :=
  match topic? names with
  | some t => .help t
  | none => .misuse

/-- a group of commands that has one member -/
def readGroup (group name : String) (topic : Topic) (member : List String → Invocation) : List String → Invocation
  | argument :: rest =>
    if argument = name then member rest
    else if argument = "help" then readTopic (group :: rest)
    else if asksHelp argument then .help topic
    else .misuse
  | [] => .misuse

/-- what all arguments ask for -/
def readArguments : List String → Invocation
  | "refresh" :: rest => readRefresh ⟨none, false⟩ rest
  | "stats" :: rest => readName .stats .stats rest
  | "users" :: rest => readNone .users .users rest
  | "cache" :: rest => readGroup "cache" "purge" .cache (readName .purge .purge) rest
  | "db" :: rest => readGroup "db" "check" .database (readNone .checkDatabase .checkDatabase) rest
  | "help" :: names => readTopic names
  | argument :: _ => if asksHelp argument then .help .tool else if asksVersion argument then .version else .misuse
  | [] => .misuse

end AccountStats.Admin
