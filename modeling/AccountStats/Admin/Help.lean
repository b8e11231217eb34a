/-
The help of the administration tool: one page for the tool, for each command and for each group of commands.
-/
namespace AccountStats.Admin

/-- what a page of help is about -/
inductive Topic where
  | tool
  | refresh
  | stats
  | users
  | cache
  | purge
  | database
  | checkDatabase
  /-- the command `help` of the tool, or of one of its groups -/
  | help (group : Option String)
deriving DecidableEq, Repr

/-- a page of help: what a command does, how it is called, and lists of what may stand on its command line -/
structure Page where
  about : String
  /-- the call, without the name of the tool -/
  usage : String
  /-- headed lists of items, each with its explanation -/
  lists : List (String × List (String × String))
deriving DecidableEq, Repr

namespace Page

/-- a headed list; the explanations begin in one column -/
def listLines (title : String) (items : List (String × String)) : List String :=
  let width := items.foldl (fun n (item, _) => max n item.length) 0
  let line := fun ((item, explanation) : String × String) =>
    "  " ++ item ++ String.ofList (List.replicate (width - item.length) ' ') ++ "  " ++ explanation
  "" :: (title ++ ":") :: items.map line

def lines (p : Page) : List String :=
  p.about :: "" :: ("Usage: admin" ++ p.usage) :: p.lists.flatMap fun (title, items) => listLines title items

end Page

namespace Topic

def helpOption : String × String := ("-h, --help", "Print help")

/-- the item of the command `help` in a list of commands -/
def helpCommand : String × String := ("help", "Print this message or the help of the given subcommand(s)")

/-- the page of a command that takes the name of an account -/
def ofAccount (about usage : String) : Page :=
  ⟨about, usage, [("Arguments", [("<USERNAME>", "GitHub login")]), ("Options", [helpOption])]⟩

/-- the page of a group of commands -/
def ofGroup (about usage : String) (commands : List (String × String)) : Page :=
  ⟨about, usage, [("Commands", commands ++ [helpCommand]), ("Options", [helpOption])]⟩

def page : Topic → Page
  | .tool =>
    ⟨"GitHub account statistics service with a rate-limited token pool, two-tier caching and PostgreSQL reconciliation",
      " <COMMAND>",
      [("Commands", [("refresh", "Re-sync every stored account from GitHub once"),
          ("stats", "Show aggregate statistics for one account"), ("users", "List stored accounts"),
          ("cache", "Stats cache operations"), ("db", "Database operations"), helpCommand]),
        ("Options", [helpOption, ("-V, --version", "Print version")])]⟩
  | .refresh =>
    ⟨"Re-sync every stored account from GitHub once", " refresh [OPTIONS]",
      [("Options", [("-c, --concurrency <CONCURRENCY>",
          "Number of accounts synced in parallel (default: REFRESH_CONCURRENCY)"),
        ("-y, --yes", "Skip confirmation prompt"), helpOption])]⟩
  | .stats => ofAccount "Show aggregate statistics for one account" " stats <USERNAME>"
  | .users => ⟨"List stored accounts", " users", [("Options", [helpOption])]⟩
  | .cache => ofGroup "Stats cache operations" " cache <COMMAND>"
      [("purge", "Evict the cached stats of one account")]
  | .purge => ofAccount "Evict the cached stats of one account" " cache purge <USERNAME>"
  | .database => ofGroup "Database operations" " db <COMMAND>" [("check", "Check database connection")]
  | .checkDatabase => ⟨"Check database connection", " db check", [("Options", [helpOption])]⟩
  | .help group =>
    ⟨helpCommand.2, (match group with | some name => " " ++ name | none => "") ++ " help [COMMAND]...",
      [("Arguments", [("[COMMAND]...", "Print help for the subcommand(s)")])]⟩

def lines (t : Topic) : List String := t.page.lines

end Topic

end AccountStats.Admin
