import AccountStats.Admin.Run
import AccountStats.Startup.Service
import AccountStats.Store.ConnectOptions
/-
Surroundings without a network: no server can be reached, and nobody is at the terminal. What is printed and noted is
kept.
-/
namespace AccountStats.Scenario

structure Terminal where
  lines : List String
  journal : Journal

namespace Terminal

def blank : Terminal := ⟨[], []⟩

def print (t : Terminal) (line : String) : Terminal := { t with lines := t.lines ++ [line] }

def note (t : Terminal) (n : Note) : Terminal := { t with journal := t.journal ++ [n] }

/-- all that was printed -/
def output (t : Terminal) : String := "\n".intercalate t.lines

end Terminal

namespace Offline

/-- the failure of everything that needs a network -/
def failure : Store.SystemError := .networkUnreachable

/-- whether a host is known without asking for its address: one that is given by address, and this one -/
def isKnown : Url.Host → Bool
  | .name cs => cs.map Char.toLower == "localhost".toList
  | .ipv4 _ | .ipv6 _ => true

/-- what comes of connecting to a database -/
def reach : Store.Server → Store.DbError
  | .socket _ => .system .notFound
  | .host host =>
    if isKnown host then .system failure
    else .io "failed to lookup address information: Temporary failure in name resolution"

def database (url : String) : Except Store.DbError Unit := do throw (reach (← Store.ConnectOptions.parse url).server)

def store (r : Store.Ask) : r.Reply :=
  match r with
  | .begin | .commit | .rollback => .error (.system failure)
  | .execute _ => .error (.system failure)
  | .query _ => .error (.system failure)
  | .abandon | .pause _ => ()

def redis (r : Redis.Ask) (t : Terminal) : r.Reply × Terminal :=
  match r with
  | .check _ => (.ok (), t)
  | .connect _ | .ping | .setex _ _ _ => (.error failure.message, t)
  | .get _ => (.error failure.message, t)
  | .del _ | .publish _ _ => (.error failure.message, t)
  | .note n => ((), t.note n)

/-- what comes of a request -/
def unsent (r : Http.Get) : Http.Outcome := .failed ("error sending request for url (" ++ r.url ++ ")")

/-- requests that need no network; a pool is empty, as no token could be probed -/
def localGitHub (now : Time.Instant) (r : GitHub.Ask) (t : Terminal) : r.Reply × Terminal :=
  match r with
  | .now => (now, t)
  | .check _ => (.skip, t)
  | .install _ _ => (false, t)
  | .record _ _ => ((), t)
  | .probe _ => (.error .timedOut, t)
  | .getUser _ _ => (.error .timeout, t)
  | .listRepositories _ _ _ => (.error .timeout, t)
  | .note n => ((), t.note n)

def gitHub (now : Time.Instant) (r : GitHub.Wired) (t : Terminal) : r.Reply × Terminal :=
  match r with
  | .get request => (unsent request, t)
  | .probe request => (some (unsent request), t)
  | .other r => localGitHub now r t

def startup (now : Time.Instant) (r : Startup.Ask) (t : Terminal) : r.Reply × Terminal :=
  match r with
  | .connectDatabase url => (database url, t)
  | .migrate => (.error (.system failure), t)
  | .redis r => redis r t
  | .gitHub r => gitHub now r t
  | .pause _ => ((), t)
  | .checkAddress _ => (.ok (), t)
  | .listen _ | .serve => (.error failure.message, t)
  | .note n => ((), t.note n)

def sync (now : Time.Instant) (r : Sync.Ask) (t : Terminal) : r.Reply × Terminal :=
  match r with
  | .now => (now, t)
  | .cacheGet _ => (.ok none, t)
  | .cacheSet _ _ _ => (.ok (), t)
  | .cacheDelete _ => (.ok (), t)
  | .readStored _ => (.error (Store.DbError.toFailure (.system failure)), t)
  | .save _ => (.error (Store.DbError.toFailure (.system failure)), t)
  | .fetch u => (.error (Failure.noQuotaLeft u), t)
  | .startRefresh _ => (false, t)
  | .endRefresh => ((), t)
  | .publish _ => (.ok (), t)
  | .note n => ((), t.note n)

def admin (now : Time.Instant) (r : Admin.Ask) (t : Terminal) : r.Reply × Terminal :=
  match r with
  | .startup r => startup now r t
  | .store r => (store r, t)
  | .sync r => sync now r t
  | .cache r => redis r t
  | .sweep _ => (⟨[], false⟩, t)
  | .print line => ((), t.print line)
  | .confirm _ => (.error "not a terminal", t)

end Offline

end AccountStats.Scenario
