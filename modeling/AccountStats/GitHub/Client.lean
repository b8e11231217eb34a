import AccountStats.GitHub.Calls
import AccountStats.GitHub.Link
import AccountStats.Http.Message
import AccountStats.Json.Reader
/-
GitHub over HTTP: which request each call hands to the HTTP library, and how the response that this returns is read.
The library follows redirects on its own. The response, whatever its status, is also read for what it reports of the
quota.
-/
namespace AccountStats.GitHub

/-- repositories on a page of a listing, the most that GitHub allows -/
def pageSize : Nat := 100

/-- where GitHub is -/
structure Client where
  base : String
deriving DecidableEq, Repr

namespace Client

/-- a base URL counts without the slashes at its end -/
def ofBase (base : String) : Client := ⟨String.ofList (base.toList.reverse.dropWhile (· == '/')).reverse⟩

def userAgent : String := "github-stats/0.1.0"

/-! ## Requests -/

/-- the target of a call, relative to the base URL -/
def rateLimitTarget : String := "/rate_limit"
def userTarget (login : String) : String := "/users/" ++ login
def listingTarget (login : String) (page : UInt32) : String :=
  "/users/" ++ login ++ "/repos?type=owner&sort=updated&per_page=" ++ toString pageSize ++ "&page=" ++
    toString page.toNat

/-- the request for a target on behalf of a token; a token that no header can hold makes none -/
def request? (c : Client) (token target : String) : Option Http.Get :=
  let authorization := "Bearer " ++ token
  if Http.isHeaderValue authorization then
    some ⟨c.base ++ target, [("accept", "application/vnd.github+json"), ("authorization", authorization),
      ("user-agent", userAgent), ("x-github-api-version", "2022-11-28")]⟩
  else none

/-! ## Responses -/

/-- what is said of a body that is not what was expected, or is not all there -/
def undecodable : String := "error decoding response body"

/-- the page that a response names as the next one -/
def nextPage? (hs : Http.Headers) : Option UInt32 := do
  Link.nextPage? (String.ofList (← Http.headerText? (← Http.header? "link" hs)))

/-- what an outcome means for a call whose body is read in the given way -/
def read (body? : Json → Option α) : Http.Outcome → Except CallError (Response α)
  | .timeout => .error .timeout
  | .failed message => .error (.transport message)
  | .response status headers body =>
    let report := QuotaReport.ofHeaders headers
    if status = 404 then .error (.notFound report)
    else if status < 200 ∨ 300 ≤ status then .error (.status status report)
    else match body with
      | .late => .error .timeout
      | .cut => .error (.malformed undecodable report)
      | .whole bytes => match Json.readBytes bytes >>= body? with
        | some b => .ok ⟨b, report, nextPage? headers⟩
        | none => .error (.malformed undecodable report)

/-- the quota in a response; its window must end within the calendar -/
def quotaOf (r : Response (UInt32 × Int64)) : Except CallError Quota :=
  let (remaining, reset) := r.body
  match Time.Instant.ofSeconds? reset.toInt with
  | some resetAt => .ok ⟨remaining, resetAt⟩
  | none => .error (.malformed ("reset timestamp " ++ toString reset.toInt ++ " out of range") r.report)

end Client

/-! ## Calls over HTTP -/

/-- the requests of programs whose calls to GitHub go over HTTP -/
inductive Wired where
  /-- a request over HTTP -/
  | get (request : Http.Get)
  /-- the same for a probe, which is given up when it takes too long -/
  | probe (request : Http.Get)
  /-- all that is no call to GitHub -/
  | other (r : Ask)
deriving DecidableEq

abbrev Wired.Reply : Wired → Type
  | .get _ => Http.Outcome
  | .probe _ => Option Http.Outcome
  | .other r => r.Reply

abbrev WiredCalls : Interface := ⟨Wired, Wired.Reply⟩

namespace Client

/-- what is said of a request that could not be made -/
def unmade : String := "builder error"

/-- one call: the request for a target, and the response to it -/
def call (c : Client) (token target : String) (body? : Json → Option α) :
    Program WiredCalls (Except CallError (Response α)) :=
  match c.request? token target with
  | none => return .error (.transport unmade)
  | some r => Program.ask (Wired.get r) fun outcome => return read body? outcome

/-- the quota of a token -/
def probe (c : Client) (token : String) : Program WiredCalls (Except ProbeError Quota) :=
  match c.request? token rateLimitTarget with
  | none => return .error (.failed (.transport unmade))
  | some r => Program.ask (Wired.probe r) fun
    | none => return .error .timedOut
    | some outcome => return (read coreQuota? outcome >>= quotaOf).mapError .failed

/-- a request answered over HTTP, if it is a call to GitHub -/
def answer (c : Client) : (r : Ask) → Program WiredCalls r.Reply
  | .probe token => c.probe token
  | .getUser token login => c.call token (userTarget login) User.ofJson?
  | .listRepositories token login page => c.call token (listingTarget login page) (Json.list? ListedRepository.ofJson?)
  | .now => Program.ask (Wired.other .now) Program.done
  | .check i => Program.ask (Wired.other (.check i)) Program.done
  | .install i fresh => Program.ask (Wired.other (.install i fresh)) Program.done
  | .record i report => Program.ask (Wired.other (.record i report)) Program.done
  | .note n => Program.ask (Wired.other (.note n)) Program.done

/-- a program with its calls to GitHub made over HTTP -/
def overHttp (c : Client) (p : Program Calls α) : Program WiredCalls α := p.through c.answer

end Client

end AccountStats.GitHub
