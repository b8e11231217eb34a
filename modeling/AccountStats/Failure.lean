import AccountStats.Json.Writer
/-
Failures that cross a boundary of the service: a kind, a message and structured details.

A failure of kind `internal` keeps its details for the log: its text shows them, and its response body does not.
-/
namespace AccountStats

inductive Failure.Kind where
  /-- the request itself is malformed -/
  | badRequest
  /-- the account does not exist -/
  | notFound
  /-- an external system failed; trying later may help -/
  | unavailable
  /-- a uniqueness constraint refused a write -/
  | conflict
  /-- a write found nothing to change -/
  | nothingChanged
  /-- a read found nothing -/
  | nothingFound
  /-- an unexpected failure of the store -/
  | internal
deriving DecidableEq, Repr

structure Failure where
  kind : Failure.Kind
  message : String
  details : Json
deriving Repr

namespace Failure

/-- the code that answers carry -/
def Kind.code : Kind → String
  | .badRequest => "bad_request"
  | .notFound => "not_found"
  | .unavailable => "unavailable"
  | .conflict => "conflict"
  | .nothingChanged => "nothing_changed"
  | .nothingFound => "nothing_found"
  | .internal => "internal_error"

/-- the HTTP status that an answer carries -/
def Kind.status : Kind → Nat
  | .badRequest => 400
  | .notFound | .nothingFound => 404
  | .unavailable => 503
  | .conflict | .nothingChanged => 409
  | .internal => 500

/-- details with their members sorted, as they are shown everywhere -/
def shownDetails (f : Failure) : Json := f.details.sorted

/-- the text of a failure: its message, and for an internal one its details unless there are none -/
def text (f : Failure) : String :=
  match f.kind, f.details with
  | .internal, .null => f.message
  | .internal, _ => f.message ++ ": " ++ f.shownDetails.render
  | _, _ => f.message

/-- the details that leave the service -/
def publicDetails (f : Failure) : Json :=
  match f.kind with
  | .internal => .record []
  | _ => f.shownDetails

/-- the body of an error response -/
def body (f : Failure) : Json :=
  .record [("error", .record [("code", .text f.kind.code), ("message", .text f.message), ("details", f.publicDetails)])]

/-! ## The failures that the service itself raises -/

/-- details with texts only -/
def fields (members : List (String × String)) : Json := .record (members.map fun (k, v) => (k, .text v))

/-- no account of that name, or no name that an account could have -/
def accountNotFound (username : String) : Failure :=
  ⟨.notFound, "GitHub account not found", fields [("username", username)]⟩

def noQuotaLeft (username : String) : Failure :=
  ⟨.unavailable, "No GitHub credential has quota left", fields [("username", username)]⟩

def gitHubUnavailable (username reason : String) : Failure :=
  ⟨.unavailable, "GitHub API unavailable", fields [("username", username), ("reason", reason)]⟩

def bannerNotPublished (username : String) : Failure :=
  ⟨.unavailable, "Banner event could not be published", fields [("username", username)]⟩

def newerSnapshotStored (username fetchedAt : String) : Failure :=
  ⟨.nothingChanged, "A newer snapshot is already stored", fields [("username", username), ("fetched_at", fetchedAt)]⟩

def accountNotStored (username : String) : Failure :=
  ⟨.nothingFound, "Account not stored", fields [("username", username)]⟩

def invalidLogin (value : String) : Failure :=
  ⟨.badRequest, "Invalid GitHub login", fields [("field", "username"), ("value", value)]⟩

def unknownBanner (message value : String) : Failure :=
  ⟨.badRequest, message, fields [("field", "banner_type"), ("value", value)]⟩

def emptyStoragePath : Failure :=
  ⟨.badRequest, "storage_path must not be empty", fields [("field", "storage_path")]⟩

end Failure

end AccountStats
