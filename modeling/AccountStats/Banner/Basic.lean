import AccountStats.Account.Wire
/-
Banners: descriptors that tell a renderer what to draw, and the event that carries one.
-/
namespace AccountStats

/-- the layouts that the renderer knows -/
inductive Banner.Layout where
  | wide
deriving DecidableEq, Repr

/-- all that the renderer needs to draw and store one banner -/
structure Banner where
  username : String
  layout : Banner.Layout
  storagePath : String
  stats : Stats
  fetchedAt : Time.Instant
deriving DecidableEq, Repr

/-- a request for a banner, as received; the layout is still a text, so that an unknown one can be answered -/
structure Banner.Request where
  username : String
  layout : String
  storagePath : String
deriving DecidableEq, Repr

/-- a banner in its versioned envelope -/
structure Banner.Event where
  eventType : String
  version : UInt32
  producedAt : Time.Instant
  payload : Banner
deriving DecidableEq, Repr

namespace Banner

namespace Layout

def name : Layout → String
  | .wide => "wide"

def ofName? (s : String) : Option Layout := if s = "wide" then some .wide else none

/-- the text for a name that is no layout -/
def unknownMessage (s : String) : String := "unknown banner type '" ++ s ++ "'"

def toJson (l : Layout) : Json := .text l.name

/-- a layout by name, or as an object that gives the name without a value -/
def ofJson? : Json → Option Layout
  | .string (some s) => ofName? s
  | .object [(some s, .null)] => ofName? s
  | _ => none

end Layout

def readyEvent : String := "github_banner_info_ready"

def readyVersion : UInt32 := 1

/-- the envelope around a banner produced at `now` -/
def Event.ofBanner (b : Banner) (now : Time.Instant) : Event := ⟨readyEvent, readyVersion, now, b⟩

/-! ## In JSON -/

def toJson (b : Banner) : Json :=
  .record [
    ("username", .text b.username), ("banner_type", b.layout.toJson), ("storage_path", .text b.storagePath),
    ("stats", b.stats.toJson), ("fetched_at", .ofInstant b.fetchedAt)]

def fieldNames : List String := ["username", "banner_type", "storage_path", "stats", "fetched_at"]

def ofJson? (j : Json) : Option Banner :=
  match j.slots fieldNames with
  | some [username, layout, storagePath, stats, fetchedAt] => do
    return { username := ← username.required Json.string?
             layout := ← layout.required Layout.ofJson?
             storagePath := ← storagePath.required Json.string?
             stats := ← stats.required Stats.ofJson?
             fetchedAt := ← fetchedAt.required Json.instant? }
  | _ => none

namespace Event

def toJson (e : Event) : Json :=
  .record [
    ("event_type", .text e.eventType), ("event_version", .int e.version.toNat),
    ("produced_at", .ofInstant e.producedAt), ("payload", e.payload.toJson)]

def fieldNames : List String := ["event_type", "event_version", "produced_at", "payload"]

def ofJson? (j : Json) : Option Event :=
  match j.slots fieldNames with
  | some [eventType, version, producedAt, payload] => do
    return { eventType := ← eventType.required Json.string?
             version := ← version.required Json.uint32?
             producedAt := ← producedAt.required Json.instant?
             payload := ← payload.required Banner.ofJson? }
  | _ => none

end Event

namespace Request

def fieldNames : List String := ["username", "banner_type", "storage_path"]

def ofJson? (j : Json) : Option Request :=
  match j.slots fieldNames with
  | some [username, layout, storagePath] => do
    return { username := ← username.required Json.string?
             layout := ← layout.required Json.string?
             storagePath := ← storagePath.required Json.string? }
  | _ => none

end Request

end Banner

end AccountStats
