import AccountStats.Json.Basic
import AccountStats.Time.Rfc3339
/-
Values of fixed shape in JSON.

A record stands as an object whose members are its fields, in any order, or as an array of its fields in their own
order. In an object, members that are no field are passed over, a field may not be repeated, and every name must be a
text. In an array, fields at the end may be missing if they have a default. A field that may be nothing can be left out
of an object, but not out of an array.
-/
namespace AccountStats.Json

/-- what a record holds for one of its fields -/
inductive Slot where
  | given (j : Json)
  /-- the object has no such member -/
  | absent
  /-- the array ends before it -/
  | short
deriving Repr

/-- the member of that name; `none` if it is repeated -/
def memberSlot (members : List (Option String × Json)) (name : String) : Option Slot :=
  match members.filter fun m => m.1 == some name with
  | [] => some .absent
  | [(_, v)] => some (.given v)
  | _ => none

/-- items by position, for as many fields as there are; `none` if there are more items than fields -/
def itemSlots : List Json → List String → Option (List Slot)
  | [], names => some (names.map fun _ => .short)
  | _ :: _, [] => none
  | x :: xs, _ :: names => (itemSlots xs names).map (.given x :: ·)

/-- what a value holds for the named fields, if it is a record at all -/
def slots (names : List String) : Json → Option (List Slot)
  | .object members =>
    if members.all fun m => m.1.isSome then names.mapM (memberSlot members) else none
  | .array items => itemSlots items names
  | _ => none

/-! ## Fields -/

/-- a field that must be there -/
def Slot.required (read : Json → Option α) : Slot → Option α
  | .given j => read j
  | _ => none

/-- a field that may be nothing -/
def Slot.optional (read : Json → Option α) : Slot → Option (Option α)
  | .given .null => some none
  | .given j => (read j).map some
  | .absent => some none
  | .short => none

/-- a field with a default -/
def Slot.orElse (read : Json → Option α) (default : α) : Slot → Option α
  | .given j => read j
  | _ => some default

/-! ## Plain values -/

def string? : Json → Option String
  | .string s => s
  | _ => none

def bool? : Json → Option Bool
  | .bool b => some b
  | _ => none

/-- a whole number within bounds -/
def within? (low high : Int) : Json → Option Int
  | .number (.int n) => if low ≤ n ∧ n ≤ high then some n else none
  | _ => none

def int64? (j : Json) : Option Int64 := (j.within? Int64.minValue.toInt Int64.maxValue.toInt).map Int64.ofInt

def int32? (j : Json) : Option Int32 := (j.within? Int32.minValue.toInt Int32.maxValue.toInt).map Int32.ofInt

def uint32? (j : Json) : Option UInt32 := (j.within? 0 4294967295).map fun n => UInt32.ofNat n.toNat

/-- a time in a string -/
def instant? (j : Json) : Option Time.Instant := j.string? >>= Time.Rfc3339.parse?

/-- all items of an array -/
def list? (read : Json → Option α) : Json → Option (List α)
  | .array items => items.mapM read
  | _ => none

/-- all members of an object, each with its name -/
def pairs? (read : Json → Option α) : Json → Option (List (String × α))
  | .object members => members.mapM fun (k, v) => do return (← k, ← read v)
  | _ => none

/-- a time as a value -/
def ofInstant (t : Time.Instant) : Json := .text (Time.Rfc3339.render t)

end AccountStats.Json
