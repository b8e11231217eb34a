import AccountStats.Cache.Basic
/-
The cache held in the process: at most one slot per key, each with the time at which it expires. Times are nanoseconds
of a clock that never goes back.

Looking a key up takes two steps. The first reads the slot; if it had expired, the second removes it, provided that it
is still there and still expired. Other calls may come between the two.
-/
namespace AccountStats.Cache

structure Slot where
  entry : Entry
  expiresAt : Nat
deriving DecidableEq, Repr

/-- a slot is live strictly before it expires -/
def Slot.live (s : Slot) (now : Nat) : Bool := now < s.expiresAt

structure Memory where
  slots : List (String × Slot)
deriving DecidableEq, Repr

namespace Memory

def empty : Memory := ⟨[]⟩

def size (m : Memory) : Nat := m.slots.length

/-- the slot under a key, live or not -/
def slot? (m : Memory) (k : String) : Option Slot := m.slots.lookup k

/-- puts a slot under a key, in the place of the one that is there -/
def put (k : String) (s : Slot) : List (String × Slot) → List (String × Slot)
  | [] => [(k, s)]
  | (k', s') :: rest => if k' = k then (k, s) :: rest else (k', s') :: put k s rest

/-- what a look-up finds -/
inductive Found where
  | hit (entry : Entry)
  | expired
  | nothing
deriving DecidableEq, Repr

def lookup (m : Memory) (now : Nat) (username : String) : Found :=
  match m.slot? (key username) with
  | some s => if s.live now then .hit s.entry else .expired
  | none => .nothing

/-- removes the slot of an account if it has expired -/
def evict (m : Memory) (now : Nat) (username : String) : Memory :=
  ⟨m.slots.filter fun (k, s) => k != key username || s.live now⟩

def set (m : Memory) (now : Nat) (username : String) (e : Entry) (ttl : Nat) : Memory :=
  ⟨put (key username) ⟨e, now + ttl⟩ m.slots⟩

def delete (m : Memory) (username : String) : Memory := ⟨m.slots.filter fun (k, _) => k != key username⟩

/-- removes all that has expired, and says how many slots that were -/
def purge (m : Memory) (now : Nat) : Nat × Memory :=
  let kept := m.slots.filter fun (_, s) => s.live now
  (m.slots.length - kept.length, ⟨kept⟩)

/-- a look-up without anything in between -/
def get (m : Memory) (now : Nat) (username : String) : Option Entry × Memory :=
  match m.lookup now username with
  | .hit e => (some e, m)
  | .expired => (none, m.evict now username)
  | .nothing => (none, m)

/-! ## Interleaved calls -/

inductive Op where
  | lookup (username : String)
  | evict (username : String)
  | set (username : String) (entry : Entry) (ttl : Nat)
  | delete (username : String)
  | purge
deriving DecidableEq, Repr

/-- one atomic step at a clock reading -/
def step (m : Memory) : Nat × Op → Memory
  | (_, .lookup _) => m
  | (now, .evict u) => m.evict now u
  | (now, .set u e ttl) => m.set now u e ttl
  | (_, .delete u) => m.delete u
  | (now, .purge) => (m.purge now).2

def run (m : Memory) (ops : List (Nat × Op)) : Memory := ops.foldl step m

end Memory

end AccountStats.Cache
