import AccountStats.Redis.Calls
/-
A Redis server that never fails: keys with values, each of which lives up to a time. Times are nanoseconds.
-/
namespace AccountStats.Redis

structure Key where
  value : ByteArray
  expiresAt : Nat

structure Keys where
  now : Nat
  slots : List (String × Key)

namespace Keys

def empty : Keys := ⟨0, []⟩

/-- the value of a key that still lives -/
def value? (k : Keys) (key : String) : Option ByteArray :=
  (k.slots.lookup key).bind fun s => if k.now < s.expiresAt then some s.value else none

/-- puts a key in the place of the one that is there -/
def put (key : String) (s : Key) (slots : List (String × Key)) : List (String × Key) :=
  (key, s) :: slots.filter fun e => e.1 != key

def answer (r : Ask) (k : Keys) : r.Reply × Keys :=
  match r with
  | .check _ | .connect _ | .ping => (.ok (), k)
  | .get key => (.ok (k.value? key), k)
  | .setex key seconds payload =>
    (.ok (), { k with slots := put key ⟨payload.toUTF8, k.now + seconds * 1000000000⟩ k.slots })
  | .del key =>
    (.ok (if (k.value? key).isSome then 1 else 0), { k with slots := k.slots.filter fun e => e.1 != key })
  | .publish _ _ => (.ok 0, k)
  | .note _ => ((), k)

/-- the same server later -/
def wait (k : Keys) (time : Nat) : Keys := { k with now := k.now + time }

end Keys

end AccountStats.Redis
