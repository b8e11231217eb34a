/-
Sets of characters as runs of code points.
-/
namespace AccountStats.Text

/-- whether a run holds the code point, by bisection of the runs from `low` to `high`, `fuel` times at most -/
def inRuns (runs : Array (Nat × Nat)) (n : Nat) : Nat → Nat → Nat → Bool
  | 0, _, _ => false
  | fuel + 1, low, high =>
    if low < high then
      let mid := (low + high) / 2
      match runs[mid]? with
      | none => false
      | some (a, b) =>
        if n < a then inRuns runs n fuel low mid
        else if b < n then inRuns runs n fuel (mid + 1) high
        else true
    else false

/-- whether one of the runs, which are in order and fewer than 4096, holds the character -/
def isIn (c : Char) (runs : Array (Nat × Nat)) : Bool := inRuns runs c.toNat 12 0 runs.size

end AccountStats.Text
