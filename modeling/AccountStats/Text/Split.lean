/-
Cutting text at a separator. `splitOn` cuts at every occurrence, so `n` separators give `n + 1` parts; `splitOnce` cuts
at the first one only.

Result: `join_splitOn`: putting the separator back between the parts restores the text.
-/
namespace AccountStats.Text

/-- the parts between separators; a text without one is a single part -/
def splitOn (sep : Char) : List Char → List (List Char)
  | [] => [[]]
  | c :: cs =>
    if c = sep then [] :: splitOn sep cs
    else match splitOn sep cs with
      | [] => [[c]]
      | part :: parts => (c :: part) :: parts

/-- what stands before and after the first separator, if there is one -/
def splitOnce (sep : Char) : List Char → Option (List Char × List Char)
  | [] => none
  | c :: cs => if c = sep then some ([], cs) else (splitOnce sep cs).map fun (a, b) => (c :: a, b)

/-- what stands before and after the last separator, if there is one -/
def splitLast (sep : Char) (cs : List Char) : Option (List Char × List Char) :=
  (splitOnce sep cs.reverse).map fun (a, b) => (b.reverse, a.reverse)

/-- what stands before and after the first occurrence of a text, if it occurs -/
def splitAround (mark : List Char) : List Char → Option (List Char × List Char)
  | [] => if mark = [] then some ([], []) else none
  | c :: cs => match mark.isPrefixOf? (c :: cs) with
    | some rest => some ([], rest)
    | none => (splitAround mark cs).map fun (a, b) => (c :: a, b)

/-- parts with a separator between each two -/
def join (sep : List Char) : List (List Char) → List Char
  | [] => []
  | [part] => part
  | part :: parts => part ++ sep ++ join sep parts

theorem splitOn_ne_nil (sep : Char) (cs : List Char) : splitOn sep cs ≠ [] := by
  cases cs with
  | nil => simp [splitOn]
  | cons c cs =>
    rw [splitOn]
    split
    · simp
    · split <;> simp

theorem join_splitOn (sep : Char) (cs : List Char) : join [sep] (splitOn sep cs) = cs := by
  induction cs with
  | nil => rfl
  | cons c cs ih =>
    rw [splitOn]
    split
    · next h =>
      cases hs : splitOn sep cs with
      | nil => exact absurd hs (splitOn_ne_nil sep cs)
      | cons p ps => rw [hs] at ih; simp [join, ih, h]
    · split
      · next hs => exact absurd hs (splitOn_ne_nil sep cs)
      · next p ps hs =>
        rw [hs] at ih
        cases ps with
        | nil => simpa [join] using ih
        | cons q qs => simpa [join] using ih

end AccountStats.Text
