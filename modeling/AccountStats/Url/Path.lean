import AccountStats.Text.Split
import AccountStats.Url.Basic
/-
Paths of URLs: segments behind slashes. One dot stands for the place itself and two dots for the one above, also where
the dots are escaped.
-/
namespace AccountStats.Url

open AccountStats.Text

/-- whether a segment is `n` dots, each of them as it is or escaped -/
def isDots : Nat → List Char → Bool
  | 0, cs => cs = []
  | n + 1, '.' :: cs | n + 1, '%' :: '2' :: 'e' :: cs | n + 1, '%' :: '2' :: 'E' :: cs => isDots n cs
  | _ + 1, _ => false

/-- the segments without the last one, which comes first here; a drive stays -/
def up : List (List Char) → List (List Char)
  | [] => []
  | segment :: above => if isDrive segment then segment :: above else above

/-- puts segments on top of others, the last one first; dots at the end leave an empty segment -/
def addSegments (above : List (List Char)) : List (List Char) → List (List Char)
  | [] => above
  | segment :: rest =>
    let close (above : List (List Char)) := if rest = [] then [] :: above else above
    if isDots 2 segment then addSegments (close (up above)) rest
    else if isDots 1 segment then addSegments (close above) rest
    else addSegments (segment :: above) rest

/-- a path without its first slash, without `.` and `..` -/
def pathOf (k : Kind) (cs : List Char) : List Char :=
  let plain := cs.map fun c => if k.isSlash c then '/' else c
  '/' :: join ['/'] (addSegments [] (splitOn '/' plain)).reverse

end AccountStats.Url
