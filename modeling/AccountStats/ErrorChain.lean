import AccountStats.Text.Split
/-
Errors with their causes, as a command shows them before it ends.
-/
namespace AccountStats

/-- the text of an error, and those of its causes from the nearest on -/
structure ErrorChain where
  message : String
  causes : List String
deriving DecidableEq, Repr

namespace ErrorChain

/-- an error without a cause -/
def plain (message : String) : ErrorChain := ⟨message, []⟩

/-- texts from the outermost to the last cause -/
def ofTexts : List String → ErrorChain
  | [] => plain ""
  | message :: causes => ⟨message, causes⟩

/-- a text with every line indented: the first one by what marks it -/
def indented (mark rest text : String) : String :=
  match Text.splitOn '\n' text.toList with
  | [] => mark
  | line :: lines => mark ++ String.ofList line ++ String.join (lines.map fun l => "\n" ++ rest ++ String.ofList l)

/-- causes one below the other, numbered if there are several -/
def renderCauses : List String → String
  | [] => ""
  | [cause] => "\n\nCaused by:\n" ++ indented "    " "    " cause
  | causes => "\n\nCaused by:\n" ++ "\n".intercalate (causes.mapIdx fun i cause =>
      indented (String.ofList (List.replicate (5 - (toString i).length) ' ') ++ toString i ++ ": ") "       " cause)

def render (e : ErrorChain) : String := "Error: " ++ e.message ++ renderCauses e.causes ++ "\n"

end ErrorChain

end AccountStats
