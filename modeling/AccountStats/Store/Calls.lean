import AccountStats.Program
import AccountStats.Store.Failure
import AccountStats.Store.Statement
/-
The requests that programs on the database make: the ends of a transaction, statements, and a pause.
-/
namespace AccountStats.Store

/-- the values of one row, in the order of its columns -/
abbrev Row := List Value

inductive Ask where
  | begin
  | commit
  | rollback
  /-- gives up a transaction: it is rolled back, and nobody waits for the reply -/
  | abandon
  /-- a statement without result columns; says how many rows it affected -/
  | execute (s : Statement)
  /-- a statement with result columns -/
  | query (s : Statement)
  /-- waits, at most so many milliseconds -/
  | pause (millis : Nat)
deriving DecidableEq, Repr

/-- the type of the reply to each request -/
abbrev Ask.Reply : Ask → Type
  | .begin | .commit | .rollback => Except DbError Unit
  | .abandon => Unit
  | .execute _ => Except DbError Nat
  | .query _ => Except DbError (List Row)
  | .pause _ => Unit

abbrev Calls : Interface := ⟨Ask, Ask.Reply⟩

/-- one request -/
def ask (r : Ask) : Program Calls r.Reply := Program.ask r Program.done

/-- a program that ends at the first request that fails -/
abbrev Attempt := ExceptT DbError (Program Calls)

namespace Attempt

def begin : Attempt Unit := ExceptT.mk (ask .begin)
def commit : Attempt Unit := ExceptT.mk (ask .commit)
def rollback : Attempt Unit := ExceptT.mk (ask .rollback)
def execute (s : Statement) : Attempt Nat := ExceptT.mk (ask (.execute s))
def query (s : Statement) : Attempt (List Row) := ExceptT.mk (ask (.query s))

/-- a transaction whose body ends it; after an error in the body it is given up -/
def transaction (body : Attempt α) : Attempt α := do
  begin
  tryCatch body fun e => do
    let () ← ExceptT.lift (ask .abandon)
    throw e

end Attempt

end AccountStats.Store
