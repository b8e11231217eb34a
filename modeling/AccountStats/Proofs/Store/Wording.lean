import Mathlib.Tactic
import AccountStats.Store.Read
import AccountStats.Store.Save
import AccountStats.Proofs.Program.Related
/-
What the words of a database error change.

An error has a kind, and words that the driver chooses; the server tells its reasons by codes and the names of
constraints. Reading and saving ask the same of two databases that differ in words only, and fail alike: with the same
kind of failure and the same body of a response. Results:
- `alike_toFailure`: failures made of errors that differ in words are alike;
- `Steady.bind`, `steady_transaction`, `steady_retry`: what of a program follows from its parts;
- `related_get`, `related_save`: reading and saving.
-/
namespace AccountStats

/-- two failures of which a client is told the same -/
structure Failure.Alike (f f' : Failure) : Prop where
  kind : f.kind = f'.kind
  body : f.body = f'.body

theorem Failure.Alike.refl (f : Failure) : f.Alike f := ⟨rfl, rfl⟩

/-- an internal failure tells a client its message, and nothing of its details -/
theorem Failure.alike_internal (message : String) (details details' : Json) :
    (⟨.internal, message, details⟩ : Failure).Alike ⟨.internal, message, details'⟩ := ⟨rfl, rfl⟩

/-- results that are the same, or failures that are alike -/
inductive SameToClient {α : Type} : Except Failure α → Except Failure α → Prop where
  | ok (a : α) : SameToClient (.ok a) (.ok a)
  | error {f f' : Failure} (h : f.Alike f') : SameToClient (.error f) (.error f')

namespace Store

open Program (Related)

variable {α β : Type} {e e' : DbError}

/-! ## Words -/

/-- what is left of an error without its words: its kind, and what the server tells otherwise -/
def DbError.wordless : DbError → DbError
  | .server code _ constraint => .server code "" constraint
  | .protocol _ => .protocol ""
  | .columnNotFound _ => .columnNotFound ""
  | .typeNotFound _ => .typeNotFound ""
  | .configuration _ | .misconfigured _ => .configuration ""
  | .decode _ => .decode ""
  | .columnDecode _ _ => .columnDecode (.at 0) ""
  | .io _ | .system _ => .io ""
  | .rowNotFound => .rowNotFound
  | .poolTimedOut => .poolTimedOut
  | .poolClosed => .poolClosed
  | .workerCrashed => .workerCrashed

/-- replies that only the words of an error tell apart -/
inductive SameButWords : Except DbError α → Except DbError α → Prop where
  | ok (a : α) : SameButWords (.ok a) (.ok a)
  | error {e e' : DbError} (h : e.wordless = e'.wordless) : SameButWords (.error e) (.error e')

theorem SameButWords.refl (r : Except DbError α) : SameButWords r r := by
  cases r with
  | ok a => exact .ok a
  | error e => exact .error rfl

/-- without its words an error is retried as with them -/
theorem isSerializationFailure_wordless (e : DbError) :
    e.wordless.isSerializationFailure = e.isSerializationFailure := by
  cases e <;> rfl

/-- without its words a client is told the same of an error -/
theorem alike_wordless (e : DbError) : e.toFailure.Alike e.wordless.toFailure := by
  cases e with
  | server code message constraint =>
    rw [DbError.wordless, DbError.toFailure, DbError.toFailure]
    split
    · exact .refl _
    · exact Failure.alike_internal _ _ _
  | rowNotFound => exact .refl _
  | _ => exact Failure.alike_internal _ _ _

theorem isSerializationFailure_congr (h : e.wordless = e'.wordless) :
    e.isSerializationFailure = e'.isSerializationFailure := by
  rw [← isSerializationFailure_wordless e, h, isSerializationFailure_wordless e']

theorem alike_toFailure (h : e.wordless = e'.wordless) : e.toFailure.Alike e'.toFailure := by
  have hleft := alike_wordless e
  have hright := alike_wordless e'
  rw [← h] at hright
  exact ⟨hleft.kind.trans hright.kind.symm, hleft.body.trans hright.body.symm⟩

/-! ## Programs on databases that differ in words -/

/-- replies to one request that only the words of an error tell apart -/
def Ask.SameReply : (r : Ask) → r.Reply → r.Reply → Prop
  | .begin, x, x' | .commit, x, x' | .rollback, x, x' | .execute _, x, x' | .query _, x, x' => SameButWords x x'
  | .abandon, _, _ | .pause _, _, _ => True

/-- the same is asked of both databases, and the replies differ in words -/
inductive Reworded : Calls.Pairing where
  | same (r : Ask) : Reworded r r r.SameReply

/-- the words of errors change nothing of an attempt but the words of its own error -/
def Attempt.Steady (m : Attempt α) : Prop := Related Reworded SameButWords m.run m.run

section Steady

open Attempt

variable {m : Attempt α} {f : α → Attempt β}

theorem steady_begin : begin.Steady := .ask (Reworded.same .begin) fun _ _ => .done

theorem steady_commit : commit.Steady := .ask (Reworded.same .commit) fun _ _ => .done

theorem steady_rollback : rollback.Steady := .ask (Reworded.same .rollback) fun _ _ => .done

theorem steady_execute (st : Statement) : (execute st).Steady := .ask (Reworded.same (.execute st)) fun _ _ => .done

theorem steady_query (st : Statement) : (query st).Steady := .ask (Reworded.same (.query st)) fun _ _ => .done

/-- what does not ask anything -/
theorem steady_done (r : Except DbError α) : Attempt.Steady (ExceptT.mk (.done r)) := .done (.refl r)

theorem steady_abandon : Attempt.Steady (ExceptT.lift (ask .abandon)) :=
  .ask (Reworded.same .abandon) fun _ _ _ => .done (.ok ())

theorem Attempt.Steady.bind (hm : m.Steady) (hf : ∀ a, (f a).Steady) : (m >>= f).Steady := by
  rw [Attempt.Steady, ExceptT.run_bind]
  refine Related.bind hm fun r r' h => ?_
  cases h with
  | ok a => exact hf a
  | error h => exact .done (.error h)

/-- a transaction is given up after an error, whatever its words -/
theorem steady_transaction {body : Attempt α} (hbody : body.Steady) : (transaction body).Steady := by
  refine steady_begin.bind fun _ => ?_
  refine Related.bind hbody fun r r' h => ?_
  cases h with
  | ok a => exact .done (.ok a)
  | error h => exact .ask (.same _) fun _ _ _ => .done (.error h)

/-! ## Reading -/

theorem steady_readProfile (username : String) : (readProfile username).Steady := by
  refine (steady_query _).bind fun rows => ?_
  cases rows with
  | nil => exact steady_done _
  | cons row rows => exact (steady_done (profileOfRow row)).bind fun p => steady_done _

theorem steady_repositoriesOfRows (rows : List Row) :
    Attempt.Steady (rows.mapM fun row => (repositoryOfRow row : Except DbError Repository)) := by
  induction rows with
  | nil => exact steady_done _
  | cons row rows ih =>
    rw [List.mapM_cons]
    refine (steady_done (repositoryOfRow row)).bind fun r => ?_
    exact ih.bind fun rs => steady_done _

theorem steady_readOnce (username : String) : (readOnce username).Steady := by
  refine steady_transaction ?_
  refine (steady_execute _).bind fun _ => ?_
  refine (steady_readProfile username).bind fun profile => ?_
  cases profile with
  | none => exact steady_abandon.bind fun _ => steady_done _
  | some p =>
    refine (steady_query _).bind fun rows => ?_
    refine (steady_repositoriesOfRows rows).bind fun repositories => ?_
    exact steady_commit.bind fun _ => steady_done _

/-- **Reading asks the same, and comes to the same for a client.** -/
theorem related_get (username : String) : Related Reworded SameToClient (get username) (get username) := by
  refine Related.bind (steady_readOnce username) fun r r' h => ?_
  cases h with
  | ok snapshot =>
    cases snapshot with
    | none => exact .done (.error (.refl _))
    | some s => exact .done (.ok s)
  | error h => exact .done (.error (alike_toFailure h))

/-! ## Saving -/

theorem steady_upsertAll (owner : String) (rows : List (List Repository)) : (upsertAll owner rows).Steady := by
  induction rows with
  | nil => exact steady_done _
  | cons row rows ih => exact (steady_execute _).bind fun _ => ih

theorem steady_reconcile (owner : String) (repositories : List Repository) :
    (reconcile owner repositories).Steady := by
  rw [reconcile]
  split
  · exact (steady_execute _).bind fun _ => steady_done _
  · refine (steady_upsertAll owner _).bind fun _ => ?_
    exact (steady_execute _).bind fun _ => steady_done _

theorem steady_saveOnce (s : Snapshot) : (saveOnce s).Steady := by
  refine steady_transaction ?_
  refine (steady_execute _).bind fun _ => ?_
  refine (steady_execute _).bind fun affected => ?_
  split
  · exact steady_rollback.bind fun _ => steady_done _
  · refine (steady_reconcile s.username s.repositories).bind fun _ => ?_
    exact steady_commit.bind fun _ => steady_done _

/-- whether an attempt is followed by another does not depend on words -/
theorem steady_retry (hm : m.Steady) (pauses : List Nat) :
    Related Reworded SameButWords (retry m pauses) (retry m pauses) := by
  induction pauses with
  | nil => exact hm
  | cons pause pauses ih =>
    refine Related.bind hm fun r r' h => ?_
    cases h with
    | ok a => exact .done (.ok a)
    | @error e e' h =>
      -- the SQLSTATE decides whether there is another attempt, and it is the same
      dsimp only
      rw [isSerializationFailure_congr h]
      split
      · exact .ask (Reworded.same (.pause pause)) fun _ _ _ => ih
      · exact .done (.error h)

/-- **Saving asks the same, and comes to the same for a client.** -/
theorem related_save (s : Snapshot) : Related Reworded SameToClient (save s) (save s) := by
  refine Related.bind (steady_retry (steady_saveOnce s) pauses) fun r r' h => ?_
  cases h with
  | ok written =>
    cases written with
    | false => exact .done (.error (.refl _))
    | true => exact .done (.ok ())
  | error h => exact .done (.error (alike_toFailure h))

end Steady

end Store

end AccountStats
