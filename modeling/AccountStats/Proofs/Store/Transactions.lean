import Mathlib.Tactic
import AccountStats.Store.Tables
/-
What programs come to on the database.

`Attempt.against` runs an attempt against the two tables; each of the calls that attempts are made of has one equation.
A transaction that nobody else sees leaves the tables that it committed, or those before it.
-/
namespace AccountStats.Store

variable {α β : Type} {d d' : Database}

theorem run_bind_eq {p : Program Calls α} {a : α} (h : p.run Database.answer d = (a, d'))
    (f : α → Program Calls β) : (p >>= f).run Database.answer d = (f a).run Database.answer d' := by
  refine (Program.run_bind Database.answer p f d).trans ?_
  rw [h]

namespace Attempt

/-- what an attempt comes to on the database, and the database after it -/
def against (m : Attempt α) (d : Database) : Except DbError α × Database := Program.run Database.answer m.run d

@[simp] theorem against_pure (a : α) (d : Database) : (pure a : Attempt α).against d = (.ok a, d) := rfl

theorem against_bind (m : Attempt α) (f : α → Attempt β) (d : Database) :
    (m >>= f).against d = match m.against d with
      | (.ok a, d') => (f a).against d'
      | (.error e, d') => (.error e, d') := by
  unfold against
  rw [ExceptT.run_bind]
  refine (Program.run_bind _ _ _ _).trans ?_
  generalize Program.run Database.answer m.run d = r
  rcases r with ⟨a | e, d'⟩ <;> rfl

/-- an attempt that goes on after a call that succeeds -/
theorem against_bind_ok {m : Attempt α} {f : α → Attempt β} {a : α} (h : m.against d = (.ok a, d')) :
    (m >>= f).against d = (f a).against d' := by
  rw [against_bind, h]

/-! ## Calls -/

/-- a statement that succeeds -/
theorem against_execute {st : Statement} {n : Nat} {t : Tables} (h : d.visible.execute st = .ok (n, t)) :
    (execute st).against d = (.ok n, d.write t) := by
  show Database.answer (.execute st) d = _
  rw [Database.answer, h]

@[simp] theorem against_setIsolation (c t : Tables) :
    (execute .setIsolation).against ⟨c, some t⟩ = (.ok 0, ⟨c, some t⟩) := rfl

@[simp] theorem against_query (s : Statement) (d : Database) :
    (query s).against d = (.ok (d.visible.query s), d) := rfl

@[simp] theorem against_commit (d : Database) : commit.against d = (.ok (), ⟨d.visible, none⟩) := rfl

@[simp] theorem against_rollback (d : Database) : rollback.against d = (.ok (), { d with working := none }) := rfl

@[simp] theorem against_abandon (d : Database) :
    against (ExceptT.lift (ask .abandon)) d = (.ok (), { d with working := none }) := rfl

/-- a value that is read from a row -/
@[simp] theorem against_lift (e : Except DbError α) (d : Database) : (liftM e : Attempt α).against d = (e, d) := by
  cases e <;> rfl

theorem against_bind_lift {e : Except DbError α} {a : α} (h : e = .ok a) (f : α → Attempt β) (d : Database) :
    ((liftM e : Attempt α) >>= f).against d = (f a).against d := by
  refine against_bind_ok ?_
  rw [against_lift, h]

theorem against_tryCatch (m : Attempt α) (handle : DbError → Attempt α) (d : Database) :
    (tryCatch m handle).against d = match m.against d with
      | (.ok a, d') => (.ok a, d')
      | (.error e, d') => (handle e).against d' := by
  unfold against
  refine (Program.run_bind Database.answer m.run _ d).trans ?_
  generalize Program.run Database.answer m.run d = r
  rcases r with ⟨e | a, d'⟩ <;> rfl

/-- **A transaction starts from the committed tables**; after an error they are back. -/
theorem against_transaction (body : Attempt α) (d : Database) :
    (transaction body).against d = match body.against { d with working := some d.committed } with
      | (.ok a, d') => (.ok a, d')
      | (.error e, d') => (.error e, { d' with working := none }) := by
  have hbegin : begin.against d = (.ok (), { d with working := some d.committed }) := rfl
  unfold transaction
  rw [against_bind_ok hbegin, against_tryCatch]
  rcases body.against { d with working := some d.committed } with ⟨e | a, d'⟩
  · exact against_bind_ok (against_abandon d')
  · rfl

end Attempt

end AccountStats.Store
