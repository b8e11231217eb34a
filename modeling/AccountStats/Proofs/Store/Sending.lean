import Mathlib.Tactic
import AccountStats.Proofs.Store.Committing
import AccountStats.Proofs.Store.Listing
/-
The statements of a save, row by row.

What a save inserts, how it cuts that into statements and what it spares when it deletes are computed one by one from
the repositories of the snapshot; they have to describe the same rows, or rows just written would be deleted, or a
statement refused. Results:
- `values_of_row`: the values bound for each row of an insert, which name the account and not the owner of the record;
- `Attempted.sent_all`: an attempt whose statements all succeed sends all of them, also if it is not committed then;
- `sent_agree`: the inserts write the last occurrence of each id, in order, 500 rows each and none twice, and exactly
  their ids are spared.
-/
namespace AccountStats.Store

open Program (Exchange Replied Runs exists_runs)

variable {s : Snapshot} {es work : List (Exchange Calls)} {r : Except DbError Bool}

/-! ## Rows -/

/-- the rows that a statement inserts, if it is an insert -/
def Statement.inserted? : Statement → Option (List Repository)
  | .upsertRepositories _ rows => some rows
  | _ => none

/-- the rows of each insert among some statements -/
def insertsOf (sent : List Statement) : List (List Repository) := sent.filterMap Statement.inserted?

/-- how many values each row binds -/
def columns : Nat := 8

theorem length_repositoryValues (owner : String) (q : Repository) :
    (Statement.repositoryValues owner q).length = columns := rfl

/-- so many values are bound in an insert -/
theorem length_values_insert (owner : String) (rows : List Repository) :
    (Statement.upsertRepositories owner rows).values.length = columns * rows.length := by
  have hrows : rows.map (fun q => (Statement.repositoryValues owner q).length) =
      List.replicate rows.length columns := by
    simp only [length_repositoryValues, List.map_const']
  rw [Statement.values, List.length_flatMap, hrows, List.sum_replicate_nat, Nat.mul_comm]

/-- **The values of each row stand one after another.** -/
theorem values_of_row {owner : String} {rows : List Repository} {i : Nat} {q : Repository} (h : rows[i]? = some q) :
    ((Statement.upsertRepositories owner rows).values.drop (columns * i)).take columns =
      Statement.repositoryValues owner q := by
  rw [Statement.values]
  induction rows generalizing i with
  | nil => cases h
  | cons p rows ih =>
    rw [List.flatMap_cons]
    cases i with
    | zero =>
      cases h
      rw [Nat.mul_zero, List.drop_zero]
      exact List.take_left' (length_repositoryValues owner _)
    | succ i =>
      have hskip : columns * (i + 1) = (Statement.repositoryValues owner p).length + columns * i := by
        rw [length_repositoryValues, Nat.mul_succ, Nat.add_comm]
      rw [hskip, ← List.drop_drop, List.drop_left]
      exact ih h

/-! ## Attempts whose statements succeed -/

/-- every statement of an attempt succeeds, and the profile is written: an upsert that leaves a newer one alone has not
succeeded. Whether the transaction can be committed after that is left open. -/
structure Succeeds (s : Snapshot) (es : List (Exchange Calls)) : Prop where
  nothingFails : ∀ e ∈ es, failure? e ≠ none → e.request = .commit
  written : ¬ Declined s es

theorem statementsOf_plan {plan : List Statement} (h : es.map Exchange.request = plan.map .execute ++ [.commit]) :
    statementsOf es = plan := by
  have hplan : (plan.map Ask.execute).filterMap Ask.statement? = plan := by
    rw [List.filterMap_map]
    exact List.filterMap_some
  rw [statementsOf, h, List.filterMap_append, hplan]
  exact List.append_nil plan

/-- a part in which nothing but the commit at its end fails has sent all its statements -/
theorem Through.sent_all {plan : List Statement} {err? : Option DbError}
    (h : Through (plan.map .execute ++ [.commit]) work err?)
    (hsucceeds : ∀ e ∈ work, failure? e ≠ none → e.request = .commit) : statementsOf work = plan := by
  cases err? with
  | none => exact statementsOf_plan h.requests_eq
  | some err =>
    obtain ⟨e, hmem, hfailed⟩ := List.exists_of_findSome?_eq_some h.error?_eq
    have hfails : failure? e ≠ none := by simp [hfailed]
    have hcommit := hsucceeds e hmem hfails
    obtain ⟨before, after, rfl⟩ := List.append_of_mem hmem
    have hbefore := (h.before_last (by simp) hcommit).1
    obtain ⟨-, -, hlast⟩ := h.split
    obtain rfl := hlast hfails
    apply statementsOf_plan
    rw [List.map_append, hbefore, List.map_singleton, hcommit]

/-- **An attempt whose statements all succeed sends all of them.** -/
theorem Attempted.sent_all (h : Attempted s es r) (hsucceeds : Succeeds s es) : statementsOf es = statements s := by
  rcases h.worked with ⟨e, rfl⟩ | ⟨writing, work, err?, hwork, hdeclined, rfl⟩
  · cases hsucceeds.nothingFails ⟨.begin, .error e⟩ (by simp) (by simp [failure?])
  · have hwritten := hsucceeds.written
    rw [declined_work, hdeclined, Bool.not_eq_false] at hwritten
    subst hwritten
    rw [statementsOf_work]
    exact Through.sent_all hwork fun e he => hsucceeds.nothingFails e (by simp [he])

/-! ## All statements of a save -/

/-- the statements of a save agree with each other -/
structure Agreeing (s : Snapshot) (sent : List Statement) : Prop where
  /-- the profile is written, then the rows, and then what is not among these is deleted; all of that for the account of
  the snapshot -/
  inOrder : sent = [.setIsolation, .upsertProfile s.profile s.fetchedAt] ++
    (insertsOf sent).map (.upsertRepositories s.username) ++
      [.prune s.username ((insertsOf sent).flatten.map Repository.id)]
  /-- of each id the last occurrence is written, in the order of these -/
  ids : (insertsOf sent).flatten.map Repository.id = (s.repositories.map Repository.id).dedup
  last : ∀ q ∈ (insertsOf sent).flatten, LastOf s.repositories q
  once : ((insertsOf sent).flatten.map Repository.id).Nodup
  /-- every insert but the last has 500 rows, and none is empty or binds too much -/
  full : ∀ rows ∈ (insertsOf sent).dropLast, rows.length = 500
  nonempty : ∀ rows ∈ insertsOf sent, rows ≠ []
  binds : ∀ rows ∈ insertsOf sent, (Statement.upsertRepositories s.username rows).values.length ≤ 4000
  /-- what is bound names the account, whatever owner a record names -/
  profile : (Statement.upsertProfile s.profile s.fetchedAt).values.head? = some (.text s.username)
  owner : ∀ rows ∈ insertsOf sent, ∀ i q, rows[i]? = some q →
    ((Statement.upsertRepositories s.username rows).values.drop (8 * i)).take 8 =
      [.int8 q.id, .text s.username, .ofOption .ofInstant q.pushedAt, .ofOption .ofInstant q.updatedAt,
        .ofOption .text q.language, .int4 q.stars, .bool q.isFork, .int4 q.forks]
  prune : ∀ ids, (Statement.prune s.username ids).values = [.text s.username, .int8s ids]

theorem insertsOf_statements (h : s.repositories ≠ []) :
    insertsOf (statements s) = chunks (chunkSize - 1) (lastOfEachId s.repositories) := by
  have hinserts : ∀ css : List (List Repository), insertsOf (css.map (.upsertRepositories s.username)) = css := by
    intro css
    rw [insertsOf, List.filterMap_map]
    exact List.filterMap_some
  have hrepositories : insertsOf (repositoryStatements s.username s.repositories) =
      chunks (chunkSize - 1) (lastOfEachId s.repositories) := by
    rw [repositoryStatements, if_neg h, insertsOf, List.filterMap_append, ← insertsOf, hinserts]
    exact List.append_nil _
  exact hrepositories

theorem agreeing_statements (h : s.repositories ≠ []) : Agreeing s (statements s) := by
  have hrows : (insertsOf (statements s)).flatten = lastOfEachId s.repositories := by
    rw [insertsOf_statements h, flatten_chunks]
  constructor
  · rw [hrows, insertsOf_statements h, statements, repositoryStatements, if_neg h]
    rfl
  · rw [hrows]
    exact map_id_lastOfEachId s.repositories
  · intro q hq
    rw [hrows] at hq
    exact mem_lastOfEachId.1 hq
  · rw [hrows]
    exact nodup_lastOfEachId s.repositories
  · intro rows hrows
    rw [insertsOf_statements h] at hrows
    exact length_of_mem_dropLast_chunks hrows
  · intro rows hrows
    rw [insertsOf_statements h] at hrows
    exact ne_nil_of_mem_chunks hrows
  · intro rows hrows
    rw [insertsOf_statements h] at hrows
    have hlength : rows.length ≤ 500 := length_le_of_mem_chunks hrows
    rw [length_values_insert]
    exact Nat.mul_le_mul_left columns hlength
  · rfl
  · intro rows _ i q hq
    exact values_of_row hq
  · intro ids
    rfl

/-- **The statements of a save agree with each other**, if the snapshot lists repositories and they all succeed. -/
theorem sent_agree (hlisted : s.repositories ≠ []) (hruns : Runs (saveOnce s).run es r) (hsucceeds : Succeeds s es) :
    Agreeing s (statementsOf es) := by
  rw [(attempted_of_runs hruns).sent_all hsucceeds]
  exact agreeing_statements hlisted

/-- a database that does whatever it is asked for -/
def obliging (r : Ask) (u : Unit) : r.Reply × Unit :=
  match r with
  | .begin | .commit | .rollback => (.ok (), u)
  | .abandon | .pause _ => ((), u)
  | .execute _ => (.ok 1, u)
  | .query _ => (.ok [], u)

theorem succeeds_obliging {u u' : Unit} (h : Replied obliging u es u') : Succeeds s es where
  nothingFails e he hfailed := by
    obtain ⟨v, hreply⟩ := h.reply_eq e he
    obtain ⟨request, reply⟩ := e
    obtain rfl : reply = (obliging request v).1 := hreply
    cases request <;> exact absurd rfl hfailed
  written hdeclined := by
    obtain ⟨v, hreply⟩ := h.reply_eq _ hdeclined
    cases hreply

/-- a listing of so many repositories, each of which names another owner -/
def listed (n : Nat) : List Repository :=
  (List.range n).map fun i => ⟨.ofNat i, "someone", none, none, none, 0, false, 0⟩

/-- more repositories than fit into one insert, the first of which is listed again -/
def relisted : Snapshot := .ofRepositories "ann" (listed 501 ++ listed 1) .epoch

theorem sent_agree_relisted : ∃ es r, relisted.repositories ≠ [] ∧ Runs (saveOnce relisted).run es r ∧
    Succeeds relisted es ∧ Agreeing relisted (statementsOf es) := by
  have hlisted : relisted.repositories ≠ [] := by simp [relisted, Snapshot.ofRepositories, listed]
  obtain ⟨es, hruns, hreplied⟩ := exists_runs obliging (saveOnce relisted).run ()
  have hsucceeds : Succeeds relisted es := succeeds_obliging hreplied
  exact ⟨es, _, hlisted, hruns, hsucceeds, sent_agree hlisted hruns hsucceeds⟩

end AccountStats.Store
