import Mathlib.Tactic
import AccountStats.Proofs.Json.Tokens
/-
Values are read back from their compact text as they were written.

`Plain` values are those that records are written as: whole numbers within the range of those kept as such, and strings
that spell a text. Each is read back in front of anything that may follow it, with fuel for twice its length. Results:
- `readValue_write`: one value in front of others;
- `readText_render`: the whole text.
-/
namespace AccountStats.Json

open AccountStats.Text

/-- the values that are written in full -/
inductive Plain : Json → Prop where
  | null : Plain .null
  | bool (b : Bool) : Plain (.bool b)
  | int {n : Int} (low : -9223372036854775808 ≤ n) (high : n < 18446744073709551616) : Plain (.int n)
  | text (s : String) : Plain (.text s)
  | array {items : List Json} (h : ∀ x ∈ items, Plain x) : Plain (.array items)
  | record {members : List (String × Json)} (h : ∀ m ∈ members, Plain m.2) : Plain (.record members)

variable {c : Char} {j : Json} {items : List Json} {members : List (String × Json)} {rest : List Char} {fuel : Nat}
  {ps : List Piece}

/-! ## How a value begins -/

/-- the characters that a value can begin with -/
def Opens (c : Char) : Prop := c.isDigit = true ∨ c ∈ ['-', 'n', 't', 'f', '"', '[', '\x7b']

theorem Opens.ne (h : Opens c) {d : Char} (hdigit : d.isDigit = false)
    (hd : d ∉ ['-', 'n', 't', 'f', '"', '[', '\x7b']) : c ≠ d := by
  rintro rfl
  rcases h with h | h
  · rw [hdigit] at h
    cases h
  · exact hd h

theorem skipBlanks_cons (h : c ∉ [' ', '\n', '\t', '\r']) : skipBlanks (some c :: ps) = some c :: ps := by
  simp only [List.mem_cons, List.not_mem_nil, or_false, not_or] at h
  rw [skipBlanks]
  · rintro _ ⟨⟩
    exact h.1 rfl
  · rintro _ ⟨⟩
    exact h.2.1 rfl
  · rintro _ ⟨⟩
    exact h.2.2.1 rfl
  · rintro _ ⟨⟩
    exact h.2.2.2 rfl

theorem Opens.skipBlanks (h : Opens c) : skipBlanks (some c :: ps) = some c :: ps := by
  refine skipBlanks_cons fun hc => ?_
  simp only [List.mem_cons, List.not_mem_nil, or_false] at hc
  rcases hc with hc | hc | hc | hc <;> exact h.ne rfl (by decide) hc

/-- a number begins with a digit or a minus sign -/
theorem signedDecimal_cons (n : Int) : ∃ c cs, signedDecimal n = c :: cs ∧ (c.isDigit = true ∨ c = '-') := by
  cases n with
  | ofNat n =>
    cases hds : decimal n with
    | nil => exact absurd hds (decimal_ne_nil n)
    | cons d ds =>
      have hall := all_isDigit_decimal n
      rw [hds, List.all_cons, Bool.and_eq_true] at hall
      exact ⟨d, ds, hds, Or.inl hall.1⟩
  | negSucc n => exact ⟨'-', decimal (n + 1), rfl, Or.inr rfl⟩

theorem opens_write (h : Plain j) (rest : List Char) : ∃ c cs, write j rest = c :: cs ∧ Opens c := by
  cases h with
  | null => exact ⟨_, _, rfl, Or.inr (by decide)⟩
  | bool b => cases b <;> exact ⟨_, _, rfl, Or.inr (by decide)⟩
  | @int n =>
    obtain ⟨c, cs, hcs, hc⟩ := signedDecimal_cons n
    refine ⟨c, cs ++ rest, ?_, hc.imp_right fun h => by rw [h]; decide⟩
    simp only [Json.int, write, writeNumber, hcs, List.cons_append]
  | text s => exact ⟨_, _, rfl, Or.inr (by decide)⟩
  | array => exact ⟨_, _, rfl, Or.inr (by decide)⟩
  | record => exact ⟨_, _, rfl, Or.inr (by decide)⟩

/-! ## How long it is -/

theorem length_writeString (s rest : List Char) : rest.length < (writeString s rest).length := by
  simp only [writeString, List.length_cons, List.length_append]
  omega

theorem length_writeItems (h : ∀ x ∈ items, ∀ rest, rest.length < (write x rest).length) (rest : List Char) :
    rest.length < (writeItems items rest).length := by
  induction items with
  | nil => exact Nat.lt_succ_self _
  | cons x xs ih =>
    obtain ⟨hx, hxs⟩ := List.forall_mem_cons.1 h
    cases xs with
    | nil => exact (Nat.lt_succ_self _).trans (hx (']' :: rest))
    | cons y ys => exact (ih hxs).trans ((Nat.lt_succ_self _).trans (hx (',' :: writeItems (y :: ys) rest)))

/-- members as they stand in an object -/
def named (members : List (String × Json)) : List (Option String × Json) := members.map fun (k, v) => (some k, v)

theorem length_writeMembers (h : ∀ m ∈ members, ∀ rest, rest.length < (write m.2 rest).length) (rest : List Char) :
    rest.length < (writeMembers (named members) rest).length := by
  induction members with
  | nil => exact Nat.lt_succ_self _
  | cons m ms ih =>
    obtain ⟨k, v⟩ := m
    obtain ⟨hv, hms⟩ := List.forall_mem_cons.1 h
    have hname : ∀ more : List Char, more.length < (writeLiteral (some k) (':' :: more)).length := fun more =>
      (Nat.lt_succ_self _).trans (length_writeString k.toList (':' :: more))
    cases ms with
    | nil => exact (Nat.lt_succ_self _).trans ((hv ('\x7d' :: rest)).trans (hname _))
    | cons m' ms =>
      exact (ih hms).trans ((Nat.lt_succ_self _).trans
        ((hv (',' :: writeMembers (named (m' :: ms)) rest)).trans (hname _)))

/-- no value is written as nothing -/
theorem length_write (h : Plain j) (rest : List Char) : rest.length < (write j rest).length := by
  induction h generalizing rest with
  | null =>
    simp only [write, List.length_cons]
    omega
  | bool b => cases b <;> simp only [write, List.length_cons] <;> omega
  | @int n =>
    obtain ⟨c, cs, hcs, -⟩ := signedDecimal_cons n
    simp only [Json.int, write, writeNumber, hcs, List.length_append, List.length_cons]
    omega
  | text s => exact length_writeString s.toList rest
  | array _ ih => exact (length_writeItems ih rest).trans (Nat.lt_succ_self _)
  | record _ ih => exact (length_writeMembers ih rest).trans (Nat.lt_succ_self _)

/-! ## Which way a value is read -/

theorem some_cons_ne {d : Char} (h : c ≠ d) {qs : List Piece} : some c :: ps ≠ some d :: qs :=
  fun heq => h (Option.some.inj (List.cons.inj heq).1)

theorem readValue_number (hc : c.isDigit = true ∨ c = '-') :
    readValue (fuel + 1) (some c :: ps) = (readNumber (some c :: ps)).map fun (n, rest) => (.number n, rest) := by
  have hopens : Opens c := hc.imp_right fun h => by rw [h]; decide
  have hne : ∀ d ∈ ['n', 't', 'f', '"', '[', '\x7b'], c ≠ d := by
    rintro d hd rfl
    rcases hc with h | rfl
    · fin_cases hd <;> cases h
    · exact absurd hd (by decide)
  rw [readValue, hopens.skipBlanks]
  split
  · next h => exact absurd h (some_cons_ne (hne _ (by decide)))
  · next h => exact absurd h (some_cons_ne (hne _ (by decide)))
  · next h => exact absurd h (some_cons_ne (hne _ (by decide)))
  · next h => exact absurd h (some_cons_ne (hne _ (by decide)))
  · next h => exact absurd h (some_cons_ne (hne _ (by decide)))
  · next h => exact absurd h (some_cons_ne (hne _ (by decide)))
  · rfl

theorem readValue_array (hc : Opens c) :
    readValue (fuel + 1) (some '[' :: some c :: ps) =
      (readItems fuel (some c :: ps)).map fun (xs, rest) => (.array xs, rest) := by
  rw [readValue, skipBlanks_cons (by decide)]
  simp only [hc.skipBlanks]
  split
  · next h => exact absurd h (some_cons_ne (hc.ne rfl (by decide)))
  · rfl

theorem readValue_object :
    readValue (fuel + 1) (some '\x7b' :: some '"' :: ps) =
      (readMembers fuel (some '"' :: ps)).map fun (ms, rest) => (.object ms, rest) := by
  rw [readValue, skipBlanks_cons (by decide)]
  simp only [skipBlanks_cons (by decide : '"' ∉ [' ', '\n', '\t', '\r'])]
  split
  · next h => exact absurd h (some_cons_ne (by decide))
  · rfl

/-! ## Reading back -/

/-- the value is read back in front of what may follow it, given fuel for its length -/
def ReadsBack (j : Json) : Prop :=
  ∀ fuel rest, Ends rest → 2 * (write j rest).length ≤ fuel + 2 * rest.length →
    readValue fuel ((write j rest).map some) = some (j, rest.map some)

theorem ends_cons (h : c = ',' ∨ c = ']' ∨ c = '\x7d') : Ends (c :: rest) := by
  rintro d ⟨⟩
  exact h

theorem readItems_last {x : Json} {more : List Piece} (h : readValue fuel ps = some (x, some ']' :: more)) :
    readItems (fuel + 1) ps = some ([x], more) := by
  rw [readItems, h]
  rfl

theorem readItems_more {x : Json} {xs : List Json} {more rest : List Piece}
    (h : readValue fuel ps = some (x, some ',' :: more)) (hxs : readItems fuel more = some (xs, rest)) :
    readItems (fuel + 1) ps = some (x :: xs, rest) := by
  rw [readItems, h]
  simp only [Option.bind_eq_bind, Option.bind_some, skipBlanks_cons (by decide : ',' ∉ [' ', '\n', '\t', '\r']), hxs]
  rfl

/-- each item takes one unit of fuel and at least one character, so the fuel lasts for them all -/
theorem readItems_write (hplain : ∀ x ∈ items, Plain x) (hback : ∀ x ∈ items, ReadsBack x) (hne : items ≠ [])
    (hfuel : 2 * (writeItems items rest).length ≤ fuel + 1 + 2 * rest.length) :
    readItems fuel ((writeItems items rest).map some) = some (items, rest.map some) := by
  induction items generalizing fuel with
  | nil => exact absurd rfl hne
  | cons x xs ih =>
    obtain ⟨hx, hxs⟩ := List.forall_mem_cons.1 hplain
    obtain ⟨hbackx, hbackxs⟩ := List.forall_mem_cons.1 hback
    cases xs with
    | nil =>
      have hlength := length_write hx (']' :: rest)
      rw [writeItems] at hfuel ⊢
      rw [List.length_cons] at hlength
      obtain ⟨fuel, rfl⟩ := Nat.exists_add_one_eq.2 (by omega : 0 < fuel)
      exact readItems_last (hbackx fuel (']' :: rest) (ends_cons (by decide)) (by rw [List.length_cons]; omega))
    | cons y ys =>
      have hlength := length_write hx (',' :: writeItems (y :: ys) rest)
      have hmore := length_writeItems (fun z hz => length_write (hxs z hz)) rest
      have hwrite : writeItems (x :: y :: ys) rest = write x (',' :: writeItems (y :: ys) rest) := rfl
      rw [hwrite] at hfuel ⊢
      rw [List.length_cons] at hlength
      obtain ⟨fuel, rfl⟩ := Nat.exists_add_one_eq.2 (by omega : 0 < fuel)
      exact readItems_more (hbackx fuel _ (ends_cons (by decide)) (by rw [List.length_cons]; omega))
        (ih hxs hbackxs (List.cons_ne_nil _ _) (by omega))

theorem readMembers_last {k : Option String} {v : Json} {name value more : List Piece}
    (hname : readLiteral name = some (k, some ':' :: value))
    (hvalue : readValue fuel value = some (v, some '\x7d' :: more)) :
    readMembers (fuel + 1) (some '"' :: name) = some ([(k, v)], more) := by
  rw [readMembers, skipBlanks_cons (by decide)]
  simp only [hname, Option.bind_eq_bind, Option.bind_some, skipBlanks_cons (by decide : ':' ∉ [' ', '\n', '\t', '\r']),
    hvalue, skipBlanks_cons (by decide : '\x7d' ∉ [' ', '\n', '\t', '\r'])]
  rfl

theorem readMembers_more {k : Option String} {v : Json} {ms : List (Option String × Json)}
    {name value more rest : List Piece} (hname : readLiteral name = some (k, some ':' :: value))
    (hvalue : readValue fuel value = some (v, some ',' :: more)) (hms : readMembers fuel more = some (ms, rest)) :
    readMembers (fuel + 1) (some '"' :: name) = some ((k, v) :: ms, rest) := by
  rw [readMembers, skipBlanks_cons (by decide)]
  simp only [hname, Option.bind_eq_bind, Option.bind_some, skipBlanks_cons (by decide : ':' ∉ [' ', '\n', '\t', '\r']),
    hvalue, skipBlanks_cons (by decide : ',' ∉ [' ', '\n', '\t', '\r']), hms]
  rfl

/-- a literal behind its opening quote -/
theorem writeLiteral_some (s : String) (rest : List Char) : (writeLiteral (some s) rest).map some =
    some '"' :: ((s.toList.flatMap escape).map some ++ some '"' :: rest.map some) := by
  simp only [writeLiteral, writeString, Option.elim_some, List.map_cons, List.map_append]

theorem readMembers_write (hplain : ∀ m ∈ members, Plain m.2) (hback : ∀ m ∈ members, ReadsBack m.2)
    (hne : members ≠ []) (hfuel : 2 * (writeMembers (named members) rest).length ≤ fuel + 1 + 2 * rest.length) :
    readMembers fuel ((writeMembers (named members) rest).map some) = some (named members, rest.map some) := by
  induction members generalizing fuel with
  | nil => exact absurd rfl hne
  | cons m ms ih =>
    obtain ⟨k, v⟩ := m
    obtain ⟨hv, hms⟩ : Plain v ∧ ∀ m ∈ ms, Plain m.2 := List.forall_mem_cons.1 hplain
    obtain ⟨hbackv, hbackms⟩ : ReadsBack v ∧ ∀ m ∈ ms, ReadsBack m.2 := List.forall_mem_cons.1 hback
    cases ms with
    | nil =>
      have hwrite : writeMembers (named [(k, v)]) rest = writeLiteral (some k) (':' :: write v ('\x7d' :: rest)) := rfl
      have hname := length_writeString k.toList (':' :: write v ('\x7d' :: rest))
      have hlength := length_write hv ('\x7d' :: rest)
      rw [hwrite] at hfuel ⊢
      rw [writeLiteral, Option.elim_some] at hfuel
      rw [List.length_cons] at hname hlength
      obtain ⟨fuel, rfl⟩ := Nat.exists_add_one_eq.2 (by omega : 0 < fuel)
      rw [writeLiteral_some]
      exact readMembers_last (readLiteral_text k _)
        (hbackv fuel ('\x7d' :: rest) (ends_cons (by decide)) (by rw [List.length_cons]; omega))
    | cons m' ms =>
      have hwrite : writeMembers (named ((k, v) :: m' :: ms)) rest =
        writeLiteral (some k) (':' :: write v (',' :: writeMembers (named (m' :: ms)) rest)) := rfl
      have hname := length_writeString k.toList (':' :: write v (',' :: writeMembers (named (m' :: ms)) rest))
      have hlength := length_write hv (',' :: writeMembers (named (m' :: ms)) rest)
      have hmore := length_writeMembers (fun m hm => length_write (hms m hm)) rest
      rw [hwrite] at hfuel ⊢
      rw [writeLiteral, Option.elim_some] at hfuel
      rw [List.length_cons] at hname hlength
      obtain ⟨fuel, rfl⟩ := Nat.exists_add_one_eq.2 (by omega : 0 < fuel)
      rw [writeLiteral_some]
      exact readMembers_more (readLiteral_text k _)
        (hbackv fuel _ (ends_cons (by decide)) (by rw [List.length_cons]; omega))
        (ih hms hbackms (List.cons_ne_nil _ _) (by omega))

theorem opens_writeItems (hplain : ∀ x ∈ items, Plain x) (hne : items ≠ []) (rest : List Char) :
    ∃ c cs, writeItems items rest = c :: cs ∧ Opens c := by
  cases items with
  | nil => exact absurd rfl hne
  | cons x xs =>
    have hx : Plain x := (List.forall_mem_cons.1 hplain).1
    cases xs with
    | nil => exact opens_write hx _
    | cons y ys => exact opens_write hx _

/-- some fuel there always is -/
theorem readsBack_of (hplain : Plain j) (h : ∀ fuel rest, Ends rest →
    2 * (write j rest).length ≤ fuel + 1 + 2 * rest.length →
      readValue (fuel + 1) ((write j rest).map some) = some (j, rest.map some)) : ReadsBack j := by
  intro fuel rest hrest hfuel
  have hlength := length_write hplain rest
  obtain ⟨fuel, rfl⟩ := Nat.exists_add_one_eq.2 (by omega : 0 < fuel)
  exact h fuel rest hrest hfuel

theorem readsBack_int {n : Int} (low : -9223372036854775808 ≤ n) (high : n < 18446744073709551616) :
    ReadsBack (.int n) := by
  refine readsBack_of (.int low high) fun fuel rest hrest _ => ?_
  obtain ⟨c, cs, hcs, hc⟩ := signedDecimal_cons n
  have hwrite : write (.int n) rest = signedDecimal n ++ rest := rfl
  have hread := readNumber_signedDecimal low high hrest
  rw [hcs, List.cons_append, List.map_cons] at hread
  rw [hwrite, hcs, List.cons_append, List.map_cons, readValue_number hc, hread]
  rfl

theorem readsBack_text (s : String) : ReadsBack (.text s) := by
  refine readsBack_of (.text s) fun fuel rest _ _ => ?_
  have hwrite : write (.text s) rest = writeLiteral (some s) rest := rfl
  rw [hwrite, writeLiteral_some, readValue, skipBlanks_cons (by decide)]
  simp only [readLiteral_text]
  rfl

theorem readsBack_array (hplain : ∀ x ∈ items, Plain x) (hback : ∀ x ∈ items, ReadsBack x) :
    ReadsBack (.array items) := by
  refine readsBack_of (.array hplain) fun fuel rest _ hfuel => ?_
  rw [write] at hfuel ⊢
  rw [List.length_cons] at hfuel
  by_cases hne : items = []
  · subst hne
    rfl
  · obtain ⟨c, cs, hcs, hc⟩ := opens_writeItems hplain hne rest
    have hread : readItems fuel ((writeItems items rest).map some) = some (items, rest.map some) :=
      readItems_write hplain hback hne (by omega)
    rw [hcs, List.map_cons] at hread
    rw [hcs, List.map_cons, List.map_cons, readValue_array hc, hread]
    rfl

theorem writeMembers_cons (hne : members ≠ []) (rest : List Char) :
    ∃ cs, writeMembers (named members) rest = '"' :: cs := by
  cases members with
  | nil => exact absurd rfl hne
  | cons m ms => cases ms <;> exact ⟨_, rfl⟩

theorem readsBack_record (hplain : ∀ m ∈ members, Plain m.2) (hback : ∀ m ∈ members, ReadsBack m.2) :
    ReadsBack (.record members) := by
  refine readsBack_of (.record hplain) fun fuel rest _ hfuel => ?_
  have hwrite : write (.record members) rest = '\x7b' :: writeMembers (named members) rest := rfl
  rw [hwrite] at hfuel ⊢
  rw [List.length_cons] at hfuel
  by_cases hne : members = []
  · subst hne
    rfl
  · obtain ⟨cs, hcs⟩ := writeMembers_cons hne rest
    have hread : readMembers fuel ((writeMembers (named members) rest).map some) =
        some (named members, rest.map some) := readMembers_write hplain hback hne (by omega)
    rw [hcs, List.map_cons] at hread
    rw [hcs, List.map_cons, List.map_cons, readValue_object, hread]
    rfl

/-- **A value is read back in front of what may follow it.** -/
theorem readValue_write (h : Plain j) : ReadsBack j := by
  induction h with
  | null => exact readsBack_of .null fun _ _ _ _ => rfl
  | bool b => exact readsBack_of (.bool b) fun _ _ _ _ => by cases b <;> rfl
  | int low high => exact readsBack_int low high
  | text s => exact readsBack_text s
  | array hplain ih => exact readsBack_array hplain ih
  | record hplain ih => exact readsBack_record hplain ih

/-- **A value is read back from its text.** -/
theorem readText_render (h : Plain j) : readText j.render = some j := by
  have hpieces : ofText j.render = (write j []).map some := by rw [ofText, render, String.toList_ofList]
  have hread : readValue (2 * (ofText j.render).length + 2) ((write j []).map some) = some (j, []) := by
    refine readValue_write h _ [] nofun ?_
    rw [hpieces, List.length_map]
    omega
  rw [readText, read, hpieces] at *
  rw [hread]
  rfl

end AccountStats.Json
