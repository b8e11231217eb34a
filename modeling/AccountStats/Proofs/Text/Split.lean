import Mathlib.Tactic
import AccountStats.Text.Split
/-
Where a text that was put together is cut.

Results:
- `splitOnce_append`, `splitLast_append`: the parts on both sides of a separator may hold separators of their own;
- `splitAround_append`: a mark is found where it was put or before, and what follows does not matter for that;
- `marked_isPrefix_iff`: nor does it for whether the text begins with a given word and a mark;
- `splitOn_join`: parts that were joined are the parts that the text is cut into, if no separator is in them;
- `splitOnce_eq_some_iff`, `splitLast_eq_some_iff`: the first cut is at a separator with none before it, the last cut at
  one with none behind it.
-/
namespace AccountStats.Text

/-- what stands before the first separator, or all of it -/
def beforeFirst (sep : Char) (cs : List Char) : List Char := ((splitOnce sep cs).map Prod.fst).getD cs

/-- what stands behind the last separator, or all of it -/
def afterLast (sep : Char) (cs : List Char) : List Char := (beforeFirst sep cs.reverse).reverse

theorem beforeFirst_cons {sep c : Char} (hc : c ≠ sep) (cs : List Char) :
    beforeFirst sep (c :: cs) = c :: beforeFirst sep cs := by
  rw [beforeFirst, beforeFirst, splitOnce, if_neg hc]
  cases splitOnce sep cs <;> rfl

/-- **The first separator is the one put there, or one before it.** -/
theorem splitOnce_append (sep : Char) (a b : List Char) :
    ∃ more, splitOnce sep (a ++ sep :: b) = some (beforeFirst sep a, more ++ b) := by
  induction a with
  | nil => exact ⟨[], if_pos rfl⟩
  | cons c cs ih =>
    by_cases hc : c = sep
    · refine ⟨cs ++ [sep], ?_⟩
      rw [List.cons_append, splitOnce, if_pos hc, beforeFirst, splitOnce, if_pos hc, List.append_assoc]
      rfl
    · obtain ⟨more, hmore⟩ := ih
      refine ⟨more, ?_⟩
      rw [List.cons_append, splitOnce, if_neg hc, hmore, beforeFirst_cons hc]
      rfl

/-- **The last separator is the one put there, or one behind it.** -/
theorem splitLast_append (sep : Char) (a b : List Char) :
    ∃ more, splitLast sep (a ++ sep :: b) = some (a ++ more, afterLast sep b) := by
  obtain ⟨more, hmore⟩ := splitOnce_append sep b.reverse a.reverse
  refine ⟨more.reverse, ?_⟩
  have hreverse : (a ++ sep :: b).reverse = b.reverse ++ sep :: a.reverse := by simp
  rw [splitLast, hreverse, hmore, Option.map_some]
  dsimp only
  rw [List.reverse_append, List.reverse_reverse, afterLast]

/-! ## Marks -/

variable {mark cs a b : List Char}

theorem splitAround_front (mark b : List Char) : splitAround mark (mark ++ b) = some ([], b) := by
  cases hcs : mark ++ b with
  | nil =>
    obtain ⟨rfl, rfl⟩ := List.append_eq_nil_iff.1 hcs
    rfl
  | cons c cs =>
    have hfound : mark.isPrefixOf? (c :: cs) = some b := List.isPrefixOf?_eq_some_iff_append_eq.2 hcs
    rw [splitAround, hfound]

theorem splitAround_cons {c : Char} (h : ¬ mark <+: c :: cs) :
    splitAround mark (c :: cs) = (splitAround mark cs).map fun p => (c :: p.1, p.2) := by
  have hnot : mark.isPrefixOf? (c :: cs) = none :=
    Option.eq_none_iff_forall_ne_some.2 fun b hb => h ⟨b, List.isPrefixOf?_eq_some_iff_append_eq.1 hb⟩
  rw [splitAround, hnot]

/-- **The first mark is the one put there, or one before it**, whatever follows. -/
theorem splitAround_append (mark a : List Char) :
    ∃ front back, a ++ mark = front ++ mark ++ back ∧
      ∀ b, splitAround mark (a ++ mark ++ b) = some (front, back ++ b) := by
  induction a with
  | nil => exact ⟨[], [], by simp, fun b => splitAround_front mark b⟩
  | cons c cs ih =>
    by_cases h : mark <+: c :: (cs ++ mark)
    · obtain ⟨back, hback⟩ := h
      refine ⟨[], back, hback.symm, fun b => ?_⟩
      rw [List.cons_append, ← hback, List.append_assoc]
      exact splitAround_front mark _
    · obtain ⟨front, back, hcut, hfound⟩ := ih
      refine ⟨c :: front, back, congrArg (c :: ·) hcut, fun b => ?_⟩
      -- what follows does not make a mark of what is long enough already
      have hnot : ¬ mark <+: c :: (cs ++ mark ++ b) := by
        have hlength : mark.length ≤ (c :: (cs ++ mark)).length := by
          rw [List.length_cons, List.length_append]
          omega
        rwa [← List.cons_append, List.isPrefix_append_of_length hlength]
      rw [List.cons_append, List.cons_append, splitAround_cons hnot, hfound]
      rfl

/-- what was cut is the text -/
theorem eq_of_splitAround (h : splitAround mark cs = some (a, b)) : cs = a ++ mark ++ b := by
  induction cs generalizing a with
  | nil =>
    rw [splitAround] at h
    split at h
    · next hmark =>
      cases h
      rw [hmark]
      rfl
    · cases h
  | cons c cs ih =>
    by_cases hfront : mark <+: c :: cs
    · obtain ⟨back, hback⟩ := hfront
      rw [← hback, splitAround_front] at h
      cases h
      exact hback.symm
    · rw [splitAround_cons hfront] at h
      obtain ⟨⟨front, back⟩, hcut, heq⟩ := Option.map_eq_some_iff.1 h
      cases heq
      rw [ih hcut]
      rfl

/-- whether a text begins with a mark behind a word is seen as far as that mark goes, if the word has none of its own -/
theorem marked_isPrefix_iff {m : Char} {w : List Char} (h : m ∉ w) (ms a b : List Char) :
    w ++ m :: ms <+: a ++ m :: ms ++ b ↔ w ++ m :: ms <+: a ++ m :: ms := by
  by_cases hlength : w.length ≤ a.length
  · refine List.isPrefix_append_of_length ?_
    rw [List.length_append, List.length_append]
    omega
  · have hnot (b : List Char) : ¬ w ++ m :: ms <+: a ++ m :: ms ++ b := by
      intro hprefix
      have hword : w <+: a ++ m :: ms ++ b := (List.prefix_append ..).trans hprefix
      have hmark : a ++ [m] <+: a ++ m :: ms ++ b := ⟨ms ++ b, by simp⟩
      have hinside : a ++ [m] <+: w := List.prefix_of_prefix_length_le hmark hword (by
        rw [List.length_append, List.length_singleton]
        omega)
      exact h (hinside.subset (by simp))
    have hself := hnot []
    rw [List.append_nil] at hself
    exact iff_of_false (hnot b) hself

/-! ## Parts that were joined -/

variable {sep : Char} {parts : List (List Char)}

theorem splitOn_of_notMem (h : sep ∉ cs) : splitOn sep cs = [cs] := by
  induction cs with
  | nil => rfl
  | cons c cs ih =>
    obtain ⟨hc, hcs⟩ := List.ne_and_not_mem_of_not_mem_cons h
    rw [splitOn, if_neg hc.symm, ih hcs]

theorem splitOn_append (h : sep ∉ a) (b : List Char) : splitOn sep (a ++ sep :: b) = a :: splitOn sep b := by
  induction a with
  | nil => simp [splitOn]
  | cons c cs ih =>
    obtain ⟨hc, hcs⟩ := List.ne_and_not_mem_of_not_mem_cons h
    rw [List.cons_append, splitOn, if_neg hc.symm, ih hcs]

/-- **What was joined is cut into the same parts.** -/
theorem splitOn_join (hne : parts ≠ []) (h : ∀ part ∈ parts, sep ∉ part) : splitOn sep (join [sep] parts) = parts := by
  induction parts with
  | nil => exact absurd rfl hne
  | cons p ps ih =>
    obtain ⟨hp, hps⟩ := List.forall_mem_cons.1 h
    cases ps with
    | nil => exact splitOn_of_notMem hp
    | cons q qs =>
      have hjoin : join [sep] (p :: q :: qs) = p ++ sep :: join [sep] (q :: qs) := by simp [join]
      rw [hjoin, splitOn_append hp, ih (List.cons_ne_nil q qs) hps]

theorem notMem_of_mem_splitOn {part : List Char} (h : part ∈ splitOn sep cs) : sep ∉ part := by
  induction cs generalizing part with
  | nil =>
    rw [splitOn, List.mem_singleton] at h
    simp [h]
  | cons c cs ih =>
    rw [splitOn] at h
    split at h
    · rcases List.mem_cons.1 h with rfl | h
      · exact List.not_mem_nil
      · exact ih h
    · next hc =>
      cases hcuts : splitOn sep cs with
      | nil => exact absurd hcuts (splitOn_ne_nil sep cs)
      | cons first others =>
        rw [hcuts] at h ih
        rcases List.mem_cons.1 h with rfl | h
        · simpa [Ne.symm hc] using ih List.mem_cons_self
        · exact ih (List.mem_cons_of_mem _ h)

theorem mem_join {seps part : List Char} {c : Char} (hpart : part ∈ parts) (hc : c ∈ part) : c ∈ join seps parts := by
  induction parts with
  | nil => cases hpart
  | cons p ps ih =>
    cases ps with
    | nil => rwa [join, ← List.mem_singleton.1 hpart]
    | cons q qs =>
      rw [join, List.mem_append, List.mem_append]
      rcases List.mem_cons.1 hpart with rfl | hpart
      · exact .inl (.inl hc)
      · exact .inr (ih hpart)
      · exact List.cons_ne_nil q qs

/-- each character of a part is one of the text -/
theorem mem_of_mem_splitOn {part : List Char} {c : Char} (hpart : part ∈ splitOn sep cs) (hc : c ∈ part) : c ∈ cs :=
  join_splitOn sep cs ▸ mem_join hpart hc

/-- the end of a separator may as well be taken for the beginning of each part but the first -/
theorem join_append (sep more p : List Char) (ps : List (List Char)) :
    join (sep ++ more) (p :: ps) = join sep (p :: ps.map (more ++ ·)) := by
  induction ps generalizing p with
  | nil => rfl
  | cons q qs ih =>
    have hjoin (sep r : List Char) (rs : List (List Char)) : join sep (p :: r :: rs) = p ++ sep ++ join sep (r :: rs) :=
      rfl
    have hmore : join sep ((more ++ q) :: qs.map (more ++ ·)) = more ++ join sep (q :: qs.map (more ++ ·)) := by
      cases qs <;> simp [join]
    rw [hjoin, ih, List.map_cons, hjoin, hmore]
    simp

/-- **The first cut is at a separator with none before it.** -/
theorem splitOnce_eq_some_iff : splitOnce sep cs = some (a, b) ↔ cs = a ++ sep :: b ∧ sep ∉ a := by
  constructor
  · intro h
    induction cs generalizing a with
    | nil => cases h
    | cons c cs ih =>
      rw [splitOnce] at h
      split at h
      · next hc =>
        cases h
        exact ⟨by rw [hc]; rfl, List.not_mem_nil⟩
      · next hc =>
        obtain ⟨⟨front, back⟩, hfront, heq⟩ := Option.map_eq_some_iff.1 h
        cases heq
        obtain ⟨rfl, hnot⟩ := ih hfront
        exact ⟨rfl, List.not_mem_cons_of_ne_of_not_mem (Ne.symm hc) hnot⟩
  · rintro ⟨rfl, h⟩
    induction a with
    | nil => exact if_pos rfl
    | cons c cs ih =>
      obtain ⟨hc, hcs⟩ := List.ne_and_not_mem_of_not_mem_cons h
      rw [List.cons_append, splitOnce, if_neg hc.symm, ih hcs]
      rfl

/-- **The last cut is at a separator with none behind it.** -/
theorem splitLast_eq_some_iff : splitLast sep cs = some (a, b) ↔ cs = a ++ sep :: b ∧ sep ∉ b := by
  have hreverse : cs.reverse = b.reverse ++ sep :: a.reverse ↔ cs = a ++ sep :: b := by
    rw [← List.reverse_inj, List.reverse_reverse]
    simp
  have hcuts : splitOnce sep cs.reverse = some (b.reverse, a.reverse) ↔ cs = a ++ sep :: b ∧ sep ∉ b := by
    rw [splitOnce_eq_some_iff, hreverse, List.mem_reverse]
  rw [splitLast, Option.map_eq_some_iff, ← hcuts]
  constructor
  · rintro ⟨⟨back, front⟩, hcut, heq⟩
    cases heq
    rw [hcut, List.reverse_reverse, List.reverse_reverse]
  · intro hcut
    exact ⟨_, hcut, Prod.ext (List.reverse_reverse a) (List.reverse_reverse b)⟩

end AccountStats.Text
