import Mathlib.Tactic
import AccountStats.Text.Blank
/-
What is left of a text without the blanks at its ends.

Results:
- `trim_between`: of a text among blanks, which blanks neither begin nor end, the text itself;
- `between_of_trim`: what is left did stand among blanks;
- `tight_trim`: blanks neither begin nor end it.
-/
namespace AccountStats.Text

variable {cs text left right : List Char}

/-- blanks neither begin nor end the text -/
structure Tight (cs : List Char) : Prop where
  head : ∀ c ∈ cs.head?, isBlank c = false
  last : ∀ c ∈ cs.getLast?, isBlank c = false

theorem Tight.reverse (h : Tight cs) : Tight cs.reverse where
  head := by simpa using h.last
  last := by simpa using h.head

theorem tight_of_ends {c d : Char} (hc : isBlank c = false) (hd : isBlank d = false) (cs : List Char) :
    Tight (c :: cs ++ [d]) where
  head e he := by
    cases he
    exact hc
  last e he := by
    rw [List.getLast?_concat] at he
    cases he
    exact hd

theorem trimStart_append (h : ∀ c ∈ left, isBlank c = true) (cs : List Char) :
    trimStart (left ++ cs) = trimStart cs :=
  List.dropWhile_append_of_pos h

theorem trimStart_tight (h : Tight text) (hne : text ≠ []) (cs : List Char) :
    trimStart (text ++ cs) = text ++ cs := by
  cases text with
  | nil => exact absurd rfl hne
  | cons c text =>
    have hc : isBlank c = false := h.head c rfl
    simp [trimStart, hc]

/-- **Of a text among blanks the text itself is left.** -/
theorem trim_between (h : Tight text) (hleft : ∀ c ∈ left, isBlank c = true)
    (hright : ∀ c ∈ right, isBlank c = true) : trim (left ++ text ++ right) = text := by
  have hback : ∀ c ∈ right.reverse, isBlank c = true := by simpa using hright
  rw [trim, List.append_assoc, trimStart_append hleft]
  by_cases hne : text = []
  · have hall := trimStart_append hright []
    simp only [List.append_nil] at hall
    subst hne
    rw [List.nil_append, hall]
    rfl
  · have hfront := trimStart_append hback text.reverse
    have hend := trimStart_tight h.reverse (by simpa using hne) []
    simp only [List.append_nil] at hend
    rw [trimStart_tight h hne]
    simp only [trimStart] at hfront hend
    simp only [trimEnd, List.reverse_append, hfront, hend, List.reverse_reverse]

theorem trim_blanks_append (h : Tight text) (hleft : ∀ c ∈ left, isBlank c = true) : trim (left ++ text) = text := by
  simpa using trim_between h hleft (List.forall_mem_nil _)

theorem exists_trimStart (cs : List Char) :
    ∃ left, (∀ c ∈ left, isBlank c = true) ∧ cs = left ++ trimStart cs :=
  ⟨cs.takeWhile isBlank, List.all_eq_true.1 List.all_takeWhile, List.takeWhile_append_dropWhile.symm⟩

/-- **What is left did stand among blanks.** -/
theorem between_of_trim (cs : List Char) :
    ∃ left right, (∀ c ∈ left ++ right, isBlank c = true) ∧ cs = left ++ trim cs ++ right := by
  obtain ⟨left, hleft, hstart⟩ := exists_trimStart cs
  obtain ⟨right, hright, hend⟩ := exists_trimStart (trimStart cs).reverse
  refine ⟨left, right.reverse, ?_, ?_⟩
  · intro c hc
    rcases List.mem_append.1 hc with hc | hc
    · exact hleft c hc
    · exact hright c (List.mem_reverse.1 hc)
  · have hsplit : trimStart cs = trim cs ++ right.reverse := by
      rw [← List.reverse_reverse (trimStart cs), hend, List.reverse_append]
      rfl
    rw [List.append_assoc, ← hsplit]
    exact hstart

/-! ## What is left -/

theorem head_trimStart (cs : List Char) : ∀ c ∈ (trimStart cs).head?, isBlank c = false := by
  intro c hc
  have h := List.head?_dropWhile_not isBlank cs
  rw [← trimStart, hc] at h
  exact h

theorem trimEnd_prefix (cs : List Char) : trimEnd cs <+: cs := by
  have h := List.dropWhile_suffix isBlank (l := cs.reverse)
  rwa [← List.reverse_prefix, List.reverse_reverse] at h

/-- **Blanks neither begin nor end what is left.** -/
theorem tight_trim (cs : List Char) : Tight (trim cs) where
  head c hc := by
    obtain ⟨rest, hrest⟩ := trimEnd_prefix (trimStart cs)
    have hhead : (trim cs ++ rest).head? = some c := List.mem_head?_append_of_mem_head? hc
    exact head_trimStart cs c (hrest ▸ hhead)
  last c hc := by
    rw [trim, trimEnd, List.getLast?_reverse] at hc
    exact head_trimStart _ c hc

theorem trim_tight (h : Tight text) : trim text = text := by
  simpa using trim_between h (List.forall_mem_nil _) (List.forall_mem_nil _)

end AccountStats.Text
