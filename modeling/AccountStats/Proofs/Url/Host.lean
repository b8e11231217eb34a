import Mathlib.Tactic
import AccountStats.Url.Authority
import AccountStats.Proofs.Json.Shape
import AccountStats.Proofs.Url.Reader
/-
Names and addresses of hosts.

Results:
- `ofBytes?_name`, `isPlain_name`: a name in ASCII is put into lower case, if no label of it is in Punycode, and is in
  plain form then;
- `label?_basic`: Punycode of ASCII is no label;
- `webHost_name`, `webHost_quad`: a host of the web is such a name, or the address that its four bytes make.
-/
namespace AccountStats.Url

open AccountStats.Text

variable {c : Char} {cs label : List Char}

/-! ## Names -/

namespace Domain

/-- a name in ASCII, no label of which is in Punycode -/
structure Name (cs : List Char) : Prop where
  plain : ∀ c ∈ cs, Url.isPlain c = true
  unescaped : '%' ∉ cs
  labels : ∀ label ∈ splitOn '.' (cs.map Char.toLower), ¬ "xn--".toList <+: label

theorem isPlain_toLower (h : Url.isPlain c = true) : Url.isPlain c.toLower = true := by
  by_cases hupper : c.isUpper
  · have halpha : c.isAlpha = true := by rw [Char.isAlpha, hupper, Bool.true_or]
    exact isPlain_of_isAlphanum (by rw [Char.isAlphanum, Char.isAlpha_toLower_eq_isAlpha, halpha, Bool.true_or])
  · rwa [Char.toLower_eq_of_not_isUpper hupper]

theorem plain?_ascii (h : Url.isPlain c = true) (hpercent : c ≠ '%') : plain? c = some [c.toLower] := by
  have hrange := range_of_isPlain h
  have hdelete : c.toNat ≠ 0x7F :=
    fun heq => ne_of_isPlain h (by decide : Url.isPlain '\x7f' = false) (Char.toNat_inj.1 heq)
  have hreserved : c ∉ reserved := by
    intro hmem
    have hall : reserved.all (fun r => !Url.isPlain r || r == '%') = true := by rfl
    have hc := List.all_eq_true.1 hall c hmem
    rw [h] at hc
    exact hpercent (beq_iff_eq.1 hc)
  have hfine : ¬ (c.toNat ≤ 0x20 ∨ c.toNat = 0x7F ∨ c ∈ reserved) := by
    rintro (hlow | heq | hmem)
    · exact absurd hrange.1 (Nat.not_lt.2 hlow)
    · exact hdelete heq
    · exact hreserved hmem
  rw [plain?, if_pos hrange.2, plainAscii?, if_neg hfine]

/-- of ASCII, only capital letters are not in plain form, -/
theorem isUnfolded_ascii (h : c.toNat < 128) : c.isUpper = false → isUnfolded c = false :=
  forall_ascii (P := fun c => c.isUpper = false → isUnfolded c = false) (by decide +kernel) h

/-- and nothing is written from right to left -/
theorem direction_ascii (h : c.toNat < 128) : direction c = .left ∨ direction c = .number ∨ direction c = .neutral := by
  unfold direction
  split
  · exact .inl rfl
  · split
    · exact .inr (.inl rfl)
    · rw [decide_eq_true h, Bool.true_or, if_pos rfl]
      exact .inr (.inr rfl)

theorem joins_ascii (h : ∀ c ∈ cs, c.toNat < 128) (before : Option Char) : joins before cs = true := by
  induction cs generalizing before with
  | nil => rfl
  | cons c cs ih =>
    obtain ⟨hc, hcs⟩ := List.forall_mem_cons.1 h
    have hjoiner : joiners.contains c = false := by
      rw [Bool.eq_false_iff]
      intro hmem
      have hall : joiners.all (fun r => 128 ≤ r.toNat) = true := by rfl
      exact absurd hc (Nat.not_lt.2 (of_decide_eq_true (List.all_eq_true.1 hall c (List.contains_iff_mem.1 hmem))))
    rw [joins, hjoiner, Bool.not_false, Bool.true_or, Bool.true_and]
    exact ih hcs _

theorem isLabel_ascii (h : ∀ c ∈ label, c.toNat < 128) : isLabel label = true := by
  rw [isLabel, joins_ascii h, Bool.and_true]
  cases label with
  | nil => rfl
  | cons c cs =>
    rw [List.head?_cons, Option.map_some, isMark_ascii (h c List.mem_cons_self)]
    rfl

theorem hasRight_ascii (h : ∀ c ∈ label, c.toNat < 128) : hasRight label = false := by
  rw [hasRight, List.any_eq_false]
  intro c hc
  rcases direction_ascii (h c hc) with hd | hd | hd <;> simp [hd]

theorem areLabels_ascii {labels : List (List Char)} (h : ∀ label ∈ labels, ∀ c ∈ label, c.toNat < 128) :
    areLabels labels = true := by
  have hlabels : labels.all isLabel = true := List.all_eq_true.2 fun label hlabel => isLabel_ascii (h label hlabel)
  have hright : labels.any hasRight = false := by
    rw [List.any_eq_false]
    exact fun label hlabel => Bool.eq_false_iff.1 (hasRight_ascii (h label hlabel))
  rw [areLabels, hlabels, hright]
  rfl

/-- a label that is not in Punycode stands for itself -/
theorem label?_plain (h : ¬ "xn--".toList <+: label) : label? label = some label := by
  have hnone : "xn--".toList.isPrefixOf? label = none :=
    Option.eq_none_iff_forall_ne_some.2 fun code hcode => h ⟨code, List.isPrefixOf?_eq_some_iff_append_eq.1 hcode⟩
  rw [label?, hnone]

/-- **A name in ASCII is put into lower case.** -/
theorem ofBytes?_name (h : Name cs) : ofBytes? cs.utf8Encode = some (cs.map Char.toLower) := by
  have hdecoded : decodeUtf8 cs.utf8Encode = some (String.ofList cs) := by
    rw [← String.toByteArray_ofList]
    exact decodeUtf8_toUTF8 _
  have hplain : cs.mapM plain? = some (cs.map fun c => [c.toLower]) := by
    have hall := Json.mapM_map (g := id) fun c hc => plain?_ascii (h.plain c hc) fun heq => h.unescaped (heq ▸ hc)
    rwa [List.map_id] at hall
  have hflat : (cs.map fun c => [c.toLower]).flatten = cs.map Char.toLower := by
    rw [← List.flatMap_def, ← List.map_eq_flatMap]
  have hascii : ∀ label ∈ splitOn '.' (cs.map Char.toLower), ∀ c ∈ label, c.toNat < 128 := by
    intro label hlabel c hc
    obtain ⟨b, hb, rfl⟩ := List.mem_map.1 (mem_of_mem_splitOn hlabel hc)
    exact (range_of_isPlain (isPlain_toLower (h.plain b hb))).2
  have hlabels : (splitOn '.' (cs.map Char.toLower)).mapM label? = some (splitOn '.' (cs.map Char.toLower)) := by
    have hall := Json.mapM_map (g := id) fun label hlabel => label?_plain (h.labels label hlabel)
    rwa [List.map_id] at hall
  simp only [ofBytes?, hdecoded, String.toList_ofList, hplain, hflat, hlabels, areLabels_ascii hascii, bind, Option.bind,
    if_true]

/-- **A name is in plain form then.** -/
theorem isPlain_name (h : Name cs) : ∀ c ∈ cs.map Char.toLower, isPlain c = true := by
  intro c hc
  obtain ⟨b, hb, rfl⟩ := List.mem_map.1 hc
  have hplain := isPlain_toLower (h.plain b hb)
  have hpercent : b.toLower ≠ '%' := by
    intro heq
    by_cases hupper : b.isUpper
    · have halpha := Char.isAlpha_toLower_eq_isAlpha b
      rw [heq, Char.isAlpha.eq_def b, hupper] at halpha
      cases halpha
    · rw [Char.toLower_eq_of_not_isUpper hupper] at heq
      exact h.unescaped (heq ▸ hb)
  rw [isPlain, plain?_ascii hplain hpercent, Char.toLower_toLower_eq_toLower,
    isUnfolded_ascii (range_of_isPlain hplain).2 (Char.isUpper_toLower_eq_false b)]
  simp

/-- Punycode of ASCII is no label -/
theorem label?_basic (h : ∀ c ∈ cs, c.toNat < 128) : label? ("xn--".toList ++ cs ++ ['-']) = none := by
  have hsections : Punycode.sections (cs ++ ['-']) = (cs, []) := by
    simp [Punycode.sections, List.take_of_length_le]
  have hdecoded : Punycode.decode? (cs ++ ['-']) = some cs := by
    have hall : cs.all (fun c => decide (c.toNat < 128)) = true := List.all_eq_true.2 fun c hc => decide_eq_true (h c hc)
    simp only [Punycode.decode?, hsections, hall, if_true]
    rfl
  have hnone : cs.any (fun c => decide (128 ≤ c.toNat)) = false := by
    rw [List.any_eq_false]
    exact fun c hc hle => absurd (h c hc) (Nat.not_lt.2 (of_decide_eq_true hle))
  have hcode : "xn--".toList.isPrefixOf? ("xn--".toList ++ cs ++ ['-']) = some (cs ++ ['-']) := by
    rw [List.append_assoc]
    exact List.isPrefixOf?_eq_some_iff_append_eq.2 rfl
  rw [label?, hcode]
  dsimp only
  rw [hdecoded, Option.filter_some, hnone, Bool.false_and]
  rfl

end Domain

/-! ## Addresses -/

theorem octet?_decimal {n : Nat} (h : n < 256) : octet? (decimal n) = some n := by
  have hall : ∀ n < 256, octet? (decimal n) = some n := by decide +kernel
  exact hall n h

theorem part?_decimal {n : Nat} (h : n < 256) : part? (decimal n) = some n := by
  have hall : ∀ n < 256, part? (decimal n) = some n := by decide +kernel
  exact hall n h

section Quad

variable {a b d e : Nat}

/-- an address of 32 bits, byte by byte -/
def quad (a b d e : Nat) : List Char := join ['.'] [decimal a, decimal b, decimal d, decimal e]

theorem splitOn_quad : splitOn '.' (quad a b d e) = [decimal a, decimal b, decimal d, decimal e] := by
  have hdot (n : Nat) : '.' ∉ decimal n := fun hmem => absurd ((Digits.decimal n).digits '.' hmem) (by decide)
  exact splitOn_join (List.cons_ne_nil _ _) (by simp [hdot])

theorem parts_quad : parts (quad a b d e) = [decimal a, decimal b, decimal d, decimal e] := by
  rw [parts, splitOn_quad]
  simp [decimal_ne_nil]

theorem endsInNumber_quad : endsInNumber (quad a b d e) = true := by
  have hdigits := List.all_eq_true.2 (Digits.decimal e).digits
  simp [endsInNumber, parts_quad, decimal_ne_nil, hdigits]

/-- what the text of an address consists of -/
theorem mem_quad (hc : c ∈ quad a b d e) : c.isDigit = true ∨ c = '.' := by
  have hdigit {n : Nat} (hmem : c ∈ decimal n) := (Digits.decimal n).digits c hmem
  simp only [quad, join, List.mem_append, List.mem_singleton] at hc
  rcases hc with (hc | rfl) | (hc | rfl) | (hc | rfl) | hc
  · exact .inl (hdigit hc)
  · exact .inr rfl
  · exact .inl (hdigit hc)
  · exact .inr rfl
  · exact .inl (hdigit hc)
  · exact .inr rfl
  · exact .inl (hdigit hc)

theorem toLower_quad : (quad a b d e).map Char.toLower = quad a b d e := by
  have hsame : ∀ c ∈ quad a b d e, c.toLower = id c := by
    intro c hc
    refine Char.toLower_eq_of_not_isUpper ?_
    rcases mem_quad hc with hdigit | rfl
    · have hrange := range_of_isDigit hdigit
      simp only [Char.isUpper, decide_eq_true_eq, UInt32.le_iff_toNat_le, ge_iff_le]
      intro hupper
      exact absurd hrange.2 (Nat.not_le.2 (Nat.lt_of_lt_of_le (by decide) hupper.1))
    · decide
  rw [List.map_congr_left hsame, List.map_id]

theorem name_quad : Domain.Name (quad a b d e) where
  plain c hc := by
    rcases mem_quad hc with hdigit | rfl
    · exact isPlain_of_isAlphanum (by rw [Char.isAlphanum, hdigit, Bool.or_true])
    · rfl
  unescaped hmem := by
    rcases mem_quad hmem with hdigit | hdot
    · exact absurd hdigit (by decide)
    · exact absurd hdot (by decide)
  labels label hlabel hprefix := by
    rw [toLower_quad, splitOn_quad] at hlabel
    have hx : 'x' ∈ label := hprefix.subset (by simp)
    obtain ⟨n, rfl⟩ : ∃ n, label = decimal n := by
      simp only [List.mem_cons, List.not_mem_nil, or_false] at hlabel
      rcases hlabel with rfl | rfl | rfl | rfl <;> exact ⟨_, rfl⟩
    exact absurd ((Digits.decimal n).digits 'x' hx) (by decide)

variable (ha : a < 256) (hb : b < 256) (hd : d < 256) (he : e < 256)
include ha hb hd he

/-- **The four bytes of an address are read as that address.** -/
theorem dottedQuad?_quad : dottedQuad? (quad a b d e) = some (((a * 256 + b) * 256 + d) * 256 + e) := by
  simp [dottedQuad?, splitOn_quad, octet?_decimal, ha, hb, hd, he]

theorem ipv4?_quad : ipv4? (quad a b d e) = some (((a * 256 + b) * 256 + d) * 256 + e) := by
  simp [ipv4?, parts_quad, part?_decimal, ofParts?, ha, hb, hd, he]

end Quad

/-! ## Hosts of the web -/

theorem percentDecoded_plain (h : ∀ c ∈ cs, isPlain c = true) (hpercent : '%' ∉ cs) :
    percentDecoded cs = cs.utf8Encode := by
  have hbytes := bytes_ascii fun c hc => (range_of_isPlain (h c hc)).2
  rw [percentDecoded, (Escaped.of_notMem h hpercent).percentBytes, ← hbytes, Array.toArray_toList]

/-- a host that is not in brackets is a name, or the address that a name must be whose last part is a number -/
theorem webHost_of_name {name : List Char} {host : Host} (h : ∀ c ∈ cs, isPlain c = true) (hne : name ≠ [])
    (hname : Domain.ofBytes? (percentDecoded cs) = some name)
    (hhost : endsInNumber name = false ∧ host = .name name ∨
      endsInNumber name = true ∧ ∃ address, ipv4? name = some address ∧ host = .ipv4 address) :
    webHost cs = .ok host := by
  unfold webHost
  split
  · exact absurd (h '[' List.mem_cons_self) (by decide)
  · rw [hname]
    obtain ⟨c, cs, rfl⟩ := List.exists_cons_of_ne_nil hne
    rcases hhost with ⟨hnumber, rfl⟩ | ⟨hnumber, address, haddress, rfl⟩
    · simp only [hnumber, Bool.false_eq_true, if_false]
    · simp only [hnumber, if_true, haddress]

/-- **The host of a URL of the web is its name in lower case**, unless that ends in a number. -/
theorem webHost_name (h : Domain.Name cs) (hne : cs ≠ []) (hnumber : endsInNumber (cs.map Char.toLower) = false) :
    webHost cs = .ok (.name (cs.map Char.toLower)) := by
  have hname : Domain.ofBytes? (percentDecoded cs) = some (cs.map Char.toLower) := by
    rw [percentDecoded_plain h.plain h.unescaped, Domain.ofBytes?_name h]
  exact webHost_of_name h.plain (by simpa using hne) hname (.inl ⟨hnumber, rfl⟩)

/-- **Four bytes between dots are an address.** -/
theorem webHost_quad {a b d e : Nat} (ha : a < 256) (hb : b < 256) (hd : d < 256) (he : e < 256) :
    webHost (quad a b d e) = .ok (.ipv4 (((a * 256 + b) * 256 + d) * 256 + e)) := by
  have h : Domain.Name (quad a b d e) := name_quad
  have hname : Domain.ofBytes? (percentDecoded (quad a b d e)) = some (quad a b d e) := by
    rw [percentDecoded_plain h.plain h.unescaped, Domain.ofBytes?_name h, toLower_quad]
  have hne : quad a b d e ≠ [] := by simp [quad, join]
  exact webHost_of_name h.plain hne hname (.inr ⟨endsInNumber_quad, _, ipv4?_quad ha hb hd he, rfl⟩)

end AccountStats.Url
