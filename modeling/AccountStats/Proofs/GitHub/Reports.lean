import Mathlib
import AccountStats.GitHub.Quota
import AccountStats.Proofs.Text.Numerals
import AccountStats.Proofs.Text.Utf8
import AccountStats.Proofs.Time.WholeMicros
/-
What the headers of a response make of a quota.

Each of the two headers is read for itself: its first value counts, if that is a number among blanks. Results:
- `header?_eq_some_iff`, `header?_insert`: the first field of a name counts, and no other changes that;
- `shows_iff`, `field_eq_some_iff`: what is read of a value is the text among its blanks;
- `remaining_eq_some_iff`, `resetAt_eq_some_iff`: what a report says, header by header;
- `headers_recorded`: what a quota is after the report was recorded.
-/
namespace AccountStats

namespace Http

open Text (Tight isBlank trim)

variable {name spelling : String} {value : ByteArray} {text : List Char} {hs before after : Headers}

/-! ## Fields -/

/-- the first field of that name, which may be spelled in letters of either case, has that value -/
def First (name : String) (value : ByteArray) (hs : Headers) : Prop :=
  ∃ before spelling after, hs = before ++ (spelling, value) :: after ∧ Text.lowered spelling = name ∧
    ∀ h ∈ before, Text.lowered h.1 ≠ name

/-- **The first field of a name counts.** -/
theorem header?_eq_some_iff : header? name hs = some value ↔ First name value hs := by
  simp only [header?, Option.map_eq_some_iff, List.find?_eq_some_iff_append, decide_eq_true_eq, Bool.not_eq_true',
    decide_eq_false_iff_not]
  constructor
  · rintro ⟨⟨spelling, _⟩, ⟨hname, before, after, hsplit, hbefore⟩, rfl⟩
    exact ⟨before, spelling, after, hsplit, hname, hbefore⟩
  · rintro ⟨before, spelling, after, hsplit, hname, hbefore⟩
    exact ⟨(spelling, value), ⟨hname, before, after, hsplit, hbefore⟩, rfl⟩

/-- **Another field changes nothing**, whether it has another name or comes after one of that name. -/
theorem header?_insert (h : Text.lowered spelling ≠ name ∨ ∃ f ∈ before, Text.lowered f.1 = name) :
    header? name (before ++ (spelling, value) :: after) = header? name (before ++ after) := by
  unfold header?
  rw [List.find?_append, List.find?_append]
  rcases h with hother | ⟨f, hf, hname⟩
  · rw [List.find?_cons_of_neg (by simpa using hother)]
  · have hfound : (before.find? fun h => Text.lowered h.1 = name).isSome = true := by
      rw [List.find?_isSome]
      exact ⟨f, hf, decide_eq_true hname⟩
    obtain ⟨g, hg⟩ := Option.isSome_iff_exists.1 hfound
    rw [hg, Option.some_or, Option.some_or]

/-! ## Values -/

/-- the characters of ASCII bytes -/
def characters (value : ByteArray) : List Char := value.data.toList.map fun b => .ofNat b.toNat

/-- visible ASCII, a blank or a tab -/
def Visible (b : UInt8) : Prop := (0x20 ≤ b ∧ b < 0x7F) ∨ b = 0x9

/-- a visible value that shows a text among blanks and tabs -/
structure Shows (value : ByteArray) (text : List Char) : Prop where
  visible : ∀ b ∈ value.data.toList, Visible b
  among : ∃ left right, (∀ c ∈ left ++ right, c = ' ' ∨ c = '\t') ∧ characters value = left ++ text ++ right

theorem visible_iff {b : UInt8} : Visible b ↔ (0x20 ≤ b.toNat ∧ b.toNat < 0x7F) ∨ b.toNat = 0x9 := by
  simp [Visible, UInt8.le_iff_toNat_le, UInt8.lt_iff_toNat_lt, ← UInt8.toNat_inj]

theorem headerText?_eq_some_iff : headerText? value = some text ↔
    (∀ b ∈ value.data.toList, Visible b) ∧ characters value = text := by
  simp only [headerText?, Visible, List.all_eq_true, Bool.or_eq_true, Bool.and_eq_true, decide_eq_true_eq, beq_iff_eq]
  split
  · next h => exact Option.some_inj.trans (and_iff_right h).symm
  · next h => exact ⟨nofun, fun hvisible => absurd hvisible.1 h⟩

/-- of the characters of a value, blanks and tabs only are blank -/
theorem blank_of_visible {c : Char} (h : ∀ b ∈ value.data.toList, Visible b)
    (hc : c ∈ characters value) (hblank : isBlank c = true) : c = ' ' ∨ c = '\t' := by
  obtain ⟨b, hb, rfl⟩ := List.mem_map.1 hc
  have hrange := visible_iff.1 (h b hb)
  have hnat : (Char.ofNat b.toNat).toNat = b.toNat := by
    rw [Char.toNat_ofNat, if_pos (.inl (by omega))]
  simp only [isBlank, hnat, Bool.or_eq_true, Bool.and_eq_true, decide_eq_true_eq, beq_iff_eq] at hblank
  have hblanks : b.toNat = 32 ∨ b.toNat = 9 := by omega
  rcases hblanks with hb | hb
  · exact .inl (by rw [hb])
  · exact .inr (by rw [hb])

/-- **What is read of a value is the text among its blanks.** -/
theorem shows_iff (h : Tight text) :
    Shows value text ↔ ∃ whole, headerText? value = some whole ∧ trim whole = text := by
  simp only [headerText?_eq_some_iff]
  constructor
  · rintro ⟨hvisible, left, right, hblanks, hcharacters⟩
    refine ⟨_, ⟨hvisible, hcharacters⟩, Text.trim_between h ?_ ?_⟩
    · intro c hc
      rcases hblanks c (List.mem_append_left _ hc) with rfl | rfl <;> rfl
    · intro c hc
      rcases hblanks c (List.mem_append_right _ hc) with rfl | rfl <;> rfl
  · rintro ⟨whole, ⟨hvisible, rfl⟩, rfl⟩
    obtain ⟨left, right, hblanks, hsplit⟩ := Text.between_of_trim (characters value)
    refine ⟨hvisible, left, right, fun c hc => blank_of_visible hvisible ?_ (hblanks c hc), hsplit⟩
    rw [hsplit]
    rcases List.mem_append.1 hc with hc | hc <;> simp [hc]

/-- a text among blanks, as a value is written -/
def written (left text right : List Char) : ByteArray := (String.ofList (left ++ text ++ right)).toUTF8

theorem bytes_toUTF8 {cs : List Char} (h : ∀ c ∈ cs, c.toNat < 128) :
    (String.ofList cs).toUTF8.data.toList = cs.map fun c => .ofNat c.toNat := by
  rw [String.toUTF8_eq_toByteArray, String.toByteArray_ofList, Text.bytes_ascii h]

theorem characters_toUTF8 {cs : List Char} (h : ∀ c ∈ cs, c.toNat < 128) :
    characters (String.ofList cs).toUTF8 = cs := by
  have hback : ∀ c ∈ cs, Char.ofNat (UInt8.ofNat c.toNat).toNat = c := fun c hc => by
    rw [Text.toNat_byte (h c hc), Char.ofNat_toNat]
  rw [characters, bytes_toUTF8 h, List.map_map]
  exact (List.map_congr_left hback).trans (List.map_id cs)

/-- **A value that was written shows its text.** -/
theorem shows_written {left right : List Char} (hblanks : ∀ c ∈ left ++ right, c = ' ' ∨ c = '\t')
    (htext : ∀ c ∈ text, 0x20 ≤ c.toNat ∧ c.toNat < 0x7F) : Shows (written left text right) text := by
  have hnumber : ∀ c ∈ left ++ text ++ right, (0x20 ≤ c.toNat ∧ c.toNat < 0x7F) ∨ c.toNat = 0x9 := by
    intro c hc
    have hplace : c ∈ left ++ right ∨ c ∈ text := by
      simp only [List.mem_append] at hc ⊢
      tauto
    rcases hplace with hc | hc
    · rcases hblanks c hc with rfl | rfl <;> decide
    · exact .inl (htext c hc)
  have hascii : ∀ c ∈ left ++ text ++ right, c.toNat < 128 := fun c hc => by
    have hc := hnumber c hc
    omega
  refine ⟨fun b hb => ?_, left, right, hblanks, characters_toUTF8 hascii⟩
  rw [written, bytes_toUTF8 hascii] at hb
  obtain ⟨c, hc, rfl⟩ := List.mem_map.1 hb
  rw [visible_iff, Text.toNat_byte (hascii c hc)]
  exact hnumber c hc

/-- the first field of that name shows that text -/
def FirstShows (name : String) (text : List Char) (hs : Headers) : Prop :=
  ∃ value, First name value hs ∧ Shows value text

/-- **What is read of the first field of a name**, by a reader of texts that blanks neither begin nor end. -/
theorem field_eq_some_iff {α : Type} {read : List Char → Option α} {a : α}
    (h : ∀ text, read text = some a → Tight text) :
    ((header? name hs).bind fun value => (headerText? value).bind fun whole => read (trim whole)) = some a ↔
      ∃ text, FirstShows name text hs ∧ read text = some a := by
  simp only [Option.bind_eq_some_iff, FirstShows, header?_eq_some_iff]
  constructor
  · rintro ⟨value, hfirst, whole, hwhole, hread⟩
    exact ⟨_, ⟨value, hfirst, (shows_iff (h _ hread)).2 ⟨whole, hwhole, rfl⟩⟩, hread⟩
  · rintro ⟨text, ⟨value, hfirst, hshown⟩, hread⟩
    obtain ⟨whole, hwhole, rfl⟩ := (shows_iff (h text hread)).1 hshown
    exact ⟨value, hfirst, whole, hwhole, hread⟩

end Http

namespace GitHub

open Http Text

variable {hs : Headers}

/-! ## Reports -/

/-- the headers report so many requests left -/
def ReportsRemaining (hs : Headers) (n : UInt32) : Prop :=
  ∃ text, FirstShows QuotaReport.remainingHeader text hs ∧ Unsigned text n.toNat

/-- the headers report a second of the calendar, as a whole number of 64 bits -/
def ReportsReset (hs : Headers) (s : Int) : Prop :=
  ∃ text, FirstShows QuotaReport.resetHeader text hs ∧ Signed text s ∧ -8334601228800 ≤ s ∧ s ≤ 8210266876799

theorem remaining_ofHeaders (hs : Headers) : (QuotaReport.ofHeaders hs).remaining =
    (header? QuotaReport.remainingHeader hs).bind fun value => (headerText? value).bind fun whole =>
      (unsigned? 32 (trim whole)).bind fun n => some (UInt32.ofNat n) := rfl

theorem resetAt_ofHeaders (hs : Headers) : (QuotaReport.ofHeaders hs).resetAt =
    (header? QuotaReport.resetHeader hs).bind fun value => (headerText? value).bind fun whole =>
      (signed? 64 (trim whole)).bind Time.Instant.ofSeconds? := rfl

/-- **What a report says of the requests left.** -/
theorem remaining_eq_some_iff {n : UInt32} :
    (QuotaReport.ofHeaders hs).remaining = some n ↔ ReportsRemaining hs n := by
  have htight (text : List Char) (h : ((unsigned? 32 text).bind fun m => some (UInt32.ofNat m)) = some n) :
      Tight text := (word_eq_some_iff.1 h).tight
  rw [remaining_ofHeaders, field_eq_some_iff htight]
  simp only [word_eq_some_iff, ReportsRemaining]

theorem ofSeconds?_eq_some_iff {s : Int} {a : Time.Instant} :
    Time.Instant.ofSeconds? s = some a ↔ a.seconds = s ∧ a.nanos = 0 := by
  constructor
  · exact Time.Instant.parts_of_ofParts?
  · rintro ⟨rfl, hnanos⟩
    rw [Time.Instant.ofSeconds?, ← hnanos]
    exact Time.Instant.ofParts?_self a

/-- what is read as the start of a second -/
theorem second_eq_some_iff {text : List Char} {t : Time.Instant} :
    (signed? 64 text).bind Time.Instant.ofSeconds? = some t ↔ Signed text t.seconds ∧ t.nanos = 0 := by
  simp only [Option.bind_eq_some_iff, signed?_eq_some_iff, ofSeconds?_eq_some_iff]
  constructor
  · rintro ⟨_, ⟨hspelled, -⟩, rfl, hnanos⟩
    exact ⟨hspelled, hnanos⟩
  · rintro ⟨hspelled, hnanos⟩
    have hcalendar : -8334601228800 ≤ t.seconds ∧ t.seconds ≤ 8210266876799 := t.in_calendar
    refine ⟨t.seconds, ⟨hspelled, ?_⟩, rfl, hnanos⟩
    norm_num
    omega

/-- **What a report says of the next window**, which starts on a whole second. -/
theorem resetAt_eq_some_iff {t : Time.Instant} :
    (QuotaReport.ofHeaders hs).resetAt = some t ↔ ReportsReset hs t.seconds ∧ t.nanos = 0 := by
  have htight (text : List Char) (h : (signed? 64 text).bind Time.Instant.ofSeconds? = some t) : Tight text :=
    (second_eq_some_iff.1 h).1.tight
  rw [resetAt_ofHeaders, field_eq_some_iff htight]
  simp only [second_eq_some_iff, ReportsReset]
  constructor
  · rintro ⟨text, hshown, hspelled, hnanos⟩
    exact ⟨⟨text, hshown, hspelled, t.in_calendar⟩, hnanos⟩
  · rintro ⟨⟨text, hshown, hspelled, -⟩, hnanos⟩
    exact ⟨text, hshown, hspelled, hnanos⟩

/-! ## Recording -/

/-- what replaces a value that lacks a property has it just if it is there and has it -/
theorem forall_getD_iff {α : Type} {P : α → Prop} {o : Option α} (h : ∃ d, ¬ P d) :
    (∀ d, P (o.getD d)) ↔ ∃ a, o = some a ∧ P a := by
  obtain ⟨d, hd⟩ := h
  cases o with
  | none =>
    simp only [Option.getD_none, reduceCtorEq, false_and, exists_false, iff_false, not_forall]
    exact ⟨d, hd⟩
  | some a =>
    have : Nonempty α := ⟨d⟩
    simp only [Option.getD_some, Option.some_inj, exists_eq_left', forall_const]

theorem remaining_set_iff {n : UInt32} :
    (∀ q : Quota, (q.apply (.ofHeaders hs)).remaining = n) ↔ ReportsRemaining hs n := by
  have hother : ∃ d, ¬ d = n := ⟨n + 1, by simp⟩
  have hset := forall_getD_iff (o := (QuotaReport.ofHeaders hs).remaining) hother
  simp only [exists_eq_right] at hset
  rw [← remaining_eq_some_iff, ← hset]
  exact ⟨fun h d => h ⟨d, .epoch⟩, fun h q => h q.remaining⟩

theorem resetAt_set_iff {s : Int} :
    (∀ q : Quota, (q.apply (.ofHeaders hs)).resetAt.seconds = s ∧ (q.apply (.ofHeaders hs)).resetAt.nanos = 0) ↔
      ReportsReset hs s := by
  have hother : ∃ d : Time.Instant, ¬ (d.seconds = s ∧ d.nanos = 0) :=
    ⟨⟨0, 1, by decide, by decide, by decide⟩, nofun⟩
  have hset := forall_getD_iff (o := (QuotaReport.ofHeaders hs).resetAt) hother
  have hreport : (∃ t, (QuotaReport.ofHeaders hs).resetAt = some t ∧ t.seconds = s ∧ t.nanos = 0) ↔
      ReportsReset hs s := by
    simp only [resetAt_eq_some_iff]
    constructor
    · rintro ⟨t, ⟨h, -⟩, rfl, -⟩
      exact h
    · rintro ⟨text, hshown, hspelled, hcalendar⟩
      exact ⟨⟨s, 0, hcalendar, by decide, nofun⟩, ⟨⟨text, hshown, hspelled, hcalendar⟩, rfl⟩, rfl, rfl⟩
  rw [← hreport, ← hset]
  exact ⟨fun h d => h ⟨0, d⟩, fun h q => h q.resetAt⟩

/-- what recording the headers of a response makes of a quota -/
structure Recorded (hs : Headers) : Prop where
  /-- the headers set the requests left, whatever they were, to the number they report -/
  remaining : ∀ n, (∀ q : Quota, (q.apply (.ofHeaders hs)).remaining = n) ↔ ReportsRemaining hs n
  remaining_kept : (∀ n, ¬ ReportsRemaining hs n) → ∀ q : Quota, (q.apply (.ofHeaders hs)).remaining = q.remaining
  /-- and the next window to the second they report -/
  reset : ∀ s, (∀ q : Quota, (q.apply (.ofHeaders hs)).resetAt.seconds = s ∧
    (q.apply (.ofHeaders hs)).resetAt.nanos = 0) ↔ ReportsReset hs s
  reset_kept : (∀ s, ¬ ReportsReset hs s) → ∀ q : Quota, (q.apply (.ofHeaders hs)).resetAt = q.resetAt
  /-- a field of another name, or after one of the name, changes nothing -/
  remaining_frame : ∀ before spelling value after, hs = before ++ (spelling, value) :: after →
    (lowered spelling ≠ QuotaReport.remainingHeader ∨ ∃ f ∈ before, lowered f.1 = QuotaReport.remainingHeader) →
    ∀ q : Quota, (q.apply (.ofHeaders hs)).remaining = (q.apply (.ofHeaders (before ++ after))).remaining
  reset_frame : ∀ before spelling value after, hs = before ++ (spelling, value) :: after →
    (lowered spelling ≠ QuotaReport.resetHeader ∨ ∃ f ∈ before, lowered f.1 = QuotaReport.resetHeader) →
    ∀ q : Quota, (q.apply (.ofHeaders hs)).resetAt = (q.apply (.ofHeaders (before ++ after))).resetAt
  /-- a pair that was written, each number among blanks, is recorded as it is -/
  written : ∀ (n : UInt32) (t : Time.Instant) (left right left' right' : List Char), t.nanos = 0 →
    (∀ c ∈ left ++ right, c = ' ' ∨ c = '\t') → (∀ c ∈ left' ++ right', c = ' ' ∨ c = '\t') →
    First QuotaReport.remainingHeader (written left (decimal n.toNat) right) hs →
    First QuotaReport.resetHeader (written left' (signedDecimal t.seconds) right') hs →
    ∀ q : Quota, q.apply (.ofHeaders hs) = ⟨n, t⟩

/-- **The two headers are recorded independently and without loss.** -/
theorem headers_recorded (hs : Headers) : Recorded hs where
  remaining _ := remaining_set_iff
  remaining_kept hnone q := by
    have hreport : (QuotaReport.ofHeaders hs).remaining = none :=
      Option.eq_none_iff_forall_ne_some.2 fun n hn => hnone n (remaining_eq_some_iff.1 hn)
    rw [Quota.apply, hreport, Option.getD_none]
  reset _ := resetAt_set_iff
  reset_kept hnone q := by
    have hreport : (QuotaReport.ofHeaders hs).resetAt = none :=
      Option.eq_none_iff_forall_ne_some.2 fun t ht => hnone t.seconds (resetAt_eq_some_iff.1 ht).1
    rw [Quota.apply, hreport, Option.getD_none]
  remaining_frame before spelling value after hsplit hother q := by
    rw [Quota.apply, Quota.apply, remaining_ofHeaders, remaining_ofHeaders, hsplit, header?_insert hother]
  reset_frame before spelling value after hsplit hother q := by
    rw [Quota.apply, Quota.apply, resetAt_ofHeaders, resetAt_ofHeaders, hsplit, header?_insert hother]
  written n t left right left' right' hstart hblanks hblanks' hremaining hreset q := by
    have hn : ReportsRemaining hs n :=
      ⟨decimal n.toNat, ⟨_, hremaining, shows_written hblanks (Digits.decimal n.toNat).printing⟩, .decimal n.toNat⟩
    have hs : ReportsReset hs t.seconds :=
      ⟨signedDecimal t.seconds, ⟨_, hreset, shows_written hblanks' (Signed.signedDecimal t.seconds).printing⟩,
        .signedDecimal t.seconds, t.in_calendar⟩
    rw [Quota.apply, remaining_eq_some_iff.2 hn, resetAt_eq_some_iff.2 ⟨hs, hstart⟩, Option.getD_some, Option.getD_some]

/-- the first field of a name counts, even if it cannot be used, and the other name has its own -/
example (q : Quota) : q.apply (.ofHeaders [("X-RateLimit-Remaining", written [] ['-', '0'] []),
    ("x-ratelimit-remaining", written [] ['7'] []), ("X-Ratelimit-RESET", written [' '] ['+', '0', '9'] ['\t'])]) =
    ⟨q.remaining, ⟨9, 0, by decide, by decide, by decide⟩⟩ := by
  have hreport : QuotaReport.ofHeaders [("X-RateLimit-Remaining", written [] ['-', '0'] []),
      ("x-ratelimit-remaining", written [] ['7'] []), ("X-Ratelimit-RESET", written [' '] ['+', '0', '9'] ['\t'])] =
      ⟨none, some ⟨9, 0, by decide, by decide, by decide⟩⟩ := by decide +kernel
  rw [hreport]
  rfl

end GitHub

end AccountStats
