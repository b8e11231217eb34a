import Mathlib.Tactic
import AccountStats.Time.Rfc3339
import AccountStats.Proofs.Text.Decimal
import AccountStats.Proofs.Time.WholeMicros
/-
Instants are read back from RFC 3339 text as they were written, whatever their year, fraction or leap second.

Each part of the text is read back in front of what cannot belong to it. Results:
- `year?_writeYear`, `field?_two`, `fraction?_writeFraction`: the parts;
- `parse?_render`: the whole.
-/
namespace AccountStats.Time.Rfc3339

open AccountStats.Text

variable {limit low high width n : Nat} {c : Char} {ds rest : List Char}

/-! ## Digits in front -/

/-- the text does not go on with a digit -/
def Stops (rest : List Char) : Prop := ∀ c ∈ rest.head?, c.isDigit = false

theorem stops_cons (h : c.isDigit = false) : Stops (c :: rest) := by
  intro d hd
  cases hd
  exact h

theorem takeDigits_append (hds : ds.all Char.isDigit = true) (hlength : ds.length ≤ limit) (hrest : Stops rest) :
    takeDigits limit (ds ++ rest) = (ds, rest) := by
  induction ds generalizing limit with
  | nil =>
    cases limit with
    | zero => rfl
    | succ limit =>
      cases rest with
      | nil => rfl
      | cons c rest => rw [List.nil_append, takeDigits, hrest c rfl, if_neg Bool.false_ne_true]
  | cons d ds ih =>
    rw [List.all_cons, Bool.and_eq_true] at hds
    cases limit with
    | zero => cases hlength
    | succ limit =>
      rw [List.cons_append, takeDigits, if_pos hds.1, ih hds.2 (Nat.le_of_succ_le_succ hlength)]

theorem number?_append (hne : ds ≠ []) (hds : ds.all Char.isDigit = true) (hlength : ds.length ≤ limit)
    (hlt : Nat.ofDigitChars 10 ds 0 < 9223372036854775808) (hrest : Stops rest) :
    number? limit (ds ++ rest) = some (Nat.ofDigitChars 10 ds 0, rest) := by
  rw [number?, takeDigits_append hds hlength hrest]
  cases ds with
  | nil => exact absurd rfl hne
  | cons d ds => exact if_pos hlt

theorem number?_paddedDecimal (hlength : (paddedDecimal width n).length ≤ limit) (hlt : n < 9223372036854775808)
    (hrest : Stops rest) : number? limit (paddedDecimal width n ++ rest) = some (n, rest) := by
  have hread := number?_append (paddedDecimal_ne_nil width n) (all_isDigit_paddedDecimal width n) hlength
    (by rw [ofDigitChars_paddedDecimal]; exact hlt) hrest
  rw [ofDigitChars_paddedDecimal] at hread
  exact hread

theorem trimStart_paddedDecimal : trimStart (paddedDecimal width n ++ rest) = paddedDecimal width n ++ rest :=
  trimStart_digits (paddedDecimal_ne_nil width n) (all_isDigit_paddedDecimal width n)

/-! ## The parts -/

/-- a month, a day, an hour, a minute or a second -/
theorem field?_two (hlow : low ≤ n) (hhigh : n ≤ high) (hlt : n < 100) (hrest : Stops rest) :
    field? low high (paddedDecimal 2 n ++ rest) = some (n, rest) := by
  have hread : number? 2 (paddedDecimal 2 n ++ rest) = some (n, rest) :=
    number?_paddedDecimal (length_paddedDecimal (by decide) hlt).le (by omega) hrest
  rw [field?, trimStart_paddedDecimal, hread]
  exact if_pos ⟨hlow, hhigh⟩

theorem mark?_cons (h : isBlank c = false) : mark? c (c :: rest) = some rest := by
  rw [mark?, trimStart_cons h]
  exact if_pos rfl

theorem paddedDecimal_append_ne (h : c.isDigit = false) {cs : List Char} : paddedDecimal width n ++ rest ≠ c :: cs := by
  intro heq
  have hall := all_isDigit_paddedDecimal width n
  cases hds : paddedDecimal width n with
  | nil => exact paddedDecimal_ne_nil width n hds
  | cons d ds =>
    rw [hds, List.cons_append] at heq
    rw [hds, List.all_cons, (List.cons.inj heq).1, h, Bool.false_and] at hall
    cases hall

/-- **A year is read back**, with its sign or without. -/
theorem year?_writeYear {y : Int} (hlow : -2147483648 ≤ y) (hhigh : y < 2147483648) (hrest : Stops rest) :
    year? (writeYear y ++ rest) = some (y, rest) := by
  unfold writeYear
  split
  · next hfour =>
    have hread : number? 4 (paddedDecimal 4 y.toNat ++ rest) = some (y.toNat, rest) :=
      number?_paddedDecimal (length_paddedDecimal (by decide) (by omega)).le (by omega) hrest
    rw [year?, trimStart_paddedDecimal]
    split
    · next h => exact absurd h (paddedDecimal_append_ne rfl)
    · next h => exact absurd h (paddedDecimal_append_ne rfl)
    · have hyear : (y.toNat : Int) = y := Int.toNat_of_nonneg hfour.1
      simp only [hread, Option.map_some, hyear]
      exact if_pos ⟨hlow, hhigh⟩
  · next hmore =>
    have hread : ∀ limit, (paddedDecimal 4 y.natAbs).length ≤ limit →
        number? limit (paddedDecimal 4 y.natAbs ++ rest) = some (y.natAbs, rest) :=
      fun limit hlength => number?_paddedDecimal hlength (by omega) hrest
    have hlength : (paddedDecimal 4 y.natAbs).length ≤ (paddedDecimal 4 y.natAbs ++ rest).length := by
      rw [List.length_append]
      exact Nat.le_add_right ..
    rw [List.cons_append, year?]
    by_cases hneg : y < 0
    · have hyear : -(y.natAbs : Int) = y := by omega
      rw [if_pos hneg, trimStart_cons rfl]
      simp only [hread _ hlength, Option.map_some, hyear]
      exact if_pos ⟨hlow, hhigh⟩
    · have hyear : (y.natAbs : Int) = y := by omega
      rw [if_neg hneg, trimStart_cons rfl]
      simp only [hread _ hlength, Option.map_some, hyear]
      exact if_pos ⟨hlow, hhigh⟩

/-- digits after a point are of the first places after it -/
theorem fraction?_point (hwidth : 0 < width) (hnine : width ≤ 9) (hlt : n < 10 ^ width) (hrest : Stops rest) :
    fraction? ('.' :: paddedDecimal width n ++ rest) = some (n * 10 ^ (9 - width), rest) := by
  have hlength : (paddedDecimal width n).length = width := length_paddedDecimal hwidth hlt
  have hread : takeDigits 9 (paddedDecimal width n ++ rest) = (paddedDecimal width n, rest) :=
    takeDigits_append (all_isDigit_paddedDecimal width n) (hlength.le.trans hnine) hrest
  have hdrop : rest.dropWhile Char.isDigit = rest := by
    cases rest with
    | nil => rfl
    | cons c rest => exact List.dropWhile_cons_of_neg (by rw [hrest c rfl]; exact Bool.false_ne_true)
  rw [List.cons_append, fraction?, hread]
  split
  · next h => exact absurd (congrArg Prod.fst h) (paddedDecimal_ne_nil width n)
  · next ds more _ h =>
    cases h
    rw [ofDigitChars_paddedDecimal, hlength, hdrop]
    rfl

/-- **A fraction is read back.** -/
theorem fraction?_writeFraction (hlt : n < nanosPerSecond) (hrest : Stops rest) (hpoint : rest.head? ≠ some '.') :
    fraction? (writeFraction n ++ rest) = some (n, rest) := by
  have hbound : n < 1000000000 := hlt
  unfold writeFraction
  split
  · next hzero =>
    rw [hzero, List.nil_append]
    cases rest with
    | nil => rfl
    | cons c rest =>
      have hc : c ≠ '.' := fun h => hpoint (congrArg some h)
      simp [fraction?, hc]
  · split
    · next hmilli =>
      rw [fraction?_point (by decide) (by decide) (by omega) hrest]
      congr 2
      omega
    · split
      · next hmicro =>
        rw [fraction?_point (by decide) (by decide) (by omega) hrest]
        congr 2
        omega
      · rw [fraction?_point (by decide) (by decide) hlt hrest]
        congr 2
        omega

/-! ## The whole -/

variable (t : Instant)

theorem daysInMonth_le (year : Int) (month : Nat) : Date.daysInMonth year month ≤ 31 := by
  unfold Date.daysInMonth
  split_ifs <;> decide

/-- the years of the calendar are within 32 bits -/
theorem year_ofDays : -2147483648 ≤ (Date.ofDays (t.seconds / 86400)).year ∧
    (Date.ofDays (t.seconds / 86400)).year < 2147483648 := by
  have hfirst : -8334601228800 ≤ t.seconds := t.in_calendar.1
  have hlast : t.seconds ≤ 8210266876799 := t.in_calendar.2
  obtain ⟨hmonth, hmonths, hday, hdays⟩ := Date.valid_ofDays (t.seconds / 86400)
  have hnumber := Date.toDays_ofDays (t.seconds / 86400)
  have hdays := hdays.trans (daysInMonth_le _ _)
  generalize Date.ofDays (t.seconds / 86400) = date at *
  simp only [Date.toDays, Date.daysBefore, Date.monthStart, Date.yearZero] at hnumber
  split_ifs at hnumber <;> omega

/-- a date and a time of day, as they are written -/
def fields (date : Date) (hour minute second nanos : Nat) : List Char :=
  writeYear date.year ++ '-' :: (paddedDecimal 2 date.month ++ '-' :: (paddedDecimal 2 date.day ++
    'T' :: (paddedDecimal 2 hour ++ ':' :: (paddedDecimal 2 minute ++ ':' :: (paddedDecimal 2 second ++
      (writeFraction nanos ++ ['Z']))))))

/-- the instant of a second of universal time and of nanoseconds in it -/
def instant? (seconds : Int) (nanos : Nat) : Option Instant :=
  if firstSecond ≤ seconds ∧ seconds ≤ lastSecond then Instant.ofParts? seconds nanos else none

theorem stops_fraction (n : Nat) : Stops (writeFraction n ++ ['Z']) := by
  unfold writeFraction
  split
  · exact stops_cons rfl
  · split
    · exact stops_cons rfl
    · split <;> exact stops_cons rfl

theorem bind_of_eq {α β : Type} {o : Option α} {a : α} (h : o = some a) (f : α → Option β) : (o >>= f) = f a := by
  rw [h]
  rfl

/-- a time of day is read back; a second 60 is a second 59 with a second more of nanoseconds -/
theorem read_fields {date : Date} {hour minute second nanos : Nat} (hlow : -2147483648 ≤ date.year)
    (hhigh : date.year < 2147483648) (hdate : date.Valid) (hhour : hour ≤ 23) (hminute : minute ≤ 59)
    (hsecond : second ≤ 60) (hnanos : nanos < nanosPerSecond) :
    read (fields date hour minute second nanos) =
      if second = 60 then instant? (date.toDays * 86400 + hour * 3600 + minute * 60 + 59) (nanos + nanosPerSecond)
      else instant? (date.toDays * 86400 + hour * 3600 + minute * 60 + second) nanos := by
  have hdays : date.day ≤ 31 := hdate.2.2.2.trans (daysInMonth_le _ _)
  have hmonths : date.month ≤ 12 := hdate.2.1
  have hoffset : offset? (trimStart ['Z']) = some (0, []) := by decide
  unfold fields read
  -- one bind at a time: rewriting all of them at once would unfold what is still to be read
  refine (bind_of_eq (year?_writeYear hlow hhigh (stops_cons rfl)) _).trans ?_
  refine (bind_of_eq (mark?_cons rfl) _).trans ?_
  refine (bind_of_eq (field?_two hdate.1 hmonths (by omega) (stops_cons rfl)) _).trans ?_
  refine (bind_of_eq (mark?_cons rfl) _).trans ?_
  refine (bind_of_eq (field?_two hdate.2.2.1 hdays (by omega) (stops_cons rfl)) _).trans ?_
  refine (bind_of_eq (field?_two (Nat.zero_le _) hhour (by omega) (stops_cons rfl)) _).trans ?_
  refine (bind_of_eq (mark?_cons rfl) _).trans ?_
  refine (bind_of_eq (field?_two (Nat.zero_le _) hminute (by omega) (stops_cons rfl)) _).trans ?_
  refine (bind_of_eq (mark?_cons rfl) _).trans ?_
  refine (bind_of_eq (field?_two (Nat.zero_le _) hsecond (by omega) (stops_fraction nanos)) _).trans ?_
  refine (bind_of_eq (fraction?_writeFraction hnanos (stops_cons rfl) (by decide)) _).trans ?_
  refine (bind_of_eq hoffset _).trans ?_
  refine (if_pos ⟨rfl, hdate, by decide, by decide⟩).trans ?_
  by_cases hleap : second = 60
  · rw [if_pos hleap, if_pos hleap]
    simp only [instant?, Int.sub_zero]
    rfl
  · rw [if_neg hleap, if_neg hleap]
    simp only [instant?, Int.sub_zero]

/-- an instant is that of its seconds and nanoseconds, however they are computed -/
theorem instant?_self {seconds : Int} {nanos : Nat} (hseconds : seconds = t.seconds) (hnanos : nanos = t.nanos) :
    instant? seconds nanos = some t := by
  rw [instant?, hseconds, hnanos, if_pos t.in_calendar, t.ofParts?_self]

/-- **An instant is read back from its text.** -/
theorem parse?_render : parse? (render t) = some t := by
  have hday : t.secondOfDay = t.seconds % 86400 := rfl
  have hnanos : t.nanos < 2000000000 := t.nanos_lt
  have hleap : 1000000000 ≤ t.nanos → t.seconds % 60 = 59 := t.leap_at_minute_end
  have hwrite : write t = fields (Date.ofDays (t.seconds / 86400)) (t.secondOfDay.toNat / 3600)
      (t.secondOfDay.toNat / 60 % 60) (t.secondOfDay.toNat % 60 + if nanosPerSecond ≤ t.nanos then 1 else 0)
      (t.nanos % nanosPerSecond) := by
    simp only [write, writeLocal, writeMoment, fields, List.append_assoc, List.cons_append]
  have hsecond : t.secondOfDay.toNat % 60 + (if nanosPerSecond ≤ t.nanos then 1 else 0) ≤ 60 := by
    split <;> omega
  rw [parse?, render, String.toList_ofList, hwrite,
    read_fields (year_ofDays t).1 (year_ofDays t).2 (Date.valid_ofDays _) (by omega) (by omega) hsecond
      (Nat.mod_lt _ (by decide)), Date.toDays_ofDays]
  by_cases h : nanosPerSecond ≤ t.nanos
  · have hlast : t.seconds % 60 = 59 := hleap h
    have hrest : t.nanos % nanosPerSecond + nanosPerSecond = t.nanos := by
      simp only [nanosPerSecond] at h ⊢
      omega
    rw [if_pos h, if_pos (by omega)]
    exact instant?_self t (by omega) hrest
  · rw [if_neg h, if_neg (by omega)]
    exact instant?_self t (by omega) (Nat.mod_eq_of_lt (Nat.lt_of_not_le h))

/-- a leap second in a year of five digits -/
example : render ⟨253402300859, 1500000000, by decide, by decide, by decide⟩ = "+10000-01-01T00:00:60.500Z" := by
  decide +kernel

end AccountStats.Time.Rfc3339
