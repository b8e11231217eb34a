import Mathlib
import AccountStats.Url.Query
import AccountStats.Url.Reader
import AccountStats.Proofs.Text.Numerals
import AccountStats.Proofs.Text.Quoted
import AccountStats.Proofs.Text.Split
import AccountStats.Proofs.Text.Utf8
/-
URLs are read as they were written.

A part of a URL is plain if none of its characters parts it from another, needs an escape or is a blank. Here the scheme
is not one of the web, as with the URL of a database. Results:
- `Escaped.total`, `Escaped.percentBytes`: any bytes can be escaped, and escapes are undone;
- `splitScheme_lower`, `splitHost_plain`, `readPort_digits`, `pathOf_plain`: parts, each with what follows it;
- `parse_written`: a URL with all its parts is read as those parts.
-/
namespace AccountStats.Url

open AccountStats.Text

variable {c r : Char} {cs rest : List Char} {n : Nat}

theorem toUTF8_singleton (c : Char) : c.toString.toUTF8 = [c].utf8Encode := by
  rw [← String.toByteArray_ofList]
  rfl

/-! ## Plain texts -/

/-- letters, digits, and marks that part nothing -/
def isPlain (c : Char) : Bool := c.isAlphanum || c == '-' || c == '_' || c == '.' || c == '%'

structure Plain (cs : List Char) : Prop where
  ne_nil : cs ≠ []
  plain : ∀ c ∈ cs, isPlain c = true

theorem ne_of_isPlain (h : isPlain c = true) (hr : isPlain r = false) : c ≠ r := by
  rintro rfl
  exact Bool.false_ne_true (hr.symm.trans h)

theorem beq_of_isPlain (h : isPlain c = true) (hr : isPlain r = false) : (c == r) = false :=
  beq_false_of_ne (ne_of_isPlain h hr)

theorem range_of_isPlain (h : isPlain c = true) : 0x20 < c.toNat ∧ c.toNat < 128 := by
  simp only [isPlain, Char.isAlphanum, Char.isAlpha, Char.isUpper, Char.isLower, Char.isDigit, Bool.or_eq_true,
    Bool.and_eq_true, decide_eq_true_eq, beq_iff_eq, ge_iff_le, UInt32.le_iff_toNat_le] at h
  rcases h with (((h | rfl) | rfl) | rfl) | rfl
  · rcases h with (⟨hlow, hhigh⟩ | ⟨hlow, hhigh⟩) | ⟨hlow, hhigh⟩ <;>
      exact ⟨Nat.lt_of_lt_of_le (by decide) hlow, Nat.lt_of_le_of_lt hhigh (by decide)⟩
  all_goals decide

theorem isPlain_of_isAlphanum (h : c.isAlphanum = true) : isPlain c = true := by
  simp [isPlain, h]

theorem Plain.notMem (h : Plain cs) (hr : isPlain r = false) : r ∉ cs :=
  fun hmem => ne_of_isPlain (h.plain r hmem) hr rfl

/-! ## Escapes -/

/-- a part that stands for bytes; what may be escaped need not be -/
inductive Escaped : List Char → List UInt8 → Prop where
  | nil : Escaped [] []
  | byte {a b : Char} {cs : List Char} {high low : Nat} {bytes : List UInt8} :
    hexDigit? a = some high → hexDigit? b = some low → Escaped cs bytes →
      Escaped ('%' :: a :: b :: cs) (.ofNat (16 * high + low) :: bytes)
  | plain {c : Char} {cs : List Char} {bytes : List UInt8} :
    isPlain c = true → c ≠ '%' → Escaped cs bytes → Escaped (c :: cs) (.ofNat c.toNat :: bytes)

theorem isAlphanum_of_hexDigit? (h : hexDigit? c = some n) : c.isAlphanum = true := by
  unfold hexDigit? at h
  split at h
  · next hdigit => simp [Char.isAlphanum, hdigit]
  · split at h
    · next hlower =>
      have hc : c.isLower = true := by
        have hz : c ≤ 'z' := Char.le_trans hlower.2 (by decide)
        simpa [Char.isLower, UInt32.le_iff_toNat_le, Char.le_def] using And.intro hlower.1 hz
      simp [Char.isAlphanum, Char.isAlpha, hc]
    · split at h
      · next hupper =>
        have hc : c.isUpper = true := by
          have hz : c ≤ 'Z' := Char.le_trans hupper.2 (by decide)
          simpa [Char.isUpper, UInt32.le_iff_toNat_le, Char.le_def] using And.intro hupper.1 hz
        simp [Char.isAlphanum, Char.isAlpha, hc]
      · cases h

namespace Escaped

variable {bytes : List UInt8}

/-- **Any bytes can be escaped.** -/
theorem total (bytes : List UInt8) : ∃ cs, Escaped cs bytes := by
  induction bytes with
  | nil => exact ⟨[], .nil⟩
  | cons byte bytes ih =>
    obtain ⟨cs, hcs⟩ := ih
    have hlow : byte.toNat % 16 < 16 := Nat.mod_lt _ (by decide)
    have hhigh : byte.toNat / 16 < 16 := Nat.div_lt_of_lt_mul byte.toNat_lt
    have hbyte := Escaped.byte (hexDigit?_digitChar hhigh) (hexDigit?_digitChar hlow) hcs
    rw [Nat.div_add_mod, UInt8.ofNat_toNat] at hbyte
    exact ⟨_, hbyte⟩

theorem isPlain (h : Escaped cs bytes) : ∀ c ∈ cs, isPlain c = true := by
  induction h with
  | nil => simp
  | byte ha hb _ ih =>
    exact List.forall_mem_cons.2 ⟨rfl, List.forall_mem_cons.2 ⟨isPlain_of_isAlphanum (isAlphanum_of_hexDigit? ha),
      List.forall_mem_cons.2 ⟨isPlain_of_isAlphanum (isAlphanum_of_hexDigit? hb), ih⟩⟩⟩
  | plain hc _ _ ih => exact List.forall_mem_cons.2 ⟨hc, ih⟩

/-- what has no percent sign stands for itself -/
theorem of_notMem (hplain : ∀ c ∈ cs, Url.isPlain c = true) (h : '%' ∉ cs) :
    Escaped cs (cs.map fun c => .ofNat c.toNat) := by
  induction cs with
  | nil => exact .nil
  | cons c cs ih =>
    obtain ⟨hc, hcs⟩ := List.forall_mem_cons.1 hplain
    obtain ⟨hpercent, hrest⟩ := List.ne_and_not_mem_of_not_mem_cons h
    exact .plain hc hpercent.symm (ih hcs hrest)

/-- **Escapes are undone.** -/
theorem percentBytes (h : Escaped cs bytes) : percentBytes cs = bytes := by
  induction h with
  | nil => rfl
  | byte ha hb _ ih => simp only [Text.percentBytes, ha, hb, ih]
  | @plain c cs bytes hc hpercent _ ih =>
    have hascii : [c].utf8Encode.data.toList = [.ofNat c.toNat] :=
      bytes_ascii (List.forall_mem_singleton.2 (range_of_isPlain hc).2)
    rw [Text.percentBytes, ih, toUTF8_singleton, hascii]
    · rfl
    · rintro _ _ _ rfl _
      exact hpercent rfl

/-- what is dots stands for dots -/
theorem of_isDots (h : Escaped cs bytes) (hdots : isDots n cs = true) : bytes = List.replicate n 0x2E := by
  induction h generalizing n with
  | nil =>
    cases n with
    | zero => rfl
    | succ n => cases hdots
  | byte ha hb _ ih =>
    unfold isDots at hdots
    split at hdots
    · cases of_decide_eq_true hdots
    · next heq =>
      injection heq with hmark _
      cases hmark
    · next heq =>
      cases heq
      cases ha
      cases hb
      exact congrArg (_ :: ·) (ih hdots)
    · next heq =>
      cases heq
      cases ha
      cases hb
      exact congrArg (_ :: ·) (ih hdots)
    · cases hdots
  | plain hc hpercent _ ih =>
    unfold isDots at hdots
    split at hdots
    · cases of_decide_eq_true hdots
    · next heq =>
      cases heq
      exact congrArg (_ :: ·) (ih hdots)
    · next heq =>
      cases heq
      exact absurd rfl hpercent
    · next heq =>
      cases heq
      exact absurd rfl hpercent
    · cases hdots

end Escaped

/-! ## The parts of an authority -/

theorem isEnd_plain (h : isPlain c = true) : Kind.other.isEnd c = false := by
  rw [Kind.isEnd, Kind.isSlash, beq_of_isPlain h (by decide), beq_of_isPlain h (by decide), beq_of_isPlain h (by decide),
    beq_of_isPlain h (by decide)]
  rfl

theorem splitHost_plain (h : ∀ c ∈ cs, isPlain c = true) (rest : List Char) :
    splitHost .other false (cs ++ ':' :: rest) = (cs, ':' :: rest) := by
  induction cs with
  | nil => rfl
  | cons c cs ih =>
    obtain ⟨hc, hcs⟩ := List.forall_mem_cons.1 h
    rw [List.cons_append, splitHost, isEnd_plain hc, beq_of_isPlain hc (by decide : isPlain ':' = false),
      beq_of_isPlain hc (by decide : isPlain '[' = false)]
    simp [ih hcs]

theorem refusedInHost_not_plain : refusedInHost.all (fun r => !isPlain r) = true := by rfl

theorem anyHost_plain (h : Plain cs) : anyHost cs = .ok (.name cs) := by
  have hfine : cs.any refusedInHost.contains = false := by
    rw [List.any_eq_false]
    intro c hc hrefused
    have hnot := List.all_eq_true.1 refusedInHost_not_plain c (List.contains_iff_mem.1 hrefused)
    rw [h.plain c hc] at hnot
    exact Bool.false_ne_true hnot
  unfold anyHost
  split
  · exact absurd (h.plain '[' List.mem_cons_self) (by decide)
  · rw [hfine, if_neg Bool.false_ne_true]

/-- the number that digits come to is not less than what they begin with -/
theorem le_ofDigitChars (ds : List Char) (n : Nat) : n ≤ Nat.ofDigitChars 10 ds n := by
  induction ds generalizing n with
  | nil => exact Nat.le_of_eq rfl
  | cons d ds ih =>
    rw [Nat.ofDigitChars_cons]
    exact Nat.le_trans (by omega) (ih _)

/-- **Digits of a port are read up to the slash behind them.** -/
theorem readPort_digits {n? : Option Nat} (hdigits : ∀ c ∈ cs, c.isDigit = true)
    (hn : Nat.ofDigitChars 10 cs (n?.getD 0) < 65536) (hne : cs = [] → n?.isSome = true) :
    readPort n? (cs ++ '/' :: rest) = .ok (some (Nat.ofDigitChars 10 cs (n?.getD 0)), '/' :: rest) := by
  induction cs generalizing n? with
  | nil =>
    obtain ⟨n, rfl⟩ := Option.isSome_iff_exists.1 (hne rfl)
    rfl
  | cons c cs ih =>
    obtain ⟨hc, hcs⟩ := List.forall_mem_cons.1 hdigits
    rw [Nat.ofDigitChars_cons] at hn ⊢
    have hless : 10 * n?.getD 0 + (c.toNat - '0'.toNat) < 65536 := Nat.lt_of_le_of_lt (le_ofDigitChars cs _) hn
    rw [List.cons_append, readPort, if_pos hc]
    dsimp only
    rw [if_pos hless]
    exact ih hcs hn fun _ => rfl

/-! ## Schemes and paths -/

section Stop

variable {p : Char → Bool} (h : ∀ c ∈ cs, p c = true) (hc : p c = false)
include h hc

/-- what is read up to a character, -/
theorem takeWhile_append_stop (rest : List Char) : (cs ++ c :: rest).takeWhile p = cs := by
  rw [List.takeWhile_append_of_pos h, List.takeWhile_cons_of_neg (by rw [hc]; exact Bool.false_ne_true), List.append_nil]

/-- and what is left -/
theorem dropWhile_append_stop (rest : List Char) : (cs ++ c :: rest).dropWhile p = c :: rest := by
  rw [List.dropWhile_append_of_pos h, List.dropWhile_cons_of_neg (by rw [hc]; exact Bool.false_ne_true)]

end Stop

/-- nothing is taken from a text without blanks and control characters -/
theorem bare_of_printing (h : ∀ c ∈ cs, 0x20 < c.toNat) : bare cs = cs := by
  have hedge : ∀ ds : List Char, (∀ c ∈ ds, 0x20 < c.toNat) → ds.dropWhile (fun c => decide (c.toNat ≤ 0x20)) = ds := by
    intro ds hds
    cases ds with
    | nil => rfl
    | cons d ds => exact List.dropWhile_cons_of_neg (by simpa using hds d List.mem_cons_self)
  have hreverse : ∀ c ∈ cs.reverse, 0x20 < c.toNat := fun c hc => h c (List.mem_reverse.1 hc)
  unfold bare
  dsimp only
  rw [hedge cs h, hedge cs.reverse hreverse, List.reverse_reverse, List.filter_eq_self]
  intro c hc
  have hrange := h c hc
  rw [Bool.and_eq_true, Bool.and_eq_true, bne_iff_ne, bne_iff_ne, bne_iff_ne]
  refine ⟨⟨?_, ?_⟩, ?_⟩ <;> rintro rfl <;> exact absurd hrange (by decide)

/-- **A scheme of lower-case letters is cut off at its colon.** -/
theorem splitScheme_lower {scheme : List Char} (hlower : ∀ c ∈ scheme, c.isLower = true) (hne : scheme ≠ [])
    (rest : List Char) : splitScheme (scheme ++ ':' :: rest) = some (scheme, rest) := by
  have hmap : scheme.map Char.toLower = scheme := by
    have hsame : ∀ c ∈ scheme, c.toLower = id c :=
      fun c hc => Char.toLower_eq_of_not_isUpper (Char.not_isUpper_of_isLower (hlower c hc))
    rw [List.map_congr_left hsame, List.map_id]
  cases scheme with
  | nil => exact absurd rfl hne
  | cons c cs =>
    obtain ⟨hc, hcs⟩ := List.forall_mem_cons.1 hlower
    have hpart : ∀ d ∈ cs, (fun d => d.isAlphanum || d == '+' || d == '-' || d == '.') d = true := by
      intro d hd
      simp [Char.isAlphanum, Char.isAlpha, hcs d hd]
    rw [List.cons_append, splitScheme, Char.isAlpha, hc, Bool.or_true, if_pos rfl, dropWhile_append_stop hpart (by rfl),
      takeWhile_append_stop hpart (by rfl)]
    exact congrArg (fun scheme => some (scheme, rest)) hmap

/-- a scheme that is not of the web has no port of its own -/
theorem defaultPort?_of_kind {scheme : List Char} (h : kindOf scheme = .other) : defaultPort? scheme = none := by
  have hweb : ¬ ["http", "https", "ws", "wss", "ftp"].any (·.toList = scheme) = true := by
    intro hany
    rw [kindOf, if_pos hany] at h
    split at h <;> cases h
  simp only [List.any_cons, List.any_nil, Bool.or_false, Bool.or_eq_true, decide_eq_true_eq, not_or, @eq_comm _ _ scheme]
    at hweb
  obtain ⟨hhttp, hhttps, hws, hwss, hftp⟩ := hweb
  rw [defaultPort?, if_neg (not_or.2 ⟨hhttp, hws⟩), if_neg (not_or.2 ⟨hhttps, hwss⟩), if_neg hftp]

/-- **A path of one segment stays as it is**, unless it is dots. -/
theorem pathOf_plain (h : Plain cs) (hone : isDots 1 cs = false) (htwo : isDots 2 cs = false) :
    pathOf .other cs = '/' :: cs := by
  have hslash : cs.map (fun c => if Kind.other.isSlash c then '/' else c) = cs := by
    have hsame : ∀ c ∈ cs, (if Kind.other.isSlash c then '/' else c) = id c := by
      intro c hc
      rw [Kind.isSlash, beq_of_isPlain (h.plain c hc) (by decide), beq_of_isPlain (h.plain c hc) (by decide)]
      rfl
    rw [List.map_congr_left hsame, List.map_id]
  unfold pathOf
  dsimp only
  rw [hslash, splitOn_of_notMem (h.notMem (by decide))]
  simp [addSegments, hone, htwo, join]

theorem splitTarget_plain (h : Plain cs) : splitTarget ('/' :: cs) = ('/' :: cs, []) := by
  have hpart (r : Char) (hr : isPlain r = false) (hslash : r ≠ '/') : ∀ c ∈ '/' :: cs, decide (c ≠ r) = true :=
    List.forall_mem_cons.2 ⟨by simpa using hslash.symm, fun c hc => by simpa using ne_of_isPlain (h.plain c hc) hr⟩
  have hmark := hpart '?' (by decide) (by decide)
  unfold splitTarget
  dsimp only
  rw [List.takeWhile_eq_self_iff.2 (hpart '#' (by decide) (by decide)), List.takeWhile_eq_self_iff.2 hmark,
    List.dropWhile_eq_nil_iff.2 hmark]
  rfl

/-! ## URLs -/

/-- a URL with all its parts, which are written plainly -/
structure Written where
  scheme : List Char
  user : List Char
  password : List Char
  host : List Char
  port : Nat
  path : List Char
  lower : ∀ c ∈ scheme, c.isLower = true
  kind : kindOf scheme = .other
  named : scheme ≠ []
  plainUser : Plain user
  plainPassword : Plain password
  plainHost : Plain host
  port_lt : port < 65536
  plainPath : Plain path
  /-- neither the place itself -/
  here : isDots 1 path = false
  /-- nor the one above -/
  above : isDots 2 path = false

namespace Written

variable (w : Written)

/-- the text of the authority -/
def authority : List Char := w.user ++ ':' :: w.password ++ '@' :: (w.host ++ ':' :: decimal w.port)

def text : List Char := w.scheme ++ ':' :: '/' :: '/' :: (w.authority ++ '/' :: w.path)

theorem plain_decimal (n : Nat) : ∀ c ∈ decimal n, isPlain c = true := fun c hc => by
  exact isPlain_of_isAlphanum (by rw [Char.isAlphanum, (Digits.decimal n).digits c hc, Bool.or_true])

/-- what an authority consists of -/
theorem mem_authority {c : Char} (hc : c ∈ w.authority) : isPlain c = true ∨ c = ':' ∨ c = '@' := by
  simp only [authority, List.mem_append, List.mem_cons] at hc
  rcases hc with (hc | rfl | hc) | rfl | hc | rfl | hc
  · exact .inl (w.plainUser.plain c hc)
  · exact .inr (.inl rfl)
  · exact .inl (w.plainPassword.plain c hc)
  · exact .inr (.inr rfl)
  · exact .inl (w.plainHost.plain c hc)
  · exact .inr (.inl rfl)
  · exact .inl (plain_decimal w.port c hc)

theorem isEnd_authority : ∀ c ∈ w.authority, Kind.other.isEnd c = false := by
  intro c hc
  rcases w.mem_authority hc with hplain | rfl | rfl
  · exact isEnd_plain hplain
  · rfl
  · rfl

theorem text_printing : ∀ c ∈ w.text, 0x20 < c.toNat := by
  have hplain {c : Char} (hc : isPlain c = true) : 0x20 < c.toNat := (range_of_isPlain hc).1
  intro c hc
  simp only [text, List.mem_append, List.mem_cons] at hc
  rcases hc with hc | rfl | rfl | rfl | hc | rfl | hc
  · exact hplain (isPlain_of_isAlphanum (by simp [Char.isAlphanum, Char.isAlpha, w.lower c hc]))
  · decide
  · decide
  · decide
  · rcases w.mem_authority hc with hc | rfl | rfl
    · exact hplain hc
    · decide
    · decide
  · decide
  · exact hplain (w.plainPath.plain c hc)

theorem at_notMem_host : '@' ∉ w.host ++ ':' :: decimal w.port := by
  intro hmem
  rcases List.mem_append.1 hmem with hmem | hmem
  · exact w.plainHost.notMem (by decide) hmem
  · rcases List.mem_cons.1 hmem with hmem | hmem
    · exact absurd hmem (by decide)
    · exact absurd ((Digits.decimal w.port).digits '@' hmem) (by decide)

/-- user and password, -/
theorem splitUser_written : splitUser .other (w.authority ++ '/' :: w.path) =
    .ok (⟨w.user, some w.password⟩, w.host ++ ':' :: decimal w.port ++ '/' :: w.path) := by
  have hinside : ∀ c ∈ w.authority, (fun c => !Kind.other.isEnd c) c = true :=
    fun c hc => congrArg not (w.isEnd_authority c hc)
  have hsplit : splitLast '@' w.authority = some (w.user ++ ':' :: w.password, w.host ++ ':' :: decimal w.port) :=
    splitLast_eq_some_iff.2 ⟨by simp [authority], w.at_notMem_host⟩
  have huser : User.ofText (w.user ++ ':' :: w.password) = ⟨w.user, some w.password⟩ := by
    rw [User.ofText, splitOnce_eq_some_iff.2 ⟨rfl, w.plainUser.notMem (by decide)⟩]
    cases hpassword : w.password with
    | nil => exact absurd hpassword w.plainPassword.ne_nil
    | cons c cs => rfl
  unfold splitUser
  dsimp only
  rw [takeWhile_append_stop hinside (by rfl), dropWhile_append_stop hinside (by rfl), hsplit]
  cases hfront : w.user with
  | nil => exact absurd hfront w.plainUser.ne_nil
  | cons c cs =>
    rw [hfront] at huser
    exact congrArg (fun user => Except.ok (user, w.host ++ ':' :: decimal w.port ++ '/' :: w.path)) huser

/-- and what comes behind them -/
theorem readAuthority_written : readAuthority w.scheme (w.authority ++ '/' :: w.path) =
    .ok (⟨⟨w.user, some w.password⟩, some (.name w.host), some w.port⟩, '/' :: w.path) := by
  have hhost : w.host ≠ [] := w.plainHost.ne_nil
  have hport := Digits.decimal w.port
  have hread : readPort none (decimal w.port ++ '/' :: w.path) = .ok (some w.port, '/' :: w.path) := by
    have hlt : Nat.ofDigitChars 10 (decimal w.port) 0 < 65536 := hport.value.symm ▸ w.port_lt
    have hall := @readPort_digits (decimal w.port) w.path none hport.digits hlt fun h => absurd h hport.ne_nil
    rw [hall]
    exact congrArg (fun n => Except.ok (some n, '/' :: w.path)) hport.value
  have hdefault : defaultPort? w.scheme = none := defaultPort?_of_kind w.kind
  have hname : Host.name w.host ≠ .name [] := fun h => hhost (Host.name.inj h)
  unfold readAuthority
  rw [w.kind]
  dsimp only
  rw [w.splitUser_written]
  simp only [List.append_assoc, List.cons_append, bind, Except.bind, splitHost_plain w.plainHost.plain, if_true,
    anyHost_plain w.plainHost, hread, hname, false_and, if_false, hdefault, pure, Except.pure]
  rfl

/-- **A URL is read as it was written.** -/
theorem parse_written : parse (String.ofList w.text) =
    .ok ⟨w.scheme, w.user, some w.password, some (.name w.host), some w.port, '/' :: w.path, []⟩ := by
  have hpath : pathOf .other w.path = '/' :: w.path := pathOf_plain w.plainPath w.here w.above
  have htarget := splitTarget_plain w.plainPath
  rw [parse, String.toList_ofList, bare_of_printing w.text_printing, text, splitScheme_lower w.lower w.named]
  dsimp only
  rw [ofScheme.eq_def, w.kind]
  simp only [w.readAuthority_written, bind, Except.bind, pure, Except.pure, ofTarget, w.kind, htarget, hpath]
  rfl

end Written

end AccountStats.Url
