import Mathlib.Tactic
import AccountStats.GitHub.Link
import AccountStats.Proofs.Text.Numerals
import AccountStats.Proofs.Text.Split
/-
The page that a `Link` header names as the next one.

A header is written from entries, each a URL and its relation. Results:
- `ofPart_writeEntry`: a written entry is read as its URL, and whether its relation is `next`;
- `splitOn_write`: a written header is cut into its entries again;
- `nextPage?_write`: of written entries, the first one called `next` counts, whatever its URL;
- `pageOf?_eq_some_iff`: the page of a URL is the number that its first parameter called `page` spells;
- `nextPage_of_written`: both together, and what that is for URLs with a written page.
-/
namespace AccountStats.GitHub.Link

open AccountStats.Text

variable {url rel : String} {cs : List Char} {entries before after : List (String × String)}

/-! ## One entry -/

/-- an entry that its own text does not cut in two -/
structure Writable (url rel : String) : Prop where
  url_whole : ',' ∉ url.toList ∧ ';' ∉ url.toList
  rel_whole : ',' ∉ rel.toList ∧ ';' ∉ rel.toList
  rel_unquoted : '"' ∉ rel.toList

/-- the two segments of a written entry -/
def urlSegment (url : String) : List Char := '<' :: url.toList ++ ['>']
def relSegment (rel : String) : List Char := 'r' :: 'e' :: 'l' :: '=' :: '"' :: rel.toList ++ ['"']

theorem writeEntry_eq (url rel : String) : writeEntry url rel = urlSegment url ++ ';' :: ' ' :: relSegment rel := by
  simp [writeEntry, urlSegment, relSegment]

theorem bracketed?_urlSegment (url : String) : bracketed? (urlSegment url) = some url.toList := by
  simp [bracketed?, urlSegment]

theorem bracketed?_relSegment (rel : String) : bracketed? (relSegment rel) = none := by
  simp [bracketed?, relSegment]

theorem dropQuotes_of_notMem (h : '"' ∉ cs) : cs.dropWhile (· = '"') = cs := by
  cases cs with
  | nil => rfl
  | cons c cs =>
    have hc : c ≠ '"' := (List.ne_of_not_mem_cons h).symm
    simp [hc]

/-- between quotes stands a text, if no quote is in it -/
theorem unquoted_between (h : '"' ∉ cs) : unquoted ('"' :: cs ++ ['"']) = cs := by
  cases cs with
  | nil => rfl
  | cons c cs =>
    have hc : c ≠ '"' := (List.ne_of_not_mem_cons h).symm
    have hfront : ('"' :: (c :: cs) ++ ['"']).dropWhile (· = '"') = c :: cs ++ ['"'] := by simp [hc]
    have hback : ((c :: cs ++ ['"']).reverse).dropWhile (· = '"') = (c :: cs).reverse := by
      rw [List.reverse_append, List.reverse_singleton, List.singleton_append,
        List.dropWhile_cons_of_pos (by simp), dropQuotes_of_notMem fun hmem => h (List.mem_reverse.1 hmem)]
    rw [unquoted, hfront, hback, List.reverse_reverse]

theorem read_urlSegment {blanks : List Char} (hblanks : ∀ c ∈ blanks, isBlank c = true) (e : Entry) (url : String) :
    e.read (blanks ++ urlSegment url) = { e with url := some url.toList } := by
  have htrim : trim (blanks ++ urlSegment url) = urlSegment url :=
    trim_blanks_append (tight_of_ends rfl rfl _) hblanks
  simp only [Entry.read, htrim, bracketed?_urlSegment]

theorem read_relSegment (h : '"' ∉ rel.toList) (e : Entry) :
    e.read (' ' :: relSegment rel) = { e with isNext := decide (rel = "next") } := by
  have hblank : ∀ c ∈ [' '], isBlank c = true := List.forall_mem_singleton.2 rfl
  have htrim : trim (' ' :: relSegment rel) = relSegment rel := trim_blanks_append (tight_of_ends rfl rfl _) hblank
  have hfound : ['r', 'e', 'l', '='].isPrefixOf? (relSegment rel) = some ('"' :: rel.toList ++ ['"']) :=
    List.isPrefixOf?_eq_some_iff_append_eq.2 rfl
  have hnext : rel.toList = ['n', 'e', 'x', 't'] ↔ rel = "next" := @String.toList_inj rel "next"
  simp only [Entry.read, htrim, bracketed?_relSegment, hfound, unquoted_between h, hnext]

/-- **A written entry is read as its URL, and whether its relation is `next`**, blanks in front of it or not. -/
theorem ofPart_writeEntry (h : Writable url rel) {blanks : List Char} (hblanks : ∀ c ∈ blanks, isBlank c = true) :
    Entry.ofPart (blanks ++ writeEntry url rel) = ⟨some url.toList, decide (rel = "next")⟩ := by
  have hfirst : ';' ∉ blanks ++ urlSegment url := by
    have hblank : ';' ∉ blanks := fun hmem => absurd (hblanks _ hmem) (by decide)
    simpa [urlSegment, hblank] using h.url_whole.2
  have hsecond : ';' ∉ ' ' :: relSegment rel := by simpa [relSegment] using h.rel_whole.2
  have hcut : splitOn ';' (blanks ++ writeEntry url rel) = [blanks ++ urlSegment url, ' ' :: relSegment rel] := by
    rw [writeEntry_eq, ← List.append_assoc, splitOn_append hfirst, splitOn_of_notMem hsecond]
  rw [Entry.ofPart, hcut, List.foldl_cons, List.foldl_cons, List.foldl_nil, read_urlSegment hblanks,
    read_relSegment h.rel_unquoted]

/-! ## A header -/

theorem comma_notMem (h : Writable url rel) : ',' ∉ writeEntry url rel := by
  simp [writeEntry, h.url_whole.1, h.rel_whole.1]

/-- the parts of a written header: its entries, all but the first with a blank in front -/
def partsOf : List (String × String) → List (List Char)
  | [] => [[]]
  | e :: es => writeEntry e.1 e.2 :: es.map fun e => ' ' :: writeEntry e.1 e.2

theorem partsOf_ne_nil (entries : List (String × String)) : partsOf entries ≠ [] := by
  cases entries <;> simp [partsOf]

theorem join_partsOf (entries : List (String × String)) : join [','] (partsOf entries) = (write entries).toList := by
  rw [write, String.toList_ofList]
  cases entries with
  | nil => rfl
  | cons e es =>
    have hjoin := join_append [','] [' '] (writeEntry e.1 e.2) (es.map fun e => writeEntry e.1 e.2)
    rw [List.map_map] at hjoin
    exact hjoin.symm

theorem comma_notMem_partsOf (h : ∀ e ∈ entries, Writable e.1 e.2) : ∀ part ∈ partsOf entries, ',' ∉ part := by
  cases entries with
  | nil => simp [partsOf]
  | cons e es =>
    obtain ⟨he, hes⟩ := List.forall_mem_cons.1 h
    refine List.forall_mem_cons.2 ⟨comma_notMem he, fun part hpart => ?_⟩
    obtain ⟨e', he', rfl⟩ := List.mem_map.1 hpart
    simpa using comma_notMem (hes e' he')

/-- **A written header is cut into its entries again.** -/
theorem splitOn_write (h : ∀ e ∈ entries, Writable e.1 e.2) : splitOn ',' (write entries).toList = partsOf entries := by
  rw [← join_partsOf, splitOn_join (partsOf_ne_nil entries) (comma_notMem_partsOf h)]

/-- what is read of an entry that was written -/
def readBack (e : String × String) : Entry := ⟨some e.1.toList, decide (e.2 = "next")⟩

theorem nextUrl?_readBack (entries : List (String × String)) :
    nextUrl? (entries.map readBack) = (entries.find? fun e => e.2 = "next").map fun e => e.1.toList := by
  induction entries with
  | nil => rfl
  | cons e es ih =>
    by_cases he : e.2 = "next"
    · simp [readBack, nextUrl?, he]
    · simpa [readBack, nextUrl?, he] using ih

theorem nextUrl?_partsOf (h : ∀ e ∈ entries, Writable e.1 e.2) :
    nextUrl? ((partsOf entries).map Entry.ofPart) =
      (entries.find? fun e => e.2 = "next").map fun e => e.1.toList := by
  rw [← nextUrl?_readBack]
  cases entries with
  | nil => rfl
  | cons e es =>
    obtain ⟨he, hes⟩ := List.forall_mem_cons.1 h
    have hfirst : Entry.ofPart (writeEntry e.1 e.2) = readBack e := ofPart_writeEntry he (List.forall_mem_nil _)
    have hothers : ∀ e' ∈ es, Entry.ofPart (' ' :: writeEntry e'.1 e'.2) = readBack e' :=
      fun e' he' => ofPart_writeEntry (hes e' he') (List.forall_mem_singleton.2 rfl)
    rw [partsOf, List.map_cons, List.map_cons, hfirst, List.map_map]
    exact congrArg (fun es => nextUrl? (readBack e :: es)) (List.map_congr_left hothers)

/-- **The first entry called `next` counts**, whatever its URL. -/
theorem nextPage?_write (h : ∀ e ∈ entries, Writable e.1 e.2) :
    nextPage? (write entries) = (entries.find? fun e => e.2 = "next").bind fun e => pageOf? e.1.toList := by
  rw [nextPage?, splitOn_write h, nextUrl?_partsOf h]
  exact Option.bind_map ..

/-! ## The page of a URL -/

/-- one parameter of a query, as a URL shows it -/
def parameter (key value : List Char) : List Char := key ++ '=' :: value

/-- what the parameter that counts is called -/
def pageKey : List Char := ['p', 'a', 'g', 'e']

/-- behind the first question mark of the URL, the first parameter with the key `page` spells this number; a part of the
query without an equals sign is no parameter -/
def HasPage (url : List Char) (n : UInt32) : Prop :=
  ∃ (path value : List Char) (before after : List (List Char)),
    url = path ++ '?' :: join ['&'] (before ++ parameter pageKey value :: after) ∧ '?' ∉ path ∧
      (∀ part ∈ before ++ parameter pageKey value :: after, '&' ∉ part) ∧
      (∀ part ∈ before, ∀ v, part ≠ parameter pageKey v) ∧ Unsigned value n.toNat

theorem splitOnce_pageKey {part value : List Char} :
    splitOnce '=' part = some (pageKey, value) ↔ part = parameter pageKey value := by
  rw [splitOnce_eq_some_iff]
  exact and_iff_left (by decide)

theorem isPage_iff {part : List Char} :
    ((splitOnce '=' part).any fun p => p.1 = pageKey) = true ↔ ∃ value, part = parameter pageKey value := by
  simp only [← splitOnce_pageKey, Option.any_eq_true, decide_eq_true_eq]
  constructor
  · rintro ⟨⟨_, value⟩, hcut, rfl⟩
    exact ⟨value, hcut⟩
  · rintro ⟨value, hcut⟩
    exact ⟨_, hcut, rfl⟩

/-- the first part that is a parameter with the key `page` -/
theorem find?_page {parts : List (List Char)} {value : List Char} :
    ((parts.filterMap (splitOnce '=')).find? fun p => p.1 = pageKey) = some (pageKey, value) ↔
      ∃ before after, parts = before ++ parameter pageKey value :: after ∧
        ∀ part ∈ before, ∀ v, part ≠ parameter pageKey v := by
  have hnot {part : List Char} : (!(splitOnce '=' part).any fun p => p.1 = pageKey) = true ↔
      ∀ v, part ≠ parameter pageKey v := by
    rw [Bool.not_eq_true', ← Bool.not_eq_true, isPage_iff, not_exists]
  simp only [List.find?_filterMap, Option.bind_eq_some_iff, splitOnce_pageKey, List.find?_eq_some_iff_append, hnot,
    exists_eq_right]
  exact and_iff_right (isPage_iff.2 ⟨value, rfl⟩)

theorem pageOf?_eq (url : List Char) : pageOf? url = (splitOnce '?' url).bind fun cut =>
    (((splitOn '&' cut.2).filterMap (splitOnce '=')).find? fun p => p.1 = pageKey).bind fun p =>
      (unsigned? 32 p.2).bind fun n => some (UInt32.ofNat n) := rfl

/-- **The page of a URL is the number that its first parameter called `page` spells.** -/
theorem pageOf?_eq_some_iff {url : List Char} {n : UInt32} : pageOf? url = some n ↔ HasPage url n := by
  rw [pageOf?_eq]
  constructor
  · intro h
    obtain ⟨⟨path, query⟩, hquery, h⟩ := Option.bind_eq_some_iff.1 h
    obtain ⟨⟨key, value⟩, hfind, hread⟩ := Option.bind_eq_some_iff.1 h
    obtain ⟨rfl, hpath⟩ := splitOnce_eq_some_iff.1 hquery
    have hkey : key = pageKey := by simpa using List.find?_some hfind
    subst hkey
    obtain ⟨before, after, hparts, hbefore⟩ := find?_page.1 hfind
    refine ⟨path, value, before, after, ?_, hpath, ?_, hbefore, word_eq_some_iff.1 hread⟩
    · rw [← hparts, join_splitOn]
    · rw [← hparts]
      exact fun part => notMem_of_mem_splitOn
  · rintro ⟨path, value, before, after, rfl, hpath, hparts, hbefore, hspelled⟩
    have hcut := splitOn_join (by simp) hparts
    have hfind : (((before ++ parameter pageKey value :: after).filterMap (splitOnce '=')).find? fun p =>
        p.1 = pageKey) = some (pageKey, value) := find?_page.2 ⟨before, after, rfl, hbefore⟩
    rw [splitOnce_eq_some_iff.2 ⟨rfl, hpath⟩, Option.bind_some, hcut, hfind, Option.bind_some]
    exact word_eq_some_iff.2 hspelled

/-! ## Headers and pages -/

/-- a parameter as a URL shows it, from its key and its value -/
def writeParameter (p : String × String) : List Char := parameter p.1.toList p.2.toList

/-- a URL with a query of such parameters -/
def writeUrl (path : String) (parameters : List (String × String)) : String :=
  String.ofList (path.toList ++ '?' :: join ['&'] (parameters.map writeParameter))

/-- a parameter that its own text does not cut in two, and whose key ends where it should -/
structure WritableParameter (key value : String) : Prop where
  key_whole : '=' ∉ key.toList ∧ '&' ∉ key.toList
  value_whole : '&' ∉ value.toList

/-- the decimal text of a number -/
def numeral (n : UInt32) : String := String.ofList (decimal n.toNat)

theorem amp_notMem {p : String × String} (h : WritableParameter p.1 p.2) : '&' ∉ writeParameter p := by
  simp [writeParameter, parameter, h.key_whole.2, h.value_whole]

/-- the key of a parameter is what it is written with -/
theorem writeParameter_ne {p : String × String} (h : WritableParameter p.1 p.2) (hkey : p.1 ≠ "page") (v : List Char) :
    writeParameter p ≠ parameter pageKey v := by
  intro heq
  have hcut : splitOnce '=' (writeParameter p) = some (p.1.toList, p.2.toList) :=
    splitOnce_eq_some_iff.2 ⟨rfl, h.key_whole.1⟩
  rw [splitOnce_pageKey.2 heq, Option.some_inj, Prod.mk.injEq] at hcut
  exact hkey (String.toList_inj.1 hcut.1.symm)

theorem writeParameter_page (n : UInt32) :
    writeParameter ("page", numeral n) = parameter pageKey (decimal n.toNat) := by
  simp [writeParameter, pageKey, numeral]

theorem writable_page (n : UInt32) : WritableParameter "page" (numeral n) where
  key_whole := by decide
  value_whole := by
    rw [numeral, String.toList_ofList]
    intro hmem
    have hdigit := (Digits.decimal n.toNat).digits _ hmem
    simp at hdigit

/-- **A page among other parameters is the page of the URL.** -/
theorem hasPage_writeUrl {path : String} {ps qs : List (String × String)} (hpath : '?' ∉ path.toList)
    (hwritable : ∀ p ∈ ps ++ qs, WritableParameter p.1 p.2) (hothers : ∀ p ∈ ps, p.1 ≠ "page") (n : UInt32) :
    HasPage (writeUrl path (ps ++ ("page", numeral n) :: qs)).toList n := by
  have hparts : (ps ++ ("page", numeral n) :: qs).map writeParameter =
      ps.map writeParameter ++ parameter pageKey (decimal n.toNat) :: qs.map writeParameter := by
    rw [List.map_append, List.map_cons, writeParameter_page]
  refine ⟨path.toList, decimal n.toNat, ps.map writeParameter, qs.map writeParameter, ?_, hpath, ?_, ?_, .decimal _⟩
  · rw [writeUrl, String.toList_ofList, hparts]
  · rw [← hparts]
    intro part hpart
    obtain ⟨p, hp, rfl⟩ := List.mem_map.1 hpart
    rcases List.mem_append.1 hp with hp | hp
    · exact amp_notMem (hwritable p (List.mem_append_left _ hp))
    · rcases List.mem_cons.1 hp with rfl | hp
      · exact amp_notMem (writable_page n)
      · exact amp_notMem (hwritable p (List.mem_append_right _ hp))
  · intro part hpart v
    obtain ⟨p, hp, rfl⟩ := List.mem_map.1 hpart
    exact writeParameter_ne (hwritable p (List.mem_append_left _ hp)) (hothers p hp) v

/-- what a header of these entries, each a URL and its relation, says of the next page -/
structure Named (entries : List (String × String)) : Prop where
  /-- it is the page of the first entry called `next`, if that has one -/
  first : ∀ before url after, entries = before ++ (url, "next") :: after → (∀ e ∈ before, e.2 ≠ "next") →
    ∀ n, nextPage? (write entries) = some n ↔ HasPage url.toList n
  /-- and there is none without such an entry -/
  none : (∀ e ∈ entries, e.2 ≠ "next") → nextPage? (write entries) = none
  /-- a page that was written into the URL of that entry, behind parameters with other keys, is the one -/
  written : ∀ before path ps n qs after,
    entries = before ++ (writeUrl path (ps ++ ("page", numeral n) :: qs), "next") :: after →
    (∀ e ∈ before, e.2 ≠ "next") → '?' ∉ path.toList → (∀ p ∈ ps ++ qs, WritableParameter p.1 p.2) →
    (∀ p ∈ ps, p.1 ≠ "page") → nextPage? (write entries) = some n

theorem find?_next {url : String} (h : ∀ e ∈ before, e.2 ≠ "next") :
    ((before ++ (url, "next") :: after).find? fun e => e.2 = "next") = some (url, "next") := by
  rw [List.find?_eq_some_iff_append]
  exact ⟨by simp, before, after, rfl, by simpa using h⟩

/-- **The header format is inverted**: a header that was written names the page of its first entry called `next`. -/
theorem nextPage_of_written (h : ∀ e ∈ entries, Writable e.1 e.2) : Named entries where
  first before url after hentries hbefore n := by
    rw [nextPage?_write h, hentries, find?_next hbefore, Option.bind_some]
    exact pageOf?_eq_some_iff
  none hnone := by
    have hfind : (entries.find? fun e => e.2 = "next") = Option.none := by simpa using hnone
    rw [nextPage?_write h, hfind]
    rfl
  written before path ps n qs after hentries hbefore hpath hwritable hothers := by
    rw [nextPage?_write h, hentries, find?_next hbefore, Option.bind_some]
    exact pageOf?_eq_some_iff.2 (hasPage_writeUrl hpath hwritable hothers n)

/-- the entries before and behind the one that counts -/
def beforeMiddle : List (String × String) := [
  ("https://api.github.com/user/1/repos?page=1", "first"), ("https://api.github.com/user/1/repos?page=9", "next page")]
def behindMiddle : List (String × String) := [("https://api.github.com/user/1/repos?page=5", "next")]

/-- a listing in the middle, with brackets in a URL, a page as another key's value, and a second entry called `next` -/
def middleEntries : List (String × String) :=
  beforeMiddle ++ (writeUrl "https://api.github.com/<u>/repos" ([("per_page", "100"), ("q", "page=7")] ++
    ("page", numeral 4294967295) :: [("page", "2"), ("", "")]), "next") :: behindMiddle

theorem nextPage_of_middle : (∀ e ∈ middleEntries, Writable e.1 e.2) ∧ Named middleEntries ∧
    nextPage? (write middleEntries) = some 4294967295 := by
  have hwritable : ∀ e ∈ middleEntries, Writable e.1 e.2 := by
    have hchecked : ∀ e ∈ middleEntries, (',' ∉ e.1.toList ∧ ';' ∉ e.1.toList) ∧
        (',' ∉ e.2.toList ∧ ';' ∉ e.2.toList) ∧ '"' ∉ e.2.toList := by decide +kernel
    exact fun e he => ⟨(hchecked e he).1, (hchecked e he).2.1, (hchecked e he).2.2⟩
  have hparameters : ∀ p ∈ [("per_page", "100"), ("q", "page=7")] ++ [("page", "2"), ("", "")],
      WritableParameter p.1 p.2 := by
    have hchecked : ∀ p ∈ [("per_page", "100"), ("q", "page=7")] ++ [("page", "2"), ("", "")],
        ('=' ∉ p.1.toList ∧ '&' ∉ p.1.toList) ∧ '&' ∉ p.2.toList := by decide
    exact fun p hp => ⟨(hchecked p hp).1, (hchecked p hp).2⟩
  have hnamed := nextPage_of_written hwritable
  exact ⟨hwritable, hnamed, hnamed.written beforeMiddle "https://api.github.com/<u>/repos" _ 4294967295 _ behindMiddle
    rfl (by decide) (by decide) hparameters (by decide)⟩

end AccountStats.GitHub.Link
