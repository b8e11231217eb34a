import Mathlib.Tactic
import AccountStats.Proofs.GitHub.Fetching
/-
A fetch is all or nothing.

GitHub names the page that follows each page, and may name any: one that has been read, the same one, or one far ahead.
Whatever it replies, and whatever becomes of the leases, a listing reads pages with greater and greater numbers, and the
first failure ends the fetch. Results:
- `Requested.succeeds`, `Requested.stops`: a request for a piece that is replied to, and one that is not;
- `Paged.walk`: what a listing has come through, page by page;
- `length_le_of_pairwise`: pages with greater and greater numbers are not many;
- `fetch_all_or_nothing`: a fetch is complete, or has stopped at its first failure, and it always ends.
-/
namespace AccountStats.GitHub

open Program (Exchange Replied Runs exists_runs)

variable {es fs : List (Exchange Calls)} {e : Exchange Calls} {username : String} {tokens : List String} {f : Failure}

/-! ## What is read off the exchanges -/

/-- a page, and the reply to the call for it -/
abbrev Listing := UInt32 × Except CallError (Response (List ListedRepository))

def listing? : Exchange Calls → Option Listing
  | ⟨.listRepositories _ _ page, x⟩ => some (page, x)
  | _ => none

def profile? : Exchange Calls → Option (Except CallError (Response User))
  | ⟨.getUser _ _, x⟩ => some x
  | _ => none

/-- the pages that were asked for, in order -/
def listings (es : List (Exchange Calls)) : List Listing := es.filterMap listing?

/-- the replies to the calls for the profile -/
def profiles (es : List (Exchange Calls)) : List (Except CallError (Response User)) := es.filterMap profile?

/-- the error that a call for a piece was replied to with -/
def callError? : Exchange Calls → Option CallError
  | ⟨.getUser _ _, .error e⟩ => some e
  | ⟨.listRepositories _ _ _, .error e⟩ => some e
  | _ => none

/-- what an exchange means for an account, if it is that a lease is refused or a call fails -/
def failure? (username : String) (e : Exchange Calls) : Option Failure :=
  if isRefusal e then some (.noQuotaLeft username) else (callError? e).map (failure username)

/-- GitHub replied that there is no such account -/
def isMissing (e : Exchange Calls) : Bool :=
  match callError? e with
  | some (.notFound _) => true
  | _ => false

/-- a report that is settled, or a note: no request, nor a step towards a lease -/
def Ask.isClosing : Ask → Bool
  | .record .. | .note _ => true
  | .now | .check _ | .install .. | .probe _ | .getUser .. | .listRepositories .. => false

/-- neither a call for a piece nor a failure -/
structure Minor (username : String) (e : Exchange Calls) : Prop where
  listing : listing? e = none
  profile : profile? e = none
  failure : failure? username e = none

theorem minor_of_isLeasing (hleasing : e.request.isLeasing = true) (hrefusal : isRefusal e = false) :
    Minor username e := by
  have hcall : listing? e = none ∧ profile? e = none ∧ callError? e = none := by
    obtain ⟨r, x⟩ := e
    cases r with
    | check _ | probe _ | install _ _ | note _ => exact ⟨rfl, rfl, rfl⟩
    | now | record _ _ | getUser _ _ | listRepositories _ _ _ => cases hleasing
  obtain ⟨hlisting, hprofile, herror⟩ := hcall
  exact ⟨hlisting, hprofile, by rw [failure?, hrefusal, herror]; rfl⟩

theorem Looks.minor (h : Looks e) : Minor username e := minor_of_isLeasing h.leasing h.noRefusal

theorem Granted.minor {l : Lease} (h : Granted tokens es l) : ∀ e ∈ es, Minor username e := by
  obtain ⟨scan, g, rfl, hlooks, hleasing, hrefusal, -⟩ := h.grant
  refine List.forall_mem_append.2 ⟨fun e he => (hlooks e he).minor, fun e he => ?_⟩
  rw [List.mem_singleton.1 he]
  exact minor_of_isLeasing hleasing hrefusal

theorem listings_of_minor (h : ∀ e ∈ es, Minor username e) : listings es = [] :=
  List.filterMap_eq_nil_iff.2 fun e he => (h e he).listing

theorem profiles_of_minor (h : ∀ e ∈ es, Minor username e) : profiles es = [] :=
  List.filterMap_eq_nil_iff.2 fun e he => (h e he).profile

theorem listings_append : listings (es ++ fs) = listings es ++ listings fs := List.filterMap_append ..

theorem profiles_append : profiles (es ++ fs) = profiles es ++ profiles fs := List.filterMap_append ..

/-! ## One piece -/

theorem callError?_of_isRefusal (h : isRefusal e = true) : callError? e = none := by
  obtain ⟨r, x⟩ := e
  cases r with
  | note _ => rfl
  | now | check _ | install _ _ | record _ _ | probe _ | getUser _ _ | listRepositories _ _ _ => cases h

theorem kind_of_failure? (h : failure? username e = some f) :
    f.kind = if isMissing e then .notFound else .unavailable := by
  cases hrefusal : isRefusal e with
  | true =>
    rw [failure?, if_pos hrefusal] at h
    obtain rfl := Option.some.inj h
    rw [isMissing, callError?_of_isRefusal hrefusal]
    rfl
  | false =>
    rw [failure?, hrefusal, if_neg Bool.false_ne_true] at h
    obtain ⟨err, herr, rfl⟩ := Option.map_eq_some_iff.1 h
    rw [isMissing, herr]
    cases err <;> rfl

/-- some exchanges stop at a failure: it is the first one, nothing is requested after it, and of its kind there are only
two -/
structure Stops (username : String) (es : List (Exchange Calls)) (f : Failure) : Prop where
  first : ∃ before e after, es = before ++ e :: after ∧ (∀ b ∈ before, failure? username b = none) ∧
    failure? username e = some f ∧ (∀ a ∈ after, a.request.isClosing = true) ∧
    f.kind = if isMissing e then .notFound else .unavailable

theorem Stops.prepend {before : List (Exchange Calls)} (h : Stops username es f)
    (hbefore : ∀ b ∈ before, failure? username b = none) : Stops username (before ++ es) f := by
  obtain ⟨between, e, after, rfl, hbetween, hrest⟩ := h.first
  exact ⟨before ++ between, e, after, (List.append_assoc ..).symm, List.forall_mem_append.2 ⟨hbefore, hbetween⟩, hrest⟩

theorem isClosing_settlement (l : Lease) (report? : Option QuotaReport) :
    ∀ e ∈ settlement l report?, e.request.isClosing = true ∧ Minor username e := by
  cases report? with
  | none => exact fun _ he => absurd he List.not_mem_nil
  | some report =>
    intro e he
    rw [List.mem_singleton.1 he]
    exact ⟨rfl, rfl, rfl, rfl⟩

theorem isClosing_failureNotes (err : CallError) :
    ∀ e ∈ failureNotes username err, e.request.isClosing = true ∧ Minor username e := by
  cases err with
  | notFound _ => exact fun _ he => absurd he List.not_mem_nil
  | status _ _ | malformed _ _ | timeout | transport _ =>
    intro e he
    rw [List.mem_singleton.1 he]
    exact ⟨rfl, rfl, rfl, rfl⟩

variable {piece : Piece}

/-- among these exchanges there is one call for a piece, with this reply -/
structure Called (username : String) (piece : Piece) (x : Except CallError (Response piece.Body))
    (es : List (Exchange Calls)) : Prop where
  call : ∃ before token after, es = before ++ piece.exchange token username x :: after ∧
    (∀ e ∈ before, Minor username e) ∧ ∀ e ∈ after, Minor username e

theorem Called.page {page : UInt32} {x : Except CallError (Response (List ListedRepository))}
    (h : Called username (.page page) x es) : listings es = [(page, x)] ∧ profiles es = [] := by
  obtain ⟨before, token, after, rfl, hbefore, hafter⟩ := h.call
  constructor
  · rw [listings_append, listings_of_minor hbefore]
    exact congrArg (List.cons (page, x)) (listings_of_minor hafter)
  · have hnone : profiles after = [] := profiles_of_minor hafter
    rw [profiles_append, profiles_of_minor hbefore]
    exact hnone

theorem Called.profile {x : Except CallError (Response User)} (h : Called username .profile x es) :
    listings es = [] ∧ profiles es = [x] := by
  obtain ⟨before, token, after, rfl, hbefore, hafter⟩ := h.call
  constructor
  · have hnone : listings after = [] := listings_of_minor hafter
    rw [listings_append, listings_of_minor hbefore]
    exact hnone
  · rw [profiles_append, profiles_of_minor hbefore]
    exact congrArg (List.cons x) (profiles_of_minor hafter)

/-- a request that is replied to calls for its piece, and fails nowhere -/
theorem Requested.succeeds {r : Response piece.Body} (h : Requested tokens username piece es (.ok r)) :
    Called username piece (.ok r) es ∧ ∀ e ∈ es, failure? username e = none := by
  cases h with
  | @replied leasing l r hleasing =>
    have hbefore : ∀ e ∈ leasing, Minor username e := (granted_of_runs hleasing).minor
    have hafter : ∀ e ∈ settlement l (some r.report), Minor username e :=
      fun e he => (isClosing_settlement l _ e he).2
    have hcall : failure? username (piece.exchange l.token username (.ok r)) = none := by
      cases piece <;> rfl
    refine ⟨⟨leasing, l.token, _, rfl, hbefore, hafter⟩, ?_⟩
    refine List.forall_mem_append.2 ⟨fun e he => (hbefore e he).failure, ?_⟩
    exact List.forall_mem_cons.2 ⟨hcall, fun e he => (hafter e he).failure⟩

/-- a request that does not succeed stops where the lease is refused, before any call, or where the call fails -/
theorem Requested.stops (h : Requested tokens username piece es (.error f)) :
    Stops username es f ∧ ((es.any isRefusal = true ∧ listings es = [] ∧ profiles es = []) ∨
      ∃ err, Called username piece (.error err) es) := by
  cases h with
  | refused hleasing =>
    obtain ⟨scan, rfl, hlooks⟩ := refused_of_runs hleasing
    have hscan : ∀ e ∈ scan, Minor username e := fun e he => (hlooks e he).minor
    constructor
    · refine ⟨scan, _, _, rfl, fun e he => (hscan e he).failure, rfl, ?_, rfl⟩
      intro e he
      rw [List.mem_singleton.1 he]
      rfl
    · refine Or.inl ⟨?_, ?_, ?_⟩
      · rw [List.any_append, Bool.or_eq_true]
        exact Or.inr rfl
      · rw [listings_append, listings_of_minor hscan]
        rfl
      · rw [profiles_append, profiles_of_minor hscan]
        rfl
  | @failed leasing l err hleasing =>
    have hbefore : ∀ e ∈ leasing, Minor username e := (granted_of_runs hleasing).minor
    have hafter : ∀ e ∈ settlement l err.report? ++ failureNotes username err,
        e.request.isClosing = true ∧ Minor username e :=
      List.forall_mem_append.2 ⟨isClosing_settlement l _, isClosing_failureNotes err⟩
    have hfails : failure? username (piece.exchange l.token username (.error err)) = some (failure username err) := by
      cases piece <;> rfl
    refine ⟨⟨leasing, _, _, rfl, fun e he => (hbefore e he).failure, hfails, fun e he => (hafter e he).1,
      kind_of_failure? hfails⟩, Or.inr ⟨err, leasing, l.token, _, rfl, hbefore, fun e he => (hafter e he).2⟩⟩

/-! ## The listing -/

/-- one page follows another: the reply names it as the next, and its number is greater -/
def Succeeds (a b : Listing) : Prop := ∃ r, a.2 = .ok r ∧ r.nextPage = some b.1 ∧ a.1 < b.1

/-- a page is the last of its listing: it names none to follow it -/
def IsLast (page : UInt32) (r : Response (List ListedRepository)) : Prop := ∀ next, r.nextPage = some next → ¬page < next

/-- what a listing from one page on has come through -/
structure Walk (username : String) (page : UInt32) (es : List (Exchange Calls))
    (result : Except Failure (List Repository)) : Prop where
  noProfile : profiles es = []
  reaches : listings es = [] → es.any isRefusal = true
  starts : ∀ a ∈ (listings es).head?, a.1 = page
  linked : (listings es).IsChain Succeeds
  ends : ∀ p r, (listings es).getLast? = some (p, .ok r) → IsLast p r ∨ es.any isRefusal = true
  succeeds : ∀ repositories, result = .ok repositories → (∀ e ∈ es, failure? username e = none) ∧
    ∃ bodies : List (List ListedRepository), (listings es).map (fun a => a.2.map Response.body) = bodies.map .ok ∧
      repositories = bodies.flatten.map ListedRepository.toRepository
  stops : ∀ f, result = .error f → Stops username es f

theorem isLast_of_nextAfter {page : UInt32} {r : Response (List ListedRepository)} (h : nextAfter page r = none) :
    IsLast page r := by
  intro next hnext hlt
  rw [nextAfter_eq_some.2 ⟨hnext, hlt⟩] at h
  cases h

theorem Paged.walk {page : UInt32} {result : Except Failure (List Repository)}
    (h : Paged tokens username page es result) : Walk username page es result := by
  induction h with
  | @failed page es f hrequested =>
    obtain ⟨hstops, ⟨hrefused, hlistings, hprofiles⟩ | ⟨err, hcalled⟩⟩ := hrequested.stops
    · exact
        { noProfile := hprofiles
          reaches := fun _ => hrefused
          starts := by simp [hlistings]
          linked := by simp [hlistings]
          ends := fun _ _ _ => Or.inr hrefused
          succeeds := nofun
          stops := fun _ hf => Except.error.inj hf ▸ hstops }
    · obtain ⟨hlistings, hprofiles⟩ := hcalled.page
      exact
        { noProfile := hprofiles
          reaches := by simp [hlistings]
          starts := by simp [hlistings]
          linked := by simp [hlistings]
          ends := by simp [hlistings]
          succeeds := nofun
          stops := fun _ hf => Except.error.inj hf ▸ hstops }
  | @last page es r hrequested hlast =>
    obtain ⟨hcalled, hsucceeds⟩ := hrequested.succeeds
    obtain ⟨hlistings, hprofiles⟩ := hcalled.page
    refine
      { noProfile := hprofiles
        reaches := by simp [hlistings]
        starts := by simp [hlistings]
        linked := by simp [hlistings]
        ends := ?_
        succeeds := ?_
        stops := nofun }
    · intro p r' hlast'
      rw [hlistings, List.getLast?_singleton] at hlast'
      cases hlast'
      exact Or.inl (isLast_of_nextAfter hlast)
    · rintro _ ⟨⟩
      exact ⟨hsucceeds, [r.body], by rw [hlistings]; rfl, by simp [repositoriesOn]⟩
  | @more page next es fs r rest hrequested hnext hrest ih =>
    obtain ⟨hcalled, hsucceeds⟩ := hrequested.succeeds
    obtain ⟨hlistings, hprofiles⟩ := hcalled.page
    obtain ⟨hnamed, hlt⟩ := nextAfter_eq_some.1 hnext
    have hall : listings (es ++ fs) = (page, .ok r) :: listings fs := by
      rw [listings_append, hlistings]
      rfl
    have hrefused : fs.any isRefusal = true → (es ++ fs).any isRefusal = true := by
      intro hfs
      rw [List.any_append, hfs, Bool.or_true]
    refine
      { noProfile := by rw [profiles_append, hprofiles, ih.noProfile]; rfl
        reaches := by simp [hall]
        starts := by simp [hall]
        linked := ?_
        ends := ?_
        succeeds := ?_
        stops := ?_ }
    · rw [hall, List.isChain_cons]
      refine ⟨fun b hb => ⟨r, rfl, ?_⟩, ih.linked⟩
      rw [ih.starts b hb]
      exact ⟨hnamed, hlt⟩
    · intro p r' hlast
      rw [hall] at hlast
      cases hfs : listings fs with
      | nil => exact Or.inr (hrefused (ih.reaches hfs))
      | cons a as =>
        rw [hfs, List.getLast?_cons_cons, ← hfs] at hlast
        exact (ih.ends p r' hlast).imp_right hrefused
    · intro repositories hrepositories
      cases rest with
      | error f => cases hrepositories
      | ok rest =>
        cases hrepositories
        obtain ⟨hfine, bodies, hbodies, rfl⟩ := ih.succeeds rest rfl
        refine ⟨List.forall_mem_append.2 ⟨hsucceeds, hfine⟩, r.body :: bodies, ?_, ?_⟩
        · rw [hall, List.map_cons, List.map_cons, hbodies]
          rfl
        · rw [List.flatten_cons, List.map_append, repositoriesOn]
    · intro f hf
      cases rest with
      | ok rest => cases hf
      | error f' =>
        cases hf
        exact (ih.stops f rfl).prepend hsucceeds

/-! ## Pages with greater and greater numbers -/

theorem increasing_of_linked {as : List Listing} (h : as.IsChain Succeeds) : (as.map Prod.fst).Pairwise (· < ·) := by
  have hsteps : (as.map Prod.fst).IsChain (· < ·) := (List.isChain_map Prod.fst).2 (h.imp fun a b ⟨_, _, _, hlt⟩ => hlt)
  exact hsteps.pairwise

/-- pages with greater and greater numbers are not many, if the first of them is page 1 -/
theorem length_le_of_pairwise {pages : List UInt32} (hpages : pages.Pairwise (· < ·))
    (hfirst : ∀ p ∈ pages.head?, p = 1) : pages.length ≤ 4294967295 := by
  -- page 0 could stand before them, and all numbers there are would do
  have hpositive : ∀ p ∈ pages, 0 < p := by
    cases pages with
    | nil => exact fun _ hp => absurd hp List.not_mem_nil
    | cons first rest =>
      obtain rfl : first = 1 := hfirst first rfl
      refine List.forall_mem_cons.2 ⟨by decide, fun p hp => ?_⟩
      exact UInt32.lt_trans (by decide) ((List.pairwise_cons.1 hpages).1 p hp)
  have hdistinct : ((0 :: pages).map UInt32.toFin).Nodup := by
    refine List.Nodup.map (fun a b => UInt32.toFin_inj.1) ?_
    exact ((List.pairwise_cons.2 ⟨hpositive, hpages⟩).imp UInt32.ne_of_lt)
  have hcount := hdistinct.length_le_card
  rw [List.length_map, List.length_cons, Fintype.card_fin] at hcount
  exact Nat.le_of_succ_le_succ hcount

/-! ## All or nothing -/

/-- the snapshot that is made of a user and the bodies of pages, field by field -/
def assembled (user : User) (bodies : List (List ListedRepository)) (now : Time.Instant) : Snapshot where
  profile :=
    { username := user.login, name := user.name, company := user.company, location := user.location, bio := user.bio,
      publicRepos := user.publicRepos, followers := user.followers, following := user.following }
  repositories := bodies.flatten.map fun r =>
    { id := r.id, owner := r.owner.login, pushedAt := r.pushedAt, updatedAt := r.updatedAt, language := r.language,
      stars := r.stargazersCount, isFork := r.fork, forks := r.forksCount }
  fetchedAt := now

/-- what a fetch has come to, and through which pages -/
structure AllOrNothing (username : String) (es : List (Exchange Calls)) (result : Except Failure Snapshot) : Prop where
  /-- the first page is page 1 -/
  starts : ∀ a ∈ (listings es).head?, a.1 = 1
  /-- each page was named by the page before it as the next -/
  linked : (listings es).IsChain Succeeds
  /-- so no page was asked for twice -/
  increasing : ((listings es).map Prod.fst).Pairwise (· < ·)
  bounded : (listings es).length ≤ 4294967295
  /-- and pages are asked for until one names no page with a greater number, unless a lease is refused -/
  ends : ∀ p r, (listings es).getLast? = some (p, .ok r) → IsLast p r ∨ es.any isRefusal = true
  /-- a fetch succeeds just if it is for a login, no lease is refused and no call fails -/
  succeeds : (∃ s, result = .ok s) ↔ isLogin username = true ∧ ∀ e ∈ es, failure? username e = none
  /-- then the snapshot is made of the profile and all the pages, in order -/
  snapshot : ∀ s, result = .ok s → ∃ (user : Response User) (bodies : List (List ListedRepository)) (now : Time.Instant),
    profiles es = [.ok user] ∧ (listings es).map (fun a => a.2.map Response.body) = bodies.map .ok ∧
      s = assembled user.body bodies now
  /-- a text that is no login names no account, and all other errors are that of the first failure -/
  stops : ∀ f, result = .error f →
    (isLogin username = false ∧ es = [] ∧ f = .accountNotFound username) ∨ Stops username es f

theorem Stops.failed (h : Stops username es f) : ¬∀ e ∈ es, failure? username e = none := by
  obtain ⟨before, e, after, rfl, -, hfails, -⟩ := h.first
  intro hfine
  rw [hfine e (by simp)] at hfails
  cases hfails

theorem no_snapshot (f : Failure) : ¬∃ s : Snapshot, Except.error f = .ok s := by
  rintro ⟨s, ⟨⟩⟩

/-- a fetch that has not come to the pages -/
theorem allOrNothing_of_noListing (hlistings : listings es = [])
    (hstops : (isLogin username = false ∧ es = [] ∧ f = .accountNotFound username) ∨ Stops username es f) :
    AllOrNothing username es (.error f) where
  starts := by simp [hlistings]
  linked := by simp [hlistings]
  increasing := by simp [hlistings]
  bounded := by simp [hlistings]
  ends := by simp [hlistings]
  succeeds := by
    refine iff_of_false (no_snapshot f) fun ⟨hlogin, hfine⟩ => ?_
    rcases hstops with ⟨hno, -, -⟩ | hstops
    · exact Bool.false_ne_true (hno.symm.trans hlogin)
    · exact hstops.failed hfine
  snapshot s hs := absurd ⟨s, hs⟩ (no_snapshot f)
  stops f' hf := Except.error.inj hf ▸ hstops

/-- a fetch that has come to the pages: they are those of the listing -/
theorem allOrNothing_of_walk {result : Except Failure Snapshot} {listed : Except Failure (List Repository)}
    (hwalk : Walk username 1 fs listed) (hlistings : listings es = listings fs)
    (hrefusals : fs.any isRefusal = true → es.any isRefusal = true)
    (hsucceeds : (∃ s, result = .ok s) ↔ isLogin username = true ∧ ∀ e ∈ es, failure? username e = none)
    (hsnapshot : ∀ s, result = .ok s →
      ∃ (user : Response User) (bodies : List (List ListedRepository)) (now : Time.Instant),
        profiles es = [.ok user] ∧ (listings es).map (fun a => a.2.map Response.body) = bodies.map .ok ∧
          s = assembled user.body bodies now)
    (hstops : ∀ f, result = .error f → Stops username es f) : AllOrNothing username es result where
  starts := hlistings ▸ hwalk.starts
  linked := hlistings ▸ hwalk.linked
  increasing := hlistings ▸ increasing_of_linked hwalk.linked
  bounded := by
    have hfirst : ∀ p ∈ ((listings fs).map Prod.fst).head?, p = 1 := by
      intro p hp
      rw [List.head?_map] at hp
      obtain ⟨a, ha, rfl⟩ := Option.map_eq_some_iff.1 hp
      exact hwalk.starts a ha
    have hcount := length_le_of_pairwise (increasing_of_linked hwalk.linked) hfirst
    rwa [List.length_map, ← hlistings] at hcount
  ends p r hlast := (hwalk.ends p r (hlistings ▸ hlast)).imp_right hrefusals
  succeeds := hsucceeds
  snapshot := hsnapshot
  stops f hf := Or.inr (hstops f hf)

theorem Fetched.allOrNothing {result : Except Failure Snapshot} (h : Fetched tokens username es result) :
    AllOrNothing username es result := by
  cases h with
  | noLogin hlogin => exact allOrNothing_of_noListing rfl (Or.inl ⟨hlogin, rfl, rfl⟩)
  | @noProfile es f hlogin hprofile =>
    obtain ⟨hstops, hcalls⟩ := hprofile.stops
    have hlistings : listings es = [] := by
      rcases hcalls with ⟨-, hlistings, -⟩ | ⟨err, hcalled⟩
      · exact hlistings
      · exact hcalled.profile.1
    exact allOrNothing_of_noListing hlistings (Or.inr hstops)
  | @noListing es fs user f hlogin hprofile hpages =>
    obtain ⟨hcalled, hfine⟩ := hprofile.succeeds
    have hstops : Stops username (es ++ fs) f := (hpages.walk.stops f rfl).prepend hfine
    refine allOrNothing_of_walk hpages.walk ?_ ?_ (iff_of_false (no_snapshot f) fun hfine => hstops.failed hfine.2)
      (fun s hs => absurd ⟨s, hs⟩ (no_snapshot f)) ?_
    · rw [listings_append, hcalled.profile.1, List.nil_append]
    · intro hrefused
      rw [List.any_append, hrefused, Bool.or_true]
    · exact fun f' hf => Except.error.inj hf ▸ hstops
  | @complete es fs user repositories now hlogin hprofile hpages =>
    obtain ⟨hcalled, hfine⟩ := hprofile.succeeds
    obtain ⟨hlisted, bodies, hbodies, rfl⟩ := hpages.walk.succeeds repositories rfl
    have hlistings : listings (es ++ fs ++ [⟨.now, now⟩]) = listings fs := by
      rw [listings_append, listings_append, hcalled.profile.1, List.nil_append]
      exact List.append_nil _
    have hprofiles : profiles (es ++ fs ++ [⟨.now, now⟩]) = [.ok user] := by
      rw [profiles_append, profiles_append, hcalled.profile.2, hpages.walk.noProfile]
      rfl
    have hall : ∀ e ∈ es ++ fs ++ [⟨.now, now⟩], failure? username e = none := by
      refine List.forall_mem_append.2 ⟨List.forall_mem_append.2 ⟨hfine, hlisted⟩, fun e he => ?_⟩
      rw [List.mem_singleton.1 he]
      rfl
    refine allOrNothing_of_walk hpages.walk hlistings ?_ ⟨fun _ => ⟨hlogin, hall⟩, fun _ => ⟨_, rfl⟩⟩ ?_ nofun
    · intro hrefused
      rw [List.any_append, List.any_append, hrefused, Bool.or_true, Bool.true_or]
    · rintro _ ⟨⟩
      exact ⟨user, bodies, now, hprofiles, hlistings ▸ hbodies, rfl⟩

/-- **A fetch is all or nothing**, whatever GitHub replies and whether leases are granted or not. It reads page after
page, each named by the one before it and with a greater number. If no lease is refused and no call fails it returns all
that was read, in order; otherwise the error of the first failure, after which nothing is requested. It always ends. -/
theorem fetch_all_or_nothing (tokens : List String) (username : String) :
    (∀ es result, Runs (fetchAccount tokens username) es result → AllOrNothing username es result) ∧
    ∀ (σ : Type) (answer : (r : Ask) → σ → r.Reply × σ) (s : σ), ∃ es,
      Runs (fetchAccount tokens username) es ((fetchAccount tokens username).run answer s).1 ∧
        Replied answer s es ((fetchAccount tokens username).run answer s).2 := by
  constructor
  · intro es result h
    exact (runs_fetchAccount_iff.1 h).allOrNothing
  · intro σ answer s
    exact exists_runs answer (fetchAccount tokens username) s

/-- a piece is replied to, paid for by the first credential -/
theorem requested_first (token username : String) (rest : List String) (piece : Piece) (r : Response piece.Body) :
    Requested (token :: rest) username piece
      [⟨.check 0, .reserved⟩, piece.exchange token username (.ok r), ⟨.record 0 r.report, ()⟩] (.ok r) := by
  have hleasing : Runs (acquire (token :: rest)) [⟨.check 0, .reserved⟩] (some ⟨0, token⟩) := .ask (.done _)
  exact .replied r hleasing

def annsProfile : Response User := ⟨⟨"ann", some "Ann", none, some "Oslo", none, 2, 7, 3⟩, .none, none⟩

/-- the first page is followed by the third, which names the second as the next -/
def annsPage1 : Response (List ListedRepository) := ⟨[⟨1, ⟨"ann"⟩, none, none, some "C", 5, false, 0⟩], .none, some 3⟩
def annsPage3 : Response (List ListedRepository) := ⟨[⟨2, ⟨"ann"⟩, none, none, some "Rust", 7, true, 1⟩], .none, some 2⟩

def annsFetch : List (Exchange Calls) :=
  [⟨.check 0, .reserved⟩, ⟨.getUser "tok" "ann", .ok annsProfile⟩, ⟨.record 0 .none, ()⟩,
    ⟨.check 0, .reserved⟩, ⟨.listRepositories "tok" "ann" 1, .ok annsPage1⟩, ⟨.record 0 .none, ()⟩,
    ⟨.check 0, .reserved⟩, ⟨.listRepositories "tok" "ann" 3, .ok annsPage3⟩, ⟨.record 0 .none, ()⟩, ⟨.now, .epoch⟩]

def annsSnapshot : Snapshot :=
  ⟨⟨"ann", some "Ann", none, some "Oslo", none, 2, 7, 3⟩,
    [⟨1, "ann", none, none, some "C", 5, false, 0⟩, ⟨2, "ann", none, none, some "Rust", 7, true, 1⟩], .epoch⟩

theorem fetch_all_or_nothing_backwards :
    Runs (fetchAccount ["tok"] "ann") annsFetch (.ok annsSnapshot) ∧
    AllOrNothing "ann" annsFetch (.ok annsSnapshot) ∧ (listings annsFetch).map Prod.fst = [1, 3] := by
  have hlast := Paged.last (requested_first "tok" "ann" [] (.page 3) annsPage3) (by decide)
  have hpages := Paged.more (requested_first "tok" "ann" [] (.page 1) annsPage1) (by decide) hlast
  have hruns : Runs (fetchAccount ["tok"] "ann") annsFetch (.ok annsSnapshot) :=
    runs_fetchAccount_iff.2
      (.complete .epoch (by decide) (requested_first "tok" "ann" [] .profile annsProfile) hpages)
  exact ⟨hruns, (fetch_all_or_nothing ["tok"] "ann").1 annsFetch _ hruns, rfl⟩

end AccountStats.GitHub
