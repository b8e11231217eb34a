import AccountStats.Http.Message
import AccountStats.Proofs.Program.Layers
/-
The HTTP library that requests are handed to, as a parameter.

The library follows redirects before it returns a response. Nothing else is known of it than its documentation says: the
request that it is handed is sent first, each other one goes to the place that the response just before names, and there
are ten redirects at most. What is returned is the last response, unless the place that this names cannot be gone to.
What a location means where a URL was asked is for the library to say as well. Results:
- `Documented.delivered`: what is sent for a request, and what is returned;
- `following_documented`: a library that goes to other places of the same server is as documented.
-/
namespace AccountStats.Http

open Program (Asks Exchange Runs asks_ask asks_done leads_done_iff_runs runs_ask runs_done)

/-- requests, each of which is sent to the server that its URL names -/
abbrev Sending : Interface := ⟨Get, fun _ => Outcome⟩

structure Library where
  /-- the place that a location names in a response to a request for this URL, if it can be gone to -/
  resolve : String → ByteArray → Option String
  /-- what is sent for a request, and what is returned -/
  send : Get → Program Sending Outcome

/-- the location in a response that redirects -/
def Outcome.location? : Outcome → Option ByteArray
  | .response status headers _ => if 300 ≤ status ∧ status < 400 then header? "location" headers else none
  | .timeout | .failed _ => none

def Outcome.isResponse : Outcome → Bool
  | .response _ _ _ => true
  | .timeout | .failed _ => false

/-- the place that the response in an exchange redirects to -/
def place? (resolve : String → ByteArray → Option String) (e : Exchange Sending) : Option String := do
  resolve e.request.url (← e.reply.location?)

/-- redirects followed at most -/
def maxRedirects : Nat := 10

/-- what is returned after these exchanges: what came of the last one, or no response if that is a redirect which leads
nowhere, or if nothing could be sent -/
inductive Returns : List (Exchange Sending) → Outcome → Prop where
  | unsent {x : Outcome} : x.isResponse = false → Returns [] x
  | last (before : List (Exchange Sending)) (e : Exchange Sending) : Returns (before ++ [e]) e.reply
  | astray (before : List (Exchange Sending)) {e : Exchange Sending} {x : Outcome} : e.reply.location?.isSome = true →
      x.isResponse = false → Returns (before ++ [e]) x

theorem Returns.cons {e f : Exchange Sending} {es : List (Exchange Sending)} {x : Outcome} (h : Returns (f :: es) x) :
    Returns (e :: f :: es) x := by
  generalize hes : f :: es = fs at h
  cases h with
  | unsent _ => cases hes
  | last before g => exact .last (e :: before) g
  | astray before hlocation hx => exact .astray (e :: before) hlocation hx

theorem location_of_place {resolve : String → ByteArray → Option String} {e : Exchange Sending} {url : String}
    (h : place? resolve e = some url) : e.reply.location?.isSome = true := by
  obtain ⟨location, hlocation, -⟩ := Option.bind_eq_some_iff.1 h
  rw [hlocation]
  rfl

namespace Library

variable {lib : Library} {first next r : Get} {es : List (Exchange Sending)} {x : Outcome}

/-- what may be sent after these exchanges: at first the request that was handed over, and then one for the place that
the response just before redirects to -/
def Next (lib : Library) (first : Get) (es : List (Exchange Sending)) (r : Get) : Prop :=
  (es = [] ∧ r = first) ∨ es.getLast?.bind (place? lib.resolve) = some r.url

/-- the library does what its documentation says -/
structure Documented (lib : Library) : Prop where
  sends : ∀ r, (lib.send r).Asks (lib.Next r)
  returns : ∀ r es x, (lib.send r).Runs es x → Returns es x
  atMost : ∀ r es x, (lib.send r).Runs es x → es.length ≤ maxRedirects + 1

/-- what is sent for a request, and what is returned -/
structure Delivered (lib : Library) (first : Get) (es : List (Exchange Sending)) (x : Outcome) : Prop where
  requests : ∀ before e later, es = before ++ e :: later → lib.Next first before e.request
  returned : Returns es x
  atMost : es.length ≤ maxRedirects + 1

theorem Documented.delivered (h : lib.Documented) (hruns : (lib.send first).Runs es x) : lib.Delivered first es x where
  requests before e later hsplit := by
    subst hsplit
    exact (h.sends first).of_leads (leads_done_iff_runs.2 hruns)
  returned := h.returns first es x hruns
  atMost := h.atMost first es x hruns

/-- after a redirect, what is sent follows from the request that it leads to -/
theorem Next.redirected {url : String} (hplace : place? lib.resolve ⟨first, x⟩ = some url) (hurl : next.url = url)
    (h : lib.Next next es r) : lib.Next first (⟨first, x⟩ :: es) r := by
  rcases h with ⟨rfl, rfl⟩ | h
  · exact Or.inr (hplace.trans (congrArg some hurl.symm))
  · obtain ⟨e, hlast, he⟩ := Option.bind_eq_some_iff.1 h
    refine Or.inr ?_
    rw [List.getLast?_cons, hlast]
    exact he

/-! ## A library that goes to other places of the same server -/

/-- a text up to the slash of this number, counted from zero -/
def upToSlash : Nat → List Char → List Char
  | _, [] => []
  | n, c :: cs =>
    if c = '/' then
      match n with
      | 0 => []
      | n + 1 => c :: upToSlash n cs
    else c :: upToSlash n cs

/-- a path is a place behind the server of the URL that was asked; no other location is gone to -/
def onSameServer? (url : String) (location : ByteArray) : Option String := do
  match ← headerText? location with
  | '/' :: '/' :: _ => none
  | '/' :: path => some (String.ofList (upToSlash 2 url.toList ++ '/' :: path))
  | _ => none

/-- the request that a redirect leads to; it says where it comes from -/
def redirectedTo (r : Get) (url : String) : Get :=
  ⟨url, r.headers.filter (fun h => h.1 != "referer") ++ [("referer", r.url)]⟩

/-- what is said of a request that is redirected too often -/
def tooManyRedirects (r : Get) : Outcome := .failed ("error following redirect for url (" ++ r.url ++ ")")

/-- a request with so many redirects at most -/
def follow : Nat → Get → Program Sending Outcome
  | 0, r => Program.ask (I := Sending) r fun x =>
    match place? onSameServer? ⟨r, x⟩ with
    | none => .done x
    | some _ => .done (tooManyRedirects r)
  | n + 1, r => Program.ask (I := Sending) r fun x =>
    match place? onSameServer? ⟨r, x⟩ with
    | none => .done x
    | some url => follow n (redirectedTo r url)

def following : Library := ⟨onSameServer?, follow maxRedirects⟩

theorem follow_sends (n : Nat) (r : Get) : (follow n r).Asks (following.Next r) := by
  induction n generalizing r with
  | zero =>
    refine asks_ask (Or.inl ⟨rfl, rfl⟩) fun x => ?_
    cases place? onSameServer? ⟨r, x⟩ <;> exact asks_done _
  | succ n ih =>
    refine asks_ask (Or.inl ⟨rfl, rfl⟩) fun x => ?_
    cases hplace : place? onSameServer? ⟨r, x⟩ with
    | none => exact asks_done _
    | some url => exact (ih (redirectedTo r url)).imp fun es r' h => h.redirected hplace rfl

/-- the exchanges of a request begin with it, and end with what is returned -/
theorem follow_runs {n : Nat} (h : (follow n r).Runs es x) :
    (∃ e rest, es = e :: rest) ∧ Returns es x ∧ es.length ≤ n + 1 := by
  induction n generalizing r es with
  | zero =>
    obtain ⟨y, rest, rfl, hrest⟩ := runs_ask.1 h
    refine ⟨⟨_, rest, rfl⟩, ?_⟩
    cases hplace : place? onSameServer? ⟨r, y⟩ with
    | none =>
      rw [hplace] at hrest
      obtain ⟨rfl, rfl⟩ := runs_done.1 hrest
      exact ⟨.last [] ⟨r, x⟩, le_rfl⟩
    | some url =>
      rw [hplace] at hrest
      obtain ⟨rfl, rfl⟩ := runs_done.1 hrest
      exact ⟨.astray [] (location_of_place hplace) rfl, le_rfl⟩
  | succ n ih =>
    obtain ⟨y, rest, rfl, hrest⟩ := runs_ask.1 h
    refine ⟨⟨_, rest, rfl⟩, ?_⟩
    cases hplace : place? onSameServer? ⟨r, y⟩ with
    | none =>
      rw [hplace] at hrest
      obtain ⟨rfl, rfl⟩ := runs_done.1 hrest
      exact ⟨.last [] ⟨r, x⟩, Nat.le_add_left 1 (n + 1)⟩
    | some url =>
      rw [hplace] at hrest
      obtain ⟨⟨e, es, rfl⟩, hreturns, hlength⟩ := ih hrest
      exact ⟨hreturns.cons, Nat.succ_le_succ hlength⟩

theorem follow_leads {n : Nat} {url : String} (h : place? onSameServer? ⟨r, x⟩ = some url) :
    (follow (n + 1) r).Leads [⟨r, x⟩] (follow n (redirectedTo r url)) := by
  refine .ask ?_
  rw [h]
  exact .rest _

/-- **A library that goes to other places of the same server is as documented.** -/
theorem following_documented : following.Documented where
  sends := follow_sends maxRedirects
  returns _ _ _ h := (follow_runs h).2.1
  atMost _ _ _ h := (follow_runs h).2.2

end Library

end AccountStats.Http
