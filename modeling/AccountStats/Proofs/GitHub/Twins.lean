import Mathlib.Tactic
import AccountStats.GitHub.Fetch
import AccountStats.Proofs.GitHub.Leasing
/-
Programs that differ in tokens only.

Two tokens look alike if the same is shown of them. Two programs are twins if they ask for the same, but for tokens that
look alike, as long as they are replied to in the same way. Results:
- `sameMask_usableTokens`: of configured tokens that look alike, the pool takes the same ones;
- `Twin.bind`: what is made of twins, part by part, is a twin;
- `twin_connectPool`, `twin_acquire`, `twin_fetchAccount`: filling the pool, leasing and fetching are twins when their
  tokens look alike.
-/
namespace AccountStats.GitHub

/-! ## Tokens that look alike -/

section Tokens

/-- the last four characters, or all of them if there are fewer -/
def lastFour (s : String) : List Char := (s.toList.reverse.take 4).reverse

theorem maskToken_eq (token : String) : maskToken token = String.ofList ('…' :: lastFour token) := rfl

/-- two configured tokens that look alike: both blank or neither, and the same at the end -/
structure LookAlike (t t' : String) : Prop where
  blank : Text.trimmed t = "" ↔ Text.trimmed t' = ""
  lastFour : lastFour (Text.trimmed t) = lastFour (Text.trimmed t')

/-- two tokens of which the same is shown -/
def SameMask (t t' : String) : Prop := maskToken t = maskToken t'

variable {t t' : String} {tokens tokens' : List String}

theorem LookAlike.sameMask (h : LookAlike t t') : SameMask (Text.trimmed t) (Text.trimmed t') := by
  rw [SameMask, maskToken_eq, maskToken_eq, h.lastFour]

theorem usableTokens_blank (h : Text.trimmed t = "") (tokens : List String) :
    usableTokens (t :: tokens) = usableTokens tokens := by
  rw [usableTokens, usableTokens, List.map_cons, List.filter_cons_of_neg (by simpa using h)]

theorem usableTokens_cons (h : Text.trimmed t ≠ "") (tokens : List String) :
    usableTokens (t :: tokens) = Text.trimmed t :: usableTokens tokens := by
  rw [usableTokens, usableTokens, List.map_cons, List.filter_cons_of_pos (by simpa using h)]

theorem sameMask_usableTokens (h : List.Forall₂ LookAlike tokens tokens') :
    List.Forall₂ SameMask (usableTokens tokens) (usableTokens tokens') := by
  induction h with
  | nil => exact .nil
  | @cons t t' tokens tokens' ht _ ih =>
    by_cases hblank : Text.trimmed t = ""
    · rw [usableTokens_blank hblank, usableTokens_blank (ht.blank.1 hblank)]
      exact ih
    · rw [usableTokens_cons hblank, usableTokens_cons (mt ht.blank.2 hblank)]
      exact .cons ht.sameMask ih

end Tokens

/-! ## Twins -/

/-- two requests that differ in a token at most, and how a reply to the one serves as a reply to the other -/
inductive Ask.Twin : (r r' : Ask) → (r.Reply → r'.Reply) → Prop where
  | same (r : Ask) : Ask.Twin r r id
  | probe {t t' : String} (h : SameMask t t') : Ask.Twin (.probe t) (.probe t') id
  | getUser {t t' : String} (h : SameMask t t') (login : String) : Ask.Twin (.getUser t login) (.getUser t' login) id
  | listRepositories {t t' : String} (h : SameMask t t') (login : String) (page : UInt32) :
      Ask.Twin (.listRepositories t login page) (.listRepositories t' login page) id

/-- two programs that ask for the same but for tokens, and whose results are related -/
inductive Twin {α β : Type} (R : α → β → Prop) : Program Calls α → Program Calls β → Prop where
  | done {a : α} {b : β} (h : R a b) : Twin R (.done a) (.done b)
  | ask {r r' : Ask} {reply : r.Reply → r'.Reply} {next : r.Reply → Program Calls α}
      {next' : r'.Reply → Program Calls β} (hr : r.Twin r' reply)
      (hnext : ∀ x, Twin R (next x) (next' (reply x))) : Twin R (.ask r next) (.ask r' next')

section Twin

variable {α β γ δ : Type} {R : α → β → Prop} {S : γ → δ → Prop} {p : Program Calls α} {q : Program Calls β}
  {f : α → Program Calls γ} {g : β → Program Calls δ}

/-- **What is made of twins is a twin.** -/
theorem Twin.bind (hp : Twin R p q) (hf : ∀ a b, R a b → Twin S (f a) (g b)) : Twin S (p >>= f) (q >>= g) := by
  induction hp with
  | done h => exact hf _ _ h
  | ask hr _ ih => exact .ask hr ih

/-- a program that knows no token is its own twin -/
theorem Twin.refl (p : Program Calls α) : Twin Eq p p := by
  induction p with
  | done a => exact .done rfl
  | ask r next ih => exact .ask (.same r) ih

/-- a request that both make -/
theorem Twin.same {r : Ask} {next next' : r.Reply → Program Calls α} {R : α → α → Prop}
    (h : ∀ x, Twin R (next x) (next' x)) : Twin R (.ask r next) (.ask r next') := .ask (.same r) h

end Twin

/-! ## Filling the pool -/

variable {t t' : String} {tokens tokens' : List String}

def Credential.status (c : Credential) : Pool.Status := ⟨c.label, c.quota⟩

theorem Pool.statuses_cons (c : Credential) (p : Pool) : Pool.statuses (c :: p) = c.status :: p.statuses := rfl

theorem twin_noteLoaded (h : SameMask t t') (q : Quota) : Twin Eq (noteLoaded t q) (noteLoaded t' q) := by
  rw [noteLoaded, noteLoaded, h]
  exact Twin.refl _

theorem twin_noteSkipped (h : SameMask t t') (e : ProbeError) : Twin Eq (noteSkipped t e) (noteSkipped t' e) := by
  cases e with
  | failed e =>
    rw [noteSkipped, noteSkipped, h]
    exact Twin.refl _
  | timedOut =>
    rw [noteSkipped, noteSkipped, h]
    exact Twin.refl _

theorem twin_probeAll (h : List.Forall₂ SameMask tokens tokens') :
    Twin (fun p q => p.statuses = q.statuses) (probeAll tokens) (probeAll tokens') := by
  induction h with
  | nil => exact .done rfl
  | @cons t t' tokens tokens' ht _ ih =>
    refine .ask (.probe ht) fun x => ?_
    cases x with
    | ok q =>
      refine (twin_noteLoaded ht q).bind fun _ _ _ => ?_
      apply ih.bind
      intro p p' hp
      apply Twin.done
      have hstatus : Credential.status ⟨t, q⟩ = Credential.status ⟨t', q⟩ := congrArg (Pool.Status.mk · q) ht
      rw [Pool.statuses_cons, Pool.statuses_cons, hstatus, hp]
    | error e => exact (twin_noteSkipped ht e).bind fun _ _ _ => ih

theorem eq_nil_of_statuses {p q : Pool} (h : p.statuses = q.statuses) : p = [] ↔ q = [] := by
  have hp : p.statuses = [] ↔ p = [] := List.map_eq_nil_iff
  have hq : q.statuses = [] ↔ q = [] := List.map_eq_nil_iff
  rw [← hp, ← hq, h]

/-- **Pools filled from tokens that look alike have the same statuses.** -/
theorem twin_connectPool (h : List.Forall₂ LookAlike tokens tokens') :
    Twin (fun p q => p.statuses = q.statuses) (connectPool tokens) (connectPool tokens') := by
  apply (twin_probeAll (sameMask_usableTokens h)).bind
  intro p q hpq
  by_cases hp : p = []
  · rw [if_pos hp, if_pos ((eq_nil_of_statuses hpq).1 hp)]
    exact .same fun _ => .done hpq
  · rw [if_neg hp, if_neg (mt (eq_nil_of_statuses hpq).2 hp)]
    exact .done hpq

/-! ## Leasing -/

/-- two leases on the credential at the same place -/
structure SameLease (l l' : Lease) : Prop where
  index : l.index = l'.index
  token : SameMask l.token l'.token

theorem twin_noteProbeFailure (h : SameMask t t') (e : ProbeError) :
    Twin Eq (noteProbeFailure t e) (noteProbeFailure t' e) := by
  cases e with
  | failed e =>
    rw [noteProbeFailure, noteProbeFailure, h]
    exact Twin.refl _
  | timedOut =>
    rw [noteProbeFailure, noteProbeFailure, h]
    exact Twin.refl _

theorem twin_tryCredential (i : Nat) (ht : SameMask t t') :
    Twin (Option.Rel SameLease) (tryCredential i t) (tryCredential i t') := by
  have hlease : Option.Rel SameLease (some ⟨i, t⟩) (some ⟨i, t'⟩) := .some ⟨rfl, ht⟩
  apply Twin.same
  intro x
  cases x with
  | reserved => exact .done hlease
  | skip => exact .done .none
  | probe =>
    refine .ask (.probe ht) fun x => ?_
    cases x with
    | ok fresh =>
      apply Twin.same
      intro x
      cases x with
      | true => exact .done hlease
      | false => exact .done .none
    | error e => exact (twin_noteProbeFailure ht e).bind fun _ _ _ => .done Option.Rel.none

theorem twin_orElse {p p' q q' : Program Calls (Option Lease)} (hp : Twin (Option.Rel SameLease) p p')
    (hq : Twin (Option.Rel SameLease) q q') : Twin (Option.Rel SameLease) (orElse p q) (orElse p' q') := by
  apply hp.bind
  intro l l' hl
  cases hl with
  | none => exact hq
  | some hl => exact .done (.some hl)

theorem twin_leaseFrom (i : Nat) (h : List.Forall₂ SameMask tokens tokens') :
    Twin (Option.Rel SameLease) (leaseFrom i tokens) (leaseFrom i tokens') := by
  induction h generalizing i with
  | nil => exact .done .none
  | cons ht _ ih =>
    rw [leaseFrom_cons, leaseFrom_cons]
    exact twin_orElse (twin_tryCredential i ht) (ih (i + 1))

theorem twin_noteExhausted (n : Nat) : Twin (Option.Rel SameLease) (noteExhausted n) (noteExhausted n) :=
  .same fun _ => .same fun _ => .done .none

/-- **A call for a lease takes the credential at the same place.** -/
theorem twin_acquire (h : List.Forall₂ SameMask tokens tokens') :
    Twin (Option.Rel SameLease) (acquire tokens) (acquire tokens') := by
  rw [acquire_eq, acquire_eq, h.length_eq]
  exact twin_orElse (twin_leaseFrom 0 h) (twin_noteExhausted tokens'.length)

/-! ## Fetching -/

/-- no lease for the same reason, or leases on the credential at the same place -/
inductive SameLeasing : Except Failure Lease → Except Failure Lease → Prop where
  | refused (f : Failure) : SameLeasing (.error f) (.error f)
  | granted {l l' : Lease} (h : SameLease l l') : SameLeasing (.ok l) (.ok l')

theorem twin_leaseFor (h : List.Forall₂ SameMask tokens tokens') (username : String) :
    Twin SameLeasing (leaseFor tokens username) (leaseFor tokens' username) := by
  apply (twin_acquire h).bind
  intro l l' hl
  cases hl with
  | none => exact .done (.refused _)
  | some hl => exact .done (.granted hl)

/-- the end of a request looks at the place of the credential only -/
theorem conclude_congr {α : Type} {l l' : Lease} (h : SameLease l l') (username : String)
    (outcome : Except CallError (Response α)) : conclude username l outcome = conclude username l' outcome := by
  have hsettle : settle l (reportOf? outcome) = settle l' (reportOf? outcome) := by
    cases reportOf? outcome with
    | none => rfl
    | some report => rw [settle, settle, h.index]
  unfold conclude
  rw [hsettle]

theorem twin_fetchUser (h : List.Forall₂ SameMask tokens tokens') (username : String) :
    Twin Eq (fetchUser tokens username) (fetchUser tokens' username) := by
  apply (twin_leaseFor h username).bind
  intro l l' hl
  cases hl with
  | refused f => exact .done rfl
  | granted hl =>
    apply Twin.ask (.getUser hl.token username)
    intro outcome
    dsimp only [id, Program.bind]
    rw [conclude_congr hl]
    exact Twin.refl _

theorem twin_fetchPages (h : List.Forall₂ SameMask tokens tokens') (username : String) (page : UInt32) :
    Twin Eq (fetchPages tokens username page) (fetchPages tokens' username page) := by
  rw [fetchPages.eq_def tokens, fetchPages.eq_def tokens']
  apply (twin_leaseFor h username).bind
  intro l l' hl
  cases hl with
  | refused f => exact .done rfl
  | granted hl =>
    apply Twin.ask (.listRepositories hl.token username page)
    intro outcome
    dsimp only [id, Program.bind]
    rw [conclude_congr hl]
    apply (Twin.refl _).bind
    intro result _ hresult
    subst hresult
    cases result with
    | error f => exact .done rfl
    | ok r =>
      dsimp only
      cases r.nextPage with
      | none => exact .done rfl
      | some next =>
        dsimp only
        by_cases hlt : page < next
        · rw [if_pos hlt, if_pos hlt]
          apply (twin_fetchPages h username next).bind
          intro rest _ hrest
          subst hrest
          exact Twin.refl _
        · rw [if_neg hlt, if_neg hlt]
          exact .done rfl
termination_by 4294967296 - page.toNat
decreasing_by
  have := UInt32.lt_iff_toNat_lt.1 hlt
  have := next.toNat_lt
  omega

/-- **Fetches with tokens that look alike come to the same.** -/
theorem twin_fetchAccount (h : List.Forall₂ SameMask tokens tokens') (username : String) :
    Twin Eq (fetchAccount tokens username) (fetchAccount tokens' username) := by
  rw [fetchAccount, fetchAccount]
  by_cases hlogin : isLogin username = true
  · rw [if_pos hlogin, if_pos hlogin]
    apply (twin_fetchUser h username).bind
    intro user _ huser
    subst huser
    cases user with
    | error f => exact .done rfl
    | ok user =>
      apply (twin_fetchPages h username 1).bind
      intro repositories _ hrepositories
      subst hrepositories
      exact Twin.refl _
  · rw [if_neg hlogin, if_neg hlogin]
    exact .done rfl

end AccountStats.GitHub
