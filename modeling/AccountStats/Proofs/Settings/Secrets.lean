import Mathlib.Tactic
import AccountStats.Settings.Environment
import AccountStats.Proofs.Association
import AccountStats.Proofs.Settings.Masking
import AccountStats.Proofs.Text.Utf8
/-
Passwords and tokens of an environment do not show.

Two environments give the database and Redis in parts, and are the same but for passwords and tokens. Results:
- `sameMask_databaseUrl`, `sameMask_redisUrl`: the URLs put together are shown alike;
- `shownAlike_of_sameMask`: so are settings that differ in such URLs and in their tokens, as long as these are as many;
- `secrets_hidden`: loading the two comes to the same as far as may be seen.
-/
namespace AccountStats

/-! ## Environments -/

namespace Environment

/-- the variables that hold secrets, where URLs are given in parts -/
def secretNames : List String := ["DB_PASSWORD", "REDIS_PASSWORD", "GITHUB_TOKENS"]

/-- a variable that reads the same in both, or as texts that are related -/
def Varies (related : String → String → Prop) (env env' : Environment) (name : String) : Prop :=
  env.read name = env'.read name ∨ ∃ s s', env.read name = .ok s ∧ env'.read name = .ok s' ∧ related s s'

/-- lists of tokens that are as long -/
def AsManyTokens (s s' : String) : Prop := (GitHub.tokensOf s).length = (GitHub.tokensOf s').length

/-- two environments without whole URLs that differ in passwords and tokens at most -/
structure SameButSecrets (env env' : Environment) : Prop where
  databaseInParts : env.read? "DATABASE_URL" = none
  redisInParts : env.read? "REDIS_URL" = none
  others : ∀ name, name ∉ secretNames → env.read name = env'.read name
  databasePassword : Varies (fun _ _ => True) env env' "DB_PASSWORD"
  redisPassword : Varies (fun s s' => s ≠ "" ∧ s' ≠ "") env env' "REDIS_PASSWORD"
  tokens : Varies AsManyTokens env env' "GITHUB_TOKENS"

namespace SameButSecrets

variable {env env' : Environment} {name : String}

theorem read?_eq (h : env.SameButSecrets env') (hname : name ∉ secretNames) : env.read? name = env'.read? name := by
  rw [read?, read?, h.others name hname]

theorem readOr_eq (h : env.SameButSecrets env') (hname : name ∉ secretNames) (default : String) :
    env.readOr name default = env'.readOr name default := by
  rw [readOr, readOr, h.read?_eq hname]

theorem number_eq (h : env.SameButSecrets env') (hname : name ∉ secretNames) (bits default : Nat) :
    env.number bits name default = env'.number bits name default := by
  rw [number, number, h.read?_eq hname]

theorem word_eq (h : env.SameButSecrets env') (hname : name ∉ secretNames) (default : Nat) :
    env.word name default = env'.word name default := by
  rw [word, word, h.number_eq hname]

end SameButSecrets

end Environment

namespace Settings

open Environment (SameButSecrets)

variable {env env' : Environment}

/-! ## URLs put together -/

def databaseStarts : List String := ["postgres://", "postgresql://"]

def redisStarts : List String := ["redis://", "rediss://"]

theorem marked_databaseStarts : Marked databaseStarts :=
  List.forall_mem_cons.2 ⟨⟨"postgres", rfl, by decide⟩, List.forall_mem_singleton.2 ⟨"postgresql", rfl, by decide⟩⟩

theorem marked_redisStarts : Marked redisStarts :=
  List.forall_mem_cons.2 ⟨⟨"redis", rfl, by decide⟩, List.forall_mem_singleton.2 ⟨"rediss", rfl, by decide⟩⟩

/-- what follows the password in a database URL -/
def databaseRest (env : Environment) (name : String) : String :=
  env.readOr "DB_HOST" "localhost" ++ ":" ++ env.readOr "DB_PORT" "5432" ++ "/" ++ name

/-- what follows the password in a Redis URL -/
def redisRest (env : Environment) (host : String) : String :=
  host ++ ":" ++ env.readOr "REDIS_PORT" "6379" ++ "/" ++ env.readOr "REDIS_DB" "0"

theorem loadDatabaseUrl_parts (h : env.read? "DATABASE_URL" = none) :
    loadDatabaseUrl env = do
      let user ← databasePart env "DB_USER"
      let password ← databasePart env "DB_PASSWORD"
      let name ← databasePart env "DB_NAME"
      return urlWithPassword "postgres" user password (databaseRest env name) := by
  have hscheme : "postgres://" = "postgres" ++ mark := rfl
  rw [loadDatabaseUrl, h]
  simp only [urlWithPassword, databaseRest, hscheme, String.append_assoc]

theorem loadRedisUrl_parts (h : env.read? "REDIS_URL" = none) :
    loadRedisUrl env = (env.read? "REDIS_HOST").map fun host => "redis://" ++ redisAuth env ++ redisRest env host := by
  rw [loadRedisUrl, h]
  simp only [redisRest, String.append_assoc]

/-- two outcomes of loading: the same error, or related results -/
inductive SameOutcome {α : Type} (R : α → α → Prop) : Except LoadError α → Except LoadError α → Prop where
  | failed (e : LoadError) : SameOutcome R (.error e) (.error e)
  | loaded {a a' : α} (h : R a a') : SameOutcome R (.ok a) (.ok a')

section Outcomes

variable {α β : Type} {R : α → α → Prop} {S : β → β → Prop} {x x' : Except LoadError α}

theorem SameOutcome.bind {f f' : α → Except LoadError β} (hx : SameOutcome R x x')
    (hf : ∀ a a', R a a' → SameOutcome S (f a) (f' a')) : SameOutcome S (x >>= f) (x' >>= f') := by
  cases hx with
  | failed e => exact .failed e
  | loaded h => exact hf _ _ h

theorem SameOutcome.of_eq (h : x = x') : SameOutcome Eq x x' := by
  subst h
  cases x with
  | error e => exact .failed e
  | ok a => exact .loaded rfl

end Outcomes

/-- a variable that has to be set -/
theorem sameOutcome_read {related : String → String → Prop} {name : String} (hrefl : ∀ s, related s s)
    (h : Environment.Varies related env env' name) (missing : Environment.ReadError → LoadError) :
    SameOutcome related ((env.read name).mapError missing) ((env'.read name).mapError missing) := by
  rcases h with hsame | ⟨s, s', hs, hs', hrelated⟩
  · rw [hsame]
    cases env'.read name with
    | error e => exact .failed _
    | ok s => exact .loaded (hrefl s)
  · rw [hs, hs']
    exact .loaded hrelated

/-- **The database URLs put together are shown alike**, if there are such. -/
theorem sameMask_databaseUrl (h : env.SameButSecrets env') :
    SameOutcome (SameMask databaseStarts) (loadDatabaseUrl env) (loadDatabaseUrl env') := by
  have hwhole : env'.read? "DATABASE_URL" = none := by rw [← h.read?_eq (by decide), h.databaseInParts]
  have hpart (name : String) (hname : name ∉ Environment.secretNames) :
      SameOutcome Eq (databasePart env name) (databasePart env' name) :=
    .of_eq (congrArg _ (h.others name hname))
  have hrest (name : String) : databaseRest env name = databaseRest env' name := by
    rw [databaseRest, databaseRest, h.readOr_eq (by decide), h.readOr_eq (by decide)]
  rw [loadDatabaseUrl_parts h.databaseInParts, loadDatabaseUrl_parts hwhole]
  refine (hpart "DB_USER" (by decide)).bind fun user _ huser => ?_
  subst huser
  refine (sameOutcome_read (fun _ => trivial) h.databasePassword _).bind fun password password' _ => ?_
  refine (hpart "DB_NAME" (by decide)).bind fun name _ hname => ?_
  subst hname
  rw [hrest]
  exact .loaded (sameMask_parts marked_databaseStarts "postgres" user password password' _)

/-- a password that is not empty stands in the URL -/
theorem redisUrl_password {password : String} (h : env.read "REDIS_PASSWORD" = .ok password) (hne : password ≠ "")
    (rest : String) : "redis://" ++ redisAuth env ++ rest = urlWithPassword "redis" "" password rest := by
  have hscheme : "redis://" = "redis" ++ mark := rfl
  have hread : env.read? "REDIS_PASSWORD" = some password := by rw [Environment.read?, h]; rfl
  rw [redisAuth, hread]
  simp only [hne, if_false, urlWithPassword, hscheme, String.append_assoc, String.empty_append]

/-- **The Redis URLs put together are shown alike**, if there are such. -/
theorem sameMask_redisUrl (h : env.SameButSecrets env') :
    Option.Rel (SameMask redisStarts) (loadRedisUrl env) (loadRedisUrl env') := by
  have hwhole : env'.read? "REDIS_URL" = none := by rw [← h.read?_eq (by decide), h.redisInParts]
  have hrest (host : String) : redisRest env host = redisRest env' host := by
    rw [redisRest, redisRest, h.readOr_eq (by decide), h.readOr_eq (by decide)]
  rw [loadRedisUrl_parts h.redisInParts, loadRedisUrl_parts hwhole, h.read?_eq (by decide : "REDIS_HOST" ∉ _)]
  cases env'.read? "REDIS_HOST" with
  | none => exact .none
  | some host =>
    refine .some ?_
    dsimp only
    rw [hrest]
    rcases h.redisPassword with hsame | ⟨password, password', hread, hread', hne, hne'⟩
    · have hauth : redisAuth env = redisAuth env' := by
        rw [redisAuth, redisAuth, Environment.read?, Environment.read?, hsame]
      rw [hauth]
      exact .refl _
    · rw [redisUrl_password hread hne, redisUrl_password hread' hne']
      exact sameMask_parts marked_redisStarts "redis" "" password password' _

/-! ## Settings -/

/-- settings of which the same is shown, and with the same fault if they have one -/
structure ShownAlike (s s' : Settings) : Prop where
  dump : s.dump = s'.dump
  summary : s.summary = s'.summary
  fault : s.fault? = s'.fault?

theorem map_maskPassword {url url' : Option String} (h : Option.Rel (SameMask redisStarts) url url') :
    url.map maskPassword = url'.map maskPassword := by
  cases h with
  | none => rfl
  | some h => exact congrArg some h.masked

/-- **Of settings the same is shown, whatever the passwords and tokens.** -/
theorem shownAlike_of_sameMask (s : Settings) {databaseUrl : String} {redisUrl : Option String} {tokens : List String}
    (hdatabase : SameMask databaseStarts s.databaseUrl databaseUrl)
    (hredis : Option.Rel (SameMask redisStarts) s.redisUrl redisUrl) (htokens : s.tokens.length = tokens.length) :
    ShownAlike s { s with databaseUrl, redisUrl, tokens } where
  dump := by
    unfold dump
    dsimp only
    rw [hdatabase.masked, map_maskPassword hredis, htokens]
  summary := by
    have hnote : s.redisNote = { s with databaseUrl, redisUrl, tokens }.redisNote := by
      unfold redisNote
      generalize s.redisUrl = url at hredis ⊢
      cases hredis with
      | none => rfl
      | some h => dsimp only; rw [h.masked]
    unfold summary
    dsimp only
    rw [hnote, hdatabase.masked, htokens]
  fault := by
    have hrules : s.rules = { s with databaseUrl, redisUrl, tokens }.rules := by
      have hstarts : startsWithAny ["postgres://", "postgresql://"] s.databaseUrl =
          startsWithAny ["postgres://", "postgresql://"] databaseUrl := hdatabase.starts
      have hempty : s.tokens.isEmpty = tokens.isEmpty := by
        rw [Bool.eq_iff_iff, List.isEmpty_iff_length_eq_zero, List.isEmpty_iff_length_eq_zero, htokens]
      unfold rules
      dsimp only
      rw [hstarts, hdatabase.masked, hempty]
      generalize s.redisUrl = url at hredis ⊢
      cases hredis with
      | none => rfl
      | @some url url' h =>
        have hstarts : startsWithAny ["redis://", "rediss://"] url = startsWithAny ["redis://", "rediss://"] url' :=
          h.starts
        simp only [Option.any_some, Option.getD_some, Option.isSome_some, hstarts, h.masked]
    rw [fault?, fault?, hrules]

/-- **Passwords and tokens do not show.** Loading the settings of two environments that differ in them at most, checked
or not, ends in the same error, or in settings of which the same is dumped and noted and that have the same fault. -/
theorem secrets_hidden (h : env.SameButSecrets env') :
    SameOutcome ShownAlike (ofEnvironment env) (ofEnvironment env') ∧
      SameOutcome ShownAlike (load env) (load env') := by
  have hread : SameOutcome ShownAlike (ofEnvironment env) (ofEnvironment env') := by
    refine (sameMask_databaseUrl h).bind fun url url' hurl => ?_
    have hlists := sameOutcome_read (fun s => (rfl : Environment.AsManyTokens s s)) h.tokens
    refine (hlists _).bind fun tokens tokens' htokens => ?_
    simp (disch := decide) only [h.readOr_eq, h.number_eq, h.word_eq]
    exact .loaded (shownAlike_of_sameMask _ hurl (sameMask_redisUrl h) htokens)
  refine ⟨hread, hread.bind fun s s' hs => ?_⟩
  rw [hs.fault]
  cases s'.fault? with
  | none => exact .loaded hs
  | some f => exact .failed _

/-- an environment whose parts hold the separators of URLs -/
def awkwardParts (password redisPassword tokens : String) : Environment := [
  ("DB_USER", "st:at@s://".toUTF8), ("DB_PASSWORD", password.toUTF8), ("DB_NAME", "a/b@c".toUTF8),
  ("DB_HOST", "://d:b@".toUTF8), ("REDIS_HOST", "ca@che".toUTF8), ("REDIS_PASSWORD", redisPassword.toUTF8),
  ("GITHUB_TOKENS", tokens.toUTF8)]

theorem read_of_lookup {name s : String} (h : env.lookup name = some s.toUTF8) : env.read name = .ok s := by
  rw [Environment.read, h]
  dsimp only
  rw [Text.decodeUtf8_toUTF8]

theorem read_awkwardParts {name : String} (h : name ∉ Environment.secretNames)
    (password password' redisPassword redisPassword' tokens tokens' : String) :
    (awkwardParts password redisPassword tokens).read name =
      (awkwardParts password' redisPassword' tokens').read name := by
  simp only [Environment.secretNames, List.mem_cons, List.not_mem_nil, or_false, not_or] at h
  obtain ⟨hpassword, hredis, htokens⟩ := h
  have hlookup : (awkwardParts password redisPassword tokens).lookup name =
      (awkwardParts password' redisPassword' tokens').lookup name := by
    simp only [awkwardParts, Association.lookup_cons, if_neg hpassword, if_neg hredis, if_neg htokens]
  rw [Environment.read, Environment.read, hlookup]

/-- passwords of which one is empty and one looks like a URL, and two tokens among blanks -/
theorem secrets_hidden_awkward :
    let one := awkwardParts "" "s3cret" "ghp_a,ghp_b"
    let other := awkwardParts "p@ss://w:rd@" "://@" " ,x,, y "
    one.SameButSecrets other ∧ (load one).toOption.isSome ∧
      (loadDatabaseUrl one).toOption ≠ (loadDatabaseUrl other).toOption ∧
      SameOutcome ShownAlike (ofEnvironment one) (ofEnvironment other) ∧
      SameOutcome ShownAlike (load one) (load other) := by
  intro one other
  have hsame : one.SameButSecrets other := {
    databaseInParts := by decide +kernel
    redisInParts := by decide +kernel
    others := fun name h => read_awkwardParts h ..
    databasePassword := .inr ⟨_, _, read_of_lookup rfl, read_of_lookup rfl, trivial⟩
    redisPassword := .inr ⟨_, _, read_of_lookup rfl, read_of_lookup rfl, by decide, by decide⟩
    tokens := .inr ⟨_, _, read_of_lookup rfl, read_of_lookup rfl, by unfold Environment.AsManyTokens; decide +kernel⟩ }
  exact ⟨hsame, by decide +kernel, by decide +kernel, secrets_hidden hsame⟩

end Settings

end AccountStats
