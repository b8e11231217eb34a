import Mathlib.Tactic
import AccountStats.Proofs.Settings.Limits
import AccountStats.Proofs.Settings.Secrets
/-
Passwords in URLs that are given whole.

Such a URL is anything, and one that does not begin as it should is shown with the fault. Results:
- `shownAlike_withUrl`: settings with URLs that are masked alike are shown alike;
- `password_hidden_behind_scheme`: behind a scheme a password never shows, and without one it does;
- `bare_password_shown`: so a fault tells the password of a URL that lacks its scheme.
-/
namespace AccountStats.Settings

/-- what a URL is given for -/
inductive Connection where
  | database
  | redis
deriving DecidableEq, Repr

/-- how its URLs begin -/
def Connection.starts : Connection → List String
  | .database => databaseStarts
  | .redis => redisStarts

theorem Connection.marked_starts (c : Connection) : Marked c.starts := by
  cases c with
  | database => exact marked_databaseStarts
  | redis => exact marked_redisStarts

/-- the settings with that URL in place of their own -/
def withUrl (s : Settings) (c : Connection) (url : String) : Settings :=
  match c with
  | .database => { s with databaseUrl := url }
  | .redis => { s with redisUrl := some url }

/-- a URL with a user and a password that lacks its scheme -/
def bareUrl (user password rest : String) : String := user ++ ":" ++ password ++ "@" ++ rest

variable {s : Settings} {c : Connection} {url url' : String}

/-- **Settings with URLs that are masked alike are shown alike.** -/
theorem shownAlike_withUrl (s : Settings) (h : SameMask c.starts url url') :
    ShownAlike (s.withUrl c url) (s.withUrl c url') := by
  cases c with
  | database =>
    have hredis : Option.Rel (SameMask redisStarts) s.redisUrl s.redisUrl := by
      cases s.redisUrl with
      | none => exact .none
      | some url => exact .some (.refl url)
    exact shownAlike_of_sameMask (s.withUrl .database url) h hredis rfl
  | redis => exact shownAlike_of_sameMask (s.withUrl .redis url) (.refl s.databaseUrl) (.some h) rfl

/-- what is shown of a URL is noted at the start -/
theorem masked_of_shownAlike (h : ShownAlike (s.withUrl c url) (s.withUrl c url')) :
    maskPassword url = maskPassword url' := by
  have hsummary := h.summary
  cases c with
  | database =>
    have hnote := (List.cons.inj hsummary).1
    simpa [withUrl, Note.info] using hnote
  | redis => simpa [withUrl, summary, redisNote, Note.info] using hsummary

/-- how far the password of a URL for that connection shows -/
structure Shielded (s : Settings) (c : Connection) : Prop where
  /-- behind a scheme it does not, whether the URL is accepted or not, and whatever its parts are -/
  behind_scheme : ∀ scheme user password password' rest,
    ShownAlike (s.withUrl c (urlWithPassword scheme user password rest))
      (s.withUrl c (urlWithPassword scheme user password' rest))
  /-- without a scheme it does, unless something in front of the host is taken for one -/
  bare : ∀ user password password' rest, '@' ∉ rest.toList → ¬ mark.toList <:+: (user ++ ":" ++ password).toList →
    ¬ mark.toList <:+: (user ++ ":" ++ password').toList →
    (ShownAlike (s.withUrl c (bareUrl user password rest)) (s.withUrl c (bareUrl user password' rest)) ↔
      password = password')

/-- **Behind a scheme a password never shows, and without one it does.** -/
theorem password_hidden_behind_scheme (s : Settings) (c : Connection) : Shielded s c where
  behind_scheme scheme user password password' rest :=
    shownAlike_withUrl s (sameMask_parts c.marked_starts scheme user password password' rest)
  bare user password password' rest hrest hunmarked hunmarked' := by
    constructor
    · intro h
      have hshown := masked_of_shownAlike h
      rw [bareUrl, bareUrl, maskPassword_unmarked hrest hunmarked, maskPassword_unmarked hrest hunmarked'] at hshown
      have hchars := congrArg String.toList hshown
      simp only [String.toList_append, List.append_assoc, List.append_cancel_left_eq, List.append_cancel_right_eq]
        at hchars
      exact String.toList_inj.1 hchars
    · rintro rfl
      exact shownAlike_withUrl s (.refl _)

/-- settings with a URL that lacks its scheme -/
def bareSettings (c : Connection) (password : String) : Settings :=
  modest.withUrl c (bareUrl "stats" password "db/github_stats")

/-- **A fault tells the password of a URL that lacks its scheme.** -/
theorem bare_password_shown :
    (':' ∉ "stats".toList ∧ '/' ∉ "stats".toList ∧ '@' ∉ "stats".toList) ∧ '@' ∉ "db/github_stats".toList ∧
      (bareSettings .database "hunter2").fault?.map Fault.text = some ("DATABASE_URL must start with " ++
        "'postgres://' or 'postgresql://', got 'stats:hunter2@db/github_stats'") ∧
      ∀ c, ¬ ShownAlike (bareSettings c "hunter2") (bareSettings c "hunter3") := by
  refine ⟨by decide, by decide, by decide +kernel, fun c h => ?_⟩
  exact absurd (masked_of_shownAlike h) (by decide +kernel)

end AccountStats.Settings
