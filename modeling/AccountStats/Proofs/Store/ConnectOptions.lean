import Mathlib.Tactic
import AccountStats.Settings.Environment
import AccountStats.Store.ConnectOptions
import AccountStats.Proofs.Url.Reader
/-
A database is reached by what its URL says.

Results:
- `decoded_escaped`: a part of a URL is read as the text that is escaped there;
- `parse_written`: so are user, password and database, and host and port are those of the URL;
- `exists_url`: and there is a URL for any user, password and database;
- `loadDatabaseUrl_written`: parts that are given one by one are the parts of the URL they are put together to.
-/
namespace AccountStats.Store.ConnectOptions

open AccountStats.Text AccountStats.Url

variable {cs : List Char} {text user password database : String}

theorem decoded_escaped (h : Escaped cs text.toUTF8.data.toList) : decoded cs = .ok text := by
  have hbytes : percentDecoded cs = text.toList.utf8Encode := by
    rw [percentDecoded, h.percentBytes, Array.toArray_toList, String.utf8Encode_toList]
    rfl
  rw [decoded, hbytes, readUtf8_utf8Encode, String.ofList_toList]
  rfl

theorem decoded?_escaped (hne : cs ≠ []) (h : Escaped cs text.toUTF8.data.toList) : decoded? cs = .ok (some text) := by
  rw [decoded?, if_neg hne, decoded_escaped h]
  rfl

/-- no plain text is a path in the file system -/
theorem serverOf_plain (h : Plain cs) (hpercent : '%' ∉ cs) : serverOf (.name cs) = .ok (.ofText cs) := by
  have hbytes : percentDecoded cs = ⟨(cs.map fun c => UInt8.ofNat c.toNat).toArray⟩ := by
    rw [percentDecoded, (Escaped.of_notMem h.plain hpercent).percentBytes]
  have hfirst : (percentDecoded cs)[0]? ≠ some 0x2F := by
    cases cs with
    | nil => exact absurd rfl h.ne_nil
    | cons c cs =>
      have hc := h.plain c List.mem_cons_self
      rw [hbytes]
      intro hslash
      have hbyte : UInt8.ofNat c.toNat = 0x2F := Option.some.inj hslash
      have hnat := congrArg UInt8.toNat hbyte
      rw [toNat_byte (range_of_isPlain hc).2] at hnat
      exact ne_of_isPlain hc (by decide : isPlain '/' = false) (Char.toNat_inj.1 hnat)
  rw [serverOf, if_neg hfirst]

/-- **What a URL says is what is connected to.** -/
theorem parse_written (w : Written) (huser : Escaped w.user user.toUTF8.data.toList)
    (hpassword : Escaped w.password password.toUTF8.data.toList)
    (hdatabase : Escaped w.path database.toUTF8.data.toList) (hhost : '%' ∉ w.host) :
    parse (String.ofList w.text) = .ok
      { server := .ofText w.host, port := w.port, username := some user, password := some password,
        database := some database, encryption := .prefer, statementCache := 100 } := by
  have hpath : ('/' :: w.path).dropWhile (· = '/') = w.path := by
    cases hfront : w.path with
    | nil => rfl
    | cons c cs =>
      have hc : c ≠ '/' := ne_of_isPlain (w.plainPath.plain c (hfront ▸ List.mem_cons_self)) (by decide)
      rw [List.dropWhile_cons_of_pos (by decide), List.dropWhile_cons_of_neg (by simpa using hc)]
  rw [parse, w.parse_written]
  simp only [ofUrl, ofParts, serverOf_plain w.plainHost hhost, decoded?_escaped w.plainUser.ne_nil huser,
    Option.getD_some, decoded?_escaped w.plainPassword.ne_nil hpassword, hpath,
    decoded?_escaped w.plainPath.ne_nil hdatabase, bind, Except.bind, pure, Except.pure]
  rfl

/-- a text as a part of a URL -/
theorem exists_escaped (h : text ≠ "") : ∃ cs, Plain cs ∧ Escaped cs text.toUTF8.data.toList := by
  obtain ⟨cs, hcs⟩ := Escaped.total text.toUTF8.data.toList
  refine ⟨cs, ⟨?_, hcs.isPlain⟩, hcs⟩
  rintro rfl
  have hempty := decoded_escaped hcs
  have hnil : decoded [] = .ok "" := decoded_escaped .nil
  exact h (Except.ok.inj (hempty.symm.trans hnil))

/-- **There is a URL for any user, password and database.** -/
theorem exists_url {host : List Char} {port : Nat} (hplain : Plain host) (hpercent : '%' ∉ host) (hport : port < 65536)
    (huser : user ≠ "") (hpassword : password ≠ "") (hdatabase : database ≠ "") (hhere : database ≠ ".")
    (habove : database ≠ "..") :
    ∃ url, parse url = .ok
      { server := .ofText host, port, username := some user, password := some password, database := some database,
        encryption := .prefer, statementCache := 100 } := by
  obtain ⟨u, hu, hue⟩ := exists_escaped huser
  obtain ⟨p, hp, hpe⟩ := exists_escaped hpassword
  obtain ⟨d, hd, hde⟩ := exists_escaped hdatabase
  have hdots {n : Nat} {dots : String} (hbytes : dots.toUTF8.data.toList = List.replicate n 0x2E) (h : database ≠ dots) :
      isDots n d = false := by
    refine Bool.eq_false_iff.2 fun hd => h ?_
    have hde' : Escaped d dots.toUTF8.data.toList := hbytes.symm ▸ hde.of_isDots hd ▸ hde
    exact Except.ok.inj ((decoded_escaped hde).symm.trans (decoded_escaped hde'))
  have hscheme : "postgres".toList.all Char.isLower = true := by rfl
  let w : Written := ⟨"postgres".toList, u, p, host, port, d, List.all_eq_true.1 hscheme, by rfl, by simp, hu, hp, hplain,
    hport, hd, hdots (by rfl) hhere, hdots (by rfl) habove⟩
  exact ⟨_, parse_written w hue hpe hde hpercent⟩

/-- **Parts that are given one by one are the parts of the URL.** -/
theorem loadDatabaseUrl_written {env : Environment} (w : Written) (hscheme : w.scheme = "postgres".toList)
    (hwhole : env.read? "DATABASE_URL" = none) (huser : env.read "DB_USER" = .ok (String.ofList w.user))
    (hpassword : env.read "DB_PASSWORD" = .ok (String.ofList w.password))
    (hdatabase : env.read "DB_NAME" = .ok (String.ofList w.path))
    (hhost : env.readOr "DB_HOST" "localhost" = String.ofList w.host)
    (hport : env.readOr "DB_PORT" "5432" = String.ofList (decimal w.port)) :
    (Settings.loadDatabaseUrl env).toOption = some (String.ofList w.text) := by
  have htext : String.ofList w.text = "postgres://" ++ String.ofList w.user ++ ":" ++ String.ofList w.password ++ "@" ++
      String.ofList w.host ++ ":" ++ String.ofList (decimal w.port) ++ "/" ++ String.ofList w.path := by
    rw [← String.toList_inj]
    simp [Written.text, Written.authority, hscheme]
  rw [Settings.loadDatabaseUrl, hwhole, htext]
  simp only [Settings.databasePart, huser, hpassword, hdatabase, hhost, hport, Except.mapError, bind, Except.bind, pure,
    Except.pure, Except.toOption]

end AccountStats.Store.ConnectOptions
