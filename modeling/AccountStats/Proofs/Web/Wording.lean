import Mathlib.Tactic
import AccountStats.Web.Router
import AccountStats.Proofs.Json.RoundTrip
import AccountStats.Proofs.Sync.Wording
/-
What the words of a database error change of a response.

The handlers are run on top of the store, which is asked for accounts, to save them, and whether it answers. Two
surroundings differ in words if they reply the same but for the words of the errors of the database, and take no notice
of what is logged. Results:
- `related_statsHandler`, `related_bannerHandler`: statistics and banners are answered in the same way;
- `related_healthHandler`: so are health checks, but for what is said of the database;
- `wording_in_responses`: the responses to any request, on top of the store;
- `message_of_body`: the body of a health check tells what is said of the database;
- `health_tells_words`: and that are the words of its error.
-/
namespace AccountStats.Web

open Program (Related)

variable {α β : Type}

/-! ## Handlers -/

/-- the same is asked, and the replies are the same but for the words of the database; what is logged may differ -/
inductive Reworded : Calls.Pairing where
  | sync {r r' : Sync.Ask} {replies : r.Reply → r'.Reply → Prop} (h : Sync.Reworded r r' replies) :
      Reworded (.sync r) (.sync r') replies
  | pingDatabase : Reworded .pingDatabase .pingDatabase Store.SameButWords
  | cacheHealthy : Reworded .cacheHealthy .cacheHealthy Eq
  | credentials : Reworded .credentials .credentials Eq

theorem related_sync {R : α → β → Prop} {p : Program Sync.Calls α} {q : Program Sync.Calls β}
    (h : Related Sync.Reworded R p q) : Related Reworded R (sync p) (sync q) :=
  h.through fun hr => .ask (Reworded.sync hr) fun _ _ => .done

theorem related_note (n : Note) : Related Reworded Eq (note n) (note n) :=
  .ask (Reworded.sync (.same rfl)) fun _ _ => .done

theorem related_respond (f : Failure) : Related Reworded Eq (respond f) (respond f) := by
  rw [respond]
  split
  · exact (related_note _).bind fun _ _ _ => .done rfl
  · exact .done rfl

theorem related_statsHandler (policy : FreshnessPolicy) (username : String) :
    Related Reworded Eq (statsHandler policy username) (statsHandler policy username) := by
  rw [statsHandler]
  split
  · apply (related_sync (Sync.related_getEntry policy username)).bind
    rintro result _ rfl
    cases result with
    | ok e => exact .done rfl
    | error f => exact related_respond f
  · exact related_respond _

theorem related_publishBanner (policy : FreshnessPolicy) (request : Banner.Request) :
    Related Reworded Eq (publishBanner policy request) (publishBanner policy request) := by
  unfold publishBanner
  cases checkOrder request with
  | error f => exact related_respond f
  | ok order =>
    have hpublish := related_sync (Sync.related_publish policy order.username order.layout order.storagePath)
    refine hpublish.bind ?_
    rintro result _ rfl
    cases result with
    | ok event => exact .done rfl
    | error f => exact related_respond f

theorem related_bannerHandler (policy : FreshnessPolicy) (r : Request) :
    Related Reworded Eq (bannerHandler policy r) (bannerHandler policy r) := by
  unfold bannerHandler
  cases bannerRequest r with
  | error response => exact .done rfl
  | ok request => exact related_publishBanner policy request

/-- a health check without what it says of a database that fails -/
def Health.wordless (h : Health) : Health := if h.database.ok then h else { h with database := ⟨false, ""⟩ }

/-- responses that are the same, but for what they say of a database that fails -/
inductive SameButDatabase : Response → Response → Prop where
  | same (r : Response) : SameButDatabase r r
  | health {h h' : Health} (hsame : h.wordless = h'.wordless) : SameButDatabase h.toResponse h'.toResponse

theorem Health.wordless_ok (h : Health) : h.wordless.ok = h.ok := by
  unfold wordless
  split
  · rfl
  · next hfailed => simp [Health.ok, hfailed]

theorem Health.ok_congr {h h' : Health} (hsame : h.wordless = h'.wordless) : h.ok = h'.ok := by
  rw [← h.wordless_ok, hsame, h'.wordless_ok]

namespace SameButDatabase

variable {r r' : Response}

theorem status_eq (h : SameButDatabase r r') : r.status = r'.status := by
  cases h with
  | same => rfl
  | health hsame =>
    rw [Health.toResponse, Health.toResponse, Health.ok_congr hsame]
    rfl

theorem withoutBody_eq (h : SameButDatabase r r') : r.withoutBody = r'.withoutBody := by
  cases h with
  | same => rfl
  | health hsame =>
    rw [Health.toResponse, Health.toResponse, Health.ok_congr hsame]
    rfl

end SameButDatabase

theorem related_healthHandler : Related Reworded SameButDatabase healthHandler healthHandler := by
  refine .ask Reworded.pingDatabase fun database database' hdatabase => ?_
  refine .ask Reworded.cacheHealthy ?_
  rintro cache _ rfl
  refine .ask Reworded.credentials ?_
  rintro credentials _ rfl
  refine .ask (Reworded.sync (.same (r := .now) rfl)) ?_
  rintro now _ rfl
  cases hdatabase with
  | ok _ => exact .done (.same _)
  | error _ => exact .done (.health rfl)

/-! ## Any request -/

/-- responses to a request that some route answers: they are the same, but for what a health check says of the
database -/
structure SameResponse (route? : Option Route) (r r' : Response) : Prop where
  eq : route? ≠ some .health → r = r'
  butDatabase : SameButDatabase r r'

theorem sameResponse_refl (route? : Option Route) (r : Response) : SameResponse route? r r := ⟨fun _ => rfl, .same r⟩

theorem sameResponse_of_eq {route? : Option Route} (r r' : Response) (h : r = r') : SameResponse route? r r' :=
  h ▸ sameResponse_refl route? r

theorem related_handle (policy : FreshnessPolicy) (r : Request) (route : Route) :
    Related Reworded (SameResponse (some route)) (handle policy r route) (handle policy r route) := by
  cases route with
  | stats account =>
    unfold handle
    dsimp only
    cases Text.percentDecode account with
    | some username => exact (related_statsHandler policy username).imp sameResponse_of_eq
    | none => exact .done (sameResponse_refl _ _)
  | banners => exact (related_bannerHandler policy r).imp sameResponse_of_eq
  | health => exact related_healthHandler.imp fun _ _ h => ⟨fun hne => absurd rfl hne, h⟩

theorem related_answerRoute (policy : FreshnessPolicy) (r : Request) (route : Route) :
    Related Reworded (SameResponse (some route)) (answerRoute policy r route) (answerRoute policy r route) := by
  unfold answerRoute
  split
  · exact related_handle policy r _
  · exact .done (sameResponse_refl _ _)
  · exact related_handle policy r _
  · refine (related_handle policy r _).bind fun response response' h => .done ?_
    exact sameResponse_of_eq _ _ h.butDatabase.withoutBody_eq
  · exact .done (sameResponse_refl _ _)

/-- responses are counted by their status, which is the same -/
theorem related_counted {route? : Option Route} {response response' : Response}
    (h : SameResponse route? response response') (method pattern : String) :
    Related Reworded (SameResponse route?)
      (note (.count (requestCounter method pattern response.status) 1) >>= fun _ => .done response)
      (note (.count (requestCounter method pattern response'.status) 1) >>= fun _ => .done response') := by
  rw [h.butDatabase.status_eq]
  exact (related_note _).bind fun _ _ _ => .done h

/-- the route that a request leads to -/
def Request.route? (r : Request) : Option Route := Route.ofPath? (normalizedPath r.path)

/-- **The response to any request** does not depend on words, but for what a health check says of the database. -/
theorem related_answer (policy : FreshnessPolicy) (r : Request) :
    Related Reworded (SameResponse r.route?) (answer policy r) (answer policy r) := by
  unfold answer Request.route?
  cases Route.ofPath? (normalizedPath r.path) with
  | some route => exact (related_answerRoute policy r route).bind fun _ _ h => related_counted h _ _
  | none => exact related_counted (sameResponse_refl _ _) _ _

/-! ## On top of the store -/

/-- whether the database answers; what it answers does not matter -/
def pingStore : Program Store.Calls (Except Store.DbError Unit) :=
  Program.ask (I := Store.Calls) (.execute .ping) fun r => .done (r.map fun _ => ())

/-- what the store answers -/
def store : (r : Calls.Request) → Option (Program Store.Calls (Calls.Reply r))
  | .sync (.readStored username) => some (Store.get username)
  | .sync (.save s) => some (Store.save s)
  | .pingDatabase => some pingStore
  | _ => none

/-- the surroundings of handlers on top of the store: the database, and whatever else they ask for -/
abbrev Outside : Interface := Calls.beside Store.Calls

/-- the response to a request, from surroundings in some state -/
def respondOn {σ : Type} (reply : (r : Outside.Request) → σ → Outside.Reply r × σ) (policy : FreshnessPolicy)
    (r : Request) (s : σ) : Response :=
  (((answer policy r).through (Program.layered store)).run reply s).1

/-- what is asked of two surroundings that differ in words -/
inductive RewordedOutside : Outside.Pairing where
  | other {r : Calls.Request} (h : store r = none) : RewordedOutside (.inl r) (.inl r) Eq
  | log (event event' : LogEvent) :
      RewordedOutside (.inl (.sync (.note (.log event)))) (.inl (.sync (.note (.log event')))) Eq
  | database (r : Store.Ask) : RewordedOutside (.inr r) (.inr r) r.SameReply

theorem related_pingStore : Related Store.Reworded Store.SameButWords pingStore pingStore := by
  refine .ask (Store.Reworded.same (.execute .ping)) fun r r' h => ?_
  cases h with
  | ok n => exact .done (.ok ())
  | error h => exact .done (.error h)

theorem related_inr {R : α → β → Prop} {p : Program Store.Calls α} {q : Program Store.Calls β}
    (h : Related Store.Reworded R p q) :
    Related RewordedOutside R (p.through fun r => Program.ask (I := Outside) (.inr r) .done)
      (q.through fun r => Program.ask (I := Outside) (.inr r) .done) := by
  refine h.through fun hr => ?_
  cases hr with
  | same => exact .ask (RewordedOutside.database _) fun _ _ => .done

theorem related_inl {r : Calls.Request} (h : store r = none) :
    Related RewordedOutside Eq (Program.layered store r) (Program.layered store r) := by
  unfold Program.layered
  rw [h]
  exact .ask (RewordedOutside.other h) fun _ _ => .done

theorem store_sync {r : Sync.Ask} (h : r.ofStore = false) : store (.sync r) = none := by
  cases r with
  | readStored username => cases h
  | save s => cases h
  | _ => rfl

/-- requests that go together are answered by related programs -/
theorem related_layered {r r' : Calls.Request} {replies : Calls.Reply r → Calls.Reply r' → Prop}
    (h : Reworded r r' replies) :
    Related RewordedOutside replies (Program.layered store r) (Program.layered store r') := by
  cases h with
  -- three requests are answered by the store, which is asked the same on both sides; the others go outside as they are
  | pingDatabase => exact related_inr related_pingStore
  | cacheHealthy => exact related_inl rfl
  | credentials => exact related_inl rfl
  | sync h =>
    cases h with
    | readStored username => exact related_inr (Store.related_get username)
    | save s => exact related_inr (Store.related_save s)
    | log event event' => exact .ask (RewordedOutside.log event event') fun _ _ => .done
    | same h => exact related_inl (store_sync h)

/-- surroundings that differ in words: they reply the same to all but the requests of the database, to these the same
but for the words of errors, and what is logged changes nothing. Which of their states go together is up to them. -/
structure DifferInWords {σ τ : Type} (states : σ → τ → Prop)
    (reply : (r : Outside.Request) → σ → Outside.Reply r × σ)
    (reply' : (r : Outside.Request) → τ → Outside.Reply r × τ) : Prop where
  database : ∀ {s t}, states s t → ∀ r, r.SameReply (reply (.inr r) s).1 (reply' (.inr r) t).1 ∧
    states (reply (.inr r) s).2 (reply' (.inr r) t).2
  other : ∀ {s t}, states s t → ∀ r, store r = none → (reply (.inl r) s).1 = (reply' (.inl r) t).1 ∧
    states (reply (.inl r) s).2 (reply' (.inl r) t).2
  logged : ∀ {s t}, states s t → ∀ event event',
    states (reply (.inl (.sync (.note (.log event)))) s).2 (reply' (.inl (.sync (.note (.log event')))) t).2

section Responses

variable {σ τ : Type} {states : σ → τ → Prop} {reply : (r : Outside.Request) → σ → Outside.Reply r × σ}
  {reply' : (r : Outside.Request) → τ → Outside.Reply r × τ}

theorem DifferInWords.inStep (h : DifferInWords states reply reply') :
    Program.InStep RewordedOutside states reply reply' := by
  intro r r' replies hr s t hs
  cases hr with
  | other hnone => exact h.other hs _ hnone
  | log event event' => exact ⟨rfl, h.logged hs event event'⟩
  | database => exact h.database hs _

/-- **The words of a database error do not get into a response**, whatever the request, but for what a health check says
of the database: its status is the same, and so is all else that it says. -/
theorem wording_in_responses (h : DifferInWords states reply reply') (policy : FreshnessPolicy) (r : Request) {s : σ}
    {t : τ} (hs : states s t) :
    (r.route? ≠ some .health → respondOn reply policy r s = respondOn reply' policy r t) ∧
      (respondOn reply policy r s).status = (respondOn reply' policy r t).status ∧
      SameButDatabase (respondOn reply policy r s) (respondOn reply' policy r t) := by
  have hanswer := (related_answer policy r).through fun hr => related_layered hr
  obtain ⟨hsame, -⟩ := hanswer.run h.inStep hs
  exact ⟨hsame.eq, hsame.butDatabase.status_eq, hsame.butDatabase⟩

end Responses

/-- surroundings without a database: each of its replies is an error. Otherwise there is nothing in the cache, GitHub
has the account that is asked for, and all is well. -/
def refusing (e : Store.DbError) : (r : Outside.Request) → Unit → Outside.Reply r × Unit
  | .inl (.sync .now), _ => (.epoch, ())
  | .inl (.sync (.cacheGet _)), _ => (.ok none, ())
  | .inl (.sync (.cacheSet _ _ _)), _ | .inl (.sync (.cacheDelete _)), _ => (.ok (), ())
  | .inl (.sync (.readStored username)), _ => (.error (.accountNotStored username), ())
  | .inl (.sync (.save _)), _ => (.ok (), ())
  | .inl (.sync (.fetch username)), _ => (.ok (.ofRepositories username [] .epoch), ())
  | .inl (.sync (.startRefresh _)), _ => (false, ())
  | .inl (.sync .endRefresh), _ | .inl (.sync (.note _)), _ => ((), ())
  | .inl (.sync (.publish _)), _ => (.ok (), ())
  | .inl .pingDatabase, _ => (.ok (), ())
  | .inl .cacheHealthy, _ => (true, ())
  | .inl .credentials, _ => ([], ())
  | .inr .begin, _ | .inr .commit, _ | .inr .rollback, _ | .inr (.execute _), _ | .inr (.query _), _ => (.error e, ())
  | .inr .abandon, _ | .inr (.pause _), _ => ((), ())

theorem refusing_differ {e e' : Store.DbError} (h : e.wordless = e'.wordless) :
    DifferInWords (fun _ _ => True) (refusing e) (refusing e') where
  database := by
    rintro s t - r
    cases r <;> exact ⟨by first | trivial | exact .error h, trivial⟩
  other := by
    rintro s t - r -
    cases r with
    | sync r => cases r <;> exact ⟨rfl, trivial⟩
    | _ => exact ⟨rfl, trivial⟩
  logged _ _ _ := trivial

/-- an account is read and saved in vain, and its statistics are those that GitHub has brought -/
theorem wording_in_responses_refused :
    let e : Store.DbError := .server "57P01" "terminating connection due to administrator command" none
    let e' : Store.DbError := .server "57P01" "the database is shutting down" none
    let r : Request := ⟨"GET", "/api/stats/ann", [], .empty⟩
    DifferInWords (fun _ _ => True) (refusing e) (refusing e') ∧ (respondOn (refusing e) .standard r ()).status = 200 ∧
      (r.route? ≠ some .health → respondOn (refusing e) .standard r () = respondOn (refusing e') .standard r ()) ∧
      (respondOn (refusing e) .standard r ()).status = (respondOn (refusing e') .standard r ()).status ∧
      SameButDatabase (respondOn (refusing e) .standard r ()) (respondOn (refusing e') .standard r ()) := by
  intro e e' r
  have hdiffer : DifferInWords (fun _ _ => True) (refusing e) (refusing e') := refusing_differ rfl
  have hresponses := wording_in_responses hdiffer .standard r (s := ()) (t := ()) trivial
  exact ⟨hdiffer, by decide +kernel, hresponses⟩

/-! ## What a health check tells -/

open Json (Plain)

theorem plain_members (c : Check) : ∀ m ∈ c.members, Plain m.2 :=
  List.forall_mem_cons.2 ⟨.text _, List.forall_mem_singleton.2 (.text _)⟩

theorem plain_ofCredentialStatus (c : GitHub.Pool.Status) : Plain (ofCredentialStatus c) := by
  have hremaining : Plain (.int c.quota.remaining.toNat) := by
    have hlt := c.quota.remaining.toNat_lt
    exact .int (by omega) (by omega)
  refine .record (List.forall_mem_cons.2 ⟨.text _, List.forall_mem_cons.2 ⟨hremaining, ?_⟩⟩)
  exact List.forall_mem_singleton.2 (.text _)

theorem plain_toJson (h : Health) : Plain h.toJson := by
  have hcredentials : Plain (.array (h.credentials.map ofCredentialStatus)) :=
    .array (List.forall_mem_map.2 fun c _ => plain_ofCredentialStatus c)
  have hgitHub : Plain (.record
      (h.gitHub.members ++ [("credentials", .array (h.credentials.map ofCredentialStatus))])) :=
    .record (List.forall_mem_append.2 ⟨plain_members _, List.forall_mem_singleton.2 hcredentials⟩)
  have hchecks : Plain (.record [("database", .record h.database.members), ("cache", .record h.cache.members),
      ("github", .record (h.gitHub.members ++ [("credentials", .array (h.credentials.map ofCredentialStatus))]))]) :=
    .record (List.forall_mem_cons.2 ⟨.record (plain_members _),
      List.forall_mem_cons.2 ⟨.record (plain_members _), List.forall_mem_singleton.2 hgitHub⟩⟩)
  exact .record (List.forall_mem_cons.2 ⟨.text _,
    List.forall_mem_cons.2 ⟨.text _, List.forall_mem_singleton.2 hchecks⟩⟩)

/-- the body of a health check tells what is said of the database -/
theorem message_of_body {h h' : Health} (hbody : h.toResponse.body = h'.toResponse.body) :
    h.database.message = h'.database.message := by
  have hread := Json.readText_render (plain_toJson h)
  have hread' := Json.readText_render (plain_toJson h')
  have hjson : h.toJson = h'.toJson := by
    have hrender : h.toJson.render = h'.toJson.render := hbody
    rw [hrender, hread'] at hread
    exact (Option.some.inj hread).symm
  simp only [Health.toJson, Json.record, Json.text, Check.members, List.map_cons, List.cons_append,
    Json.object.injEq, List.cons.injEq, Prod.mk.injEq, Json.string.injEq, Option.some.injEq, true_and] at hjson
  obtain ⟨-, ⟨⟨-, hmessage, -⟩, -⟩, -⟩ := hjson
  exact hmessage

/-- the health of a service without a database -/
theorem respondOn_refusing_health (e : Store.DbError) :
    respondOn (refusing e) .standard ⟨"GET", "/api/health", [], .empty⟩ () =
      Health.toResponse ⟨Check.ofDatabase (.error e), Check.ofCache true, Check.ofCredentials .epoch [], []⟩ := rfl

/-- **A health check tells the words of the database**: two databases that refuse it with the same SQLSTATE are told
apart by the body of the response. -/
theorem health_tells_words :
    let e : Store.DbError := .server "57P01" "terminating connection due to administrator command" none
    let e' : Store.DbError := .server "57P01" "the database is shutting down" none
    let r : Request := ⟨"GET", "/api/health", [], .empty⟩
    DifferInWords (fun _ _ => True) (refusing e) (refusing e') ∧
      (respondOn (refusing e) .standard r ()).body ≠ (respondOn (refusing e') .standard r ()).body := by
  intro e e' r
  refine ⟨refusing_differ rfl, fun hbody => ?_⟩
  rw [respondOn_refusing_health, respondOn_refusing_health] at hbody
  have hmessage : "Database error: " ++ e.text = "Database error: " ++ e'.text := message_of_body hbody
  exact absurd hmessage (by decide)

end AccountStats.Web
