import AuthRealm.Proofs.Http.Answer
import AuthRealm.Proofs.Http.Cookie
import AuthRealm.Proofs.Realm.Session

/-!
# Sessions over HTTP

A login is answered with an identity and a cookie, and a check with the cookie is to be answered
with the same identity. Three layers lie between the two answers, and each of them is undone by one
lemma: the text of the cookie in the headers (`Cookie.ofRequest_of_header?`), the look-up of the
account (`Realm.cookie_resumes_login`), and the two halves of answering a request, which decide by
the request and the counters alone what the realm is asked (`respond_of_counted`).
-/

namespace AuthRealm.Http

open Account Storage

variable {service : Service} {scene : Scene} {s : RealmState} {r : Request}

namespace Service

/-! ### Logins and checks -/

/-- **A login that is answered with 200** is one that the realm lets in, and is answered with its
record. -/
theorem exists_record_of_login {service' : Service} {response : Response} {form : LoginForm}
    (h : service.Reaches r .login) (read : LoginForm.ofRequest service.room r = .ok form)
    (answered : (service.respond scene r s).result = .ok (service', response))
    (ok : response.status = 200) :
    ∃ record, (service.realm.authenticate scene form.username form.password s).result =
        .ok (some record) ∧
      response = .loggedIn service.secureCookies record ∧
      (service.respond scene r s).state =
        (service.realm.authenticate scene form.username form.password s).state ∧
      ∃ counters, service' = { service with counters := counters } := by
  have charge := charge?_login h read
  cases within : (service.counters.hit r.path (Authorization.addressOf r.client)
      service.loginLimits).2 with
  | some limit =>
    -- a login over the limit is not answered with 200
    rw [(respond_of_exceeded charge within scene s).1, Except.ok.injEq, Prod.mk.injEq] at answered
    rw [← answered.2] at ok
    exact absurd (show 429 = 200 from ok) (by decide)
  | none =>
    obtain ⟨result, state⟩ := respond_of_counted charge within scene s
    obtain ⟨response_eq, state_eq⟩ := Operation.run_login service.realm
      service.secureCookies form
    rw [result, Except.ok.injEq, Prod.mk.injEq, response_eq] at answered
    obtain ⟨rfl, rfl⟩ := answered
    cases hr : (service.realm.authenticate scene form.username form.password s).result with
    | error e =>
      rw [hr] at ok
      exact absurd (show 500 = 200 from ok) (by decide)
    | ok answer =>
      cases answer with
      | none =>
        rw [hr] at ok
        exact absurd (show 401 = 200 from ok) (by decide)
      | some record => exact ⟨record, rfl, rfl, state.trans state_eq, _, rfl⟩

/-- A login that the realm lets in, within the limits of its client, is answered with its record. -/
theorem respond_login {form : LoginForm} (h : service.Reaches r .login)
    (read : LoginForm.ofRequest service.room r = .ok form)
    (counted : (service.counters.hit r.path (Authorization.addressOf r.client)
      service.loginLimits).2 = none) {record : Record}
    (answer : (service.realm.authenticate scene form.username form.password s).result =
      .ok (some record)) :
    ∃ counters, (service.respond scene r s).result =
        .ok ({ service with counters := counters }, .loggedIn service.secureCookies record) ∧
      (service.respond scene r s).state =
        (service.realm.authenticate scene form.username form.password s).state := by
  obtain ⟨result, state⟩ := respond_of_counted (charge?_login h read) counted scene s
  obtain ⟨response_eq, state_eq⟩ := Operation.run_login service.realm service.secureCookies form
  rw [response_eq, answer] at result
  exact ⟨_, result, state.trans state_eq⟩

/-- The answer to a login hands out the cookie of its record, if it hands out one. -/
theorem cookie_of_loggedIn {secure : Bool} {record : Record} {header : String}
    (handed : ("set-cookie", header) ∈ (Response.loggedIn secure record).headers) :
    ∃ c, record.cookie = some c ∧ c ≠ "" ∧ Cookie.header? c secure = some header ∧
      (Response.loggedIn secure record).content = Response.identity record := by
  unfold Response.loggedIn at handed ⊢
  simp only at handed ⊢
  -- a record without a cookie is not given one, and one that cannot be sent fails the response
  by_cases bare : record.cookie.getD "" = ""
  · simp [bare, Response.noStore] at handed
  · rw [if_neg bare] at handed ⊢
    cases hh : Cookie.header? (record.cookie.getD "") secure with
    | none => simp [hh, Response.internalError, errorResponse] at handed
    | some value =>
      obtain rfl : header = value := by simpa [hh, Response.noStore] using handed
      cases hc : record.cookie with
      | none => exact absurd (by rw [hc]; rfl) bare
      | some c =>
        rw [hc] at bare hh
        exact ⟨c, rfl, bare, hh, rfl⟩

/-- A check without credentials, within the limits of its client, is answered for its cookie. -/
theorem respond_resume (h : service.Reaches r .verify)
    (anonymous : r.headers.all "authorization" = [])
    (counted : (service.counters.hit r.path (Authorization.addressOf r.client)
      service.verifyLimits).2 = none) {found : Record}
    (answer : (Realm.authenticateCookie scene (Cookie.ofRequest r) s).result = .ok (some found)) :
    ∃ service', (service.respond scene r s).result = .ok (service', .verified found) ∧
      (service.respond scene r s).state.accounts = s.accounts := by
  have nothing : Authorization.present (r.headers.first? "authorization") = .nothing := by
    rw [Headers.first?, anonymous, List.head?_nil]
    rfl
  obtain ⟨result, state⟩ := respond_of_counted (charge?_resume h nothing) counted scene s
  obtain ⟨response_eq, state_eq⟩ :=
    Operation.run_resume service.realm service.secureCookies (Cookie.ofRequest r)
  rw [response_eq, answer] at result
  refine ⟨_, result, ?_⟩
  rw [state, state_eq]
  exact Realm.keepsAccounts_authenticateCookie scene _ s

/-! ### The round trip -/

/-- **A check with the cookie of a login is answered as the login was**, over an account store that
writes and any well-formed table, for local and for external accounts. Suppose that a login was
answered with 200 and handed out a cookie, and that the row of the name is then active and bears the
cookie alone. Then a check that presents nothing but the cookie, with the text that was sent, is
answered with 200 and the content of the answer to the login, and leaves the table as it is:

* at any time over a database that can be used, on the tree of the login, and on every tree on which
  a refresh reports something else than a reload, so with the credential file missing or not to be
  read;
* under any counters that let it through.
-/
theorem check_answers_as_login (service : Service) (writes : service.realm.refusing = false)
    {s : RealmState} (wellFormed : s.accounts.WellFormed) (scene : Scene) {login : Request}
    (toLogin : service.Reaches login .login) {form : LoginForm}
    (read : LoginForm.ofRequest service.room login = .ok form) {service' : Service}
    {response : Response}
    (answered : (service.respond scene login s).result = .ok (service', response))
    (ok : response.status = 200) {header : String}
    (handed : ("set-cookie", header) ∈ response.headers) {row : Row}
    (present : (service.respond scene login s).state.accounts.find? form.username = some row)
    (active : row.isActive = true)
    (alone : ∀ other ∈ (service.respond scene login s).state.accounts.rows,
      other.cookie = row.cookie → other = row)
    {scene' : Scene} (usable : scene'.databaseFault = none)
    (still : scene'.tree = scene.tree ∨ ∃ status, status ≠ .reloaded ∧
      ((service.respond scene login s).state.credentials.refresh scene'.tree).reports status = true)
    {check : Request} (toVerify : service.Reaches check .verify)
    (anonymous : check.headers.all "authorization" = []) {x : String}
    (sent : Cookie.pair header = Cookie.name ++ "=" ++ x)
    (shown : check.headers.all "cookie" = [Cookie.name ++ "=" ++ x]) (counters : Counters)
    (counted : (counters.hit check.path (Authorization.addressOf check.client)
      service.verifyLimits).2 = none) :
    let after := (service.respond scene login s).state
    let checked := Service.respond { service' with counters := counters } scene' check after
    ∃ service'' response', checked.result = .ok (service'', response') ∧ response'.status = 200 ∧
      response'.content = response.content ∧ checked.state.accounts = after.accounts := by
  intro after checked
  obtain ⟨record, answer, rfl, state, counters', rfl⟩ :=
    exists_record_of_login toLogin read answered ok
  obtain ⟨c, bears, given, written, content⟩ := cookie_of_loggedIn handed
  have after_eq : after = (service.realm.authenticate scene form.username form.password s).state :=
    state
  have resumed : ∃ found, (Realm.authenticateCookie scene' c after).result = .ok (some found) ∧
      record = { found with lastLogin := record.lastLogin } := by
    rw [state] at present alone still
    rw [after_eq]
    refine Realm.cookie_resumes_login writes wellFormed answer bears given present active alone
      usable (still.imp_right ?_)
    rintro ⟨status, other, reported⟩
    exact Credential.Store.steady_of_reports reported other
  obtain ⟨found, accepted, same⟩ := resumed
  -- what the client sends back is read as the cookie of the record
  have cookie : Cookie.ofRequest check = c :=
    Cookie.ofRequest_of_header? written (shown.trans (congrArg (fun v ↦ [v]) sent.symm))
  rw [← cookie] at accepted
  have reaches : Service.Reaches { service with counters := counters } check .verify :=
    ⟨toVerify.host, toVerify.path, toVerify.method⟩
  obtain ⟨service'', result, kept⟩ := respond_resume reaches anonymous counted accepted
  refine ⟨service'', _, result, rfl, ?_, kept⟩
  rw [content, same]
  rfl

/-- A cookie that is sent between quotes, of an account whose password the credential file has, and
the check with it after the file is gone, as the one check that the limit allows. -/
theorem check_answers_as_login_with_quoted_cookie :
    let row : Row :=
      ⟨{ username := "a", hashedPassword := some externalSentinel, cookie := some "a b",
         kind := .external }, 1, "user", ""⟩
    let s : RealmState := ⟨{ path := ⟨"/", ["htpasswd"]⟩ }, ⟨[row]⟩⟩
    let scene : Scene := ⟨Credential.lone [97, 58, 120] 1, ⟨2024, 1, 1, 0, 0, 0, 0⟩, none⟩
    let later : Scene := ⟨⟨[]⟩, ⟨2024, 1, 1, 1, 0, 0, 0⟩, none⟩
    let service : Service :=
      { realm := {}, allowedHosts := ["localhost"], verifyLimits := [⟨1, 1, .minute⟩] }
    let login : Request :=
      { method := "POST", target := "/api/v1/auth/login"
        headers := [("host", "localhost"), ("content-type", "application/json")]
        body := "\x7b\"username\":\"a\",\"password\":\"x\"\x7d" }
    let check : Request :=
      { target := "/api/v1/auth/verify"
        headers := [("host", "localhost"), ("cookie", "realm_user=\"a b\"")] }
    ∃ service' response service'' response',
      (service.respond scene login s).result = .ok (service', response) ∧ response.status = 200 ∧
        (Service.respond { service' with counters := {} } later check
          (service.respond scene login s).state).result = .ok (service'', response') ∧
        response'.status = 200 ∧ response'.content = response.content := by
  intro row s scene later service login check
  have spelt : Credential.spell? {} [97, 58, 120] = some ['a', ':', 'x'] := by decide
  have read : s.credentials.refresh scene.tree = _ :=
    Credential.Store.refresh_lone rfl nofun spelt
  have reads : (s.credentials.refresh scene.tree).isReport = true :=
    Credential.Store.isReport_refresh_lone rfl nofun spelt
  have matched : Realm.scheme? (s.refreshed scene.tree).credentials "a" "x" = some .plain := by
    rw [show (s.refreshed scene.tree).credentials = _ from congrArg Credential.Refresh.store read]
    decide
  have taken : Realm.takesLocal {} (s.refreshed scene.tree).credentials s.accounts "a" = false :=
    Realm.takesLocal_eq_false_iff.2 (Or.inr (by decide))
  have wellFormed : s.accounts.WellFormed := ⟨by decide, by decide, by decide⟩
  have found : s.accounts.find? "a" = some row := by decide
  obtain ⟨answer, written⟩ := @Realm.authenticate_of_external {} scene s "a" "x" rfl reads taken
  rw [matched, Realm.externalLogin_of_present rfl wellFormed found] at answer written
  have toLogin : service.Reaches login .login := ⟨by decide, by decide, by decide⟩
  have toVerify : service.Reaches check .verify := ⟨by decide, by decide, by decide⟩
  have form : LoginForm.ofRequest service.room login = .ok ⟨"a", "x"⟩ := by
    simp only [login]
    rfl
  have within : (service.counters.hit login.path (Authorization.addressOf login.client)
      service.loginLimits).2 = none := rfl
  -- the login succeeds by the file and leaves a cookie that has to be quoted
  obtain ⟨counters, answered, state⟩ := respond_login toLogin form within answer
  have left := state.trans written
  have gone : ((service.respond scene login s).state.credentials.refresh later.tree).reports
      .missing = true := by
    rw [left]
    show ((s.credentials.refresh scene.tree).store.refresh later.tree).reports .missing = true
    rw [read, Credential.Store.refresh_of_missing (by decide) Credential.findNode_empty]
    rfl
  have handed : ("set-cookie", "realm_user=\"a b\"; HttpOnly; Path=/; SameSite=lax") ∈
      (Response.loggedIn false (Realm.externalRow row "x").record).headers := by decide
  have present : (service.respond scene login s).state.accounts.find? "a" =
      some (Realm.externalRow row "x") := by
    rw [left]
    decide
  have alone : ∀ other ∈ (service.respond scene login s).state.accounts.rows,
      other.cookie = (Realm.externalRow row "x").cookie → other = Realm.externalRow row "x" := by
    rw [left]
    decide
  -- the client sends the pair back as it came, quotation marks and all
  have sent : Cookie.pair "realm_user=\"a b\"; HttpOnly; Path=/; SameSite=lax" =
      Cookie.name ++ "=" ++ "\"a b\"" := by decide
  have accepted : (Response.loggedIn false (Realm.externalRow row "x").record).status = 200 := by
    decide
  obtain ⟨service'', response', checked, ok, content, -⟩ :=
    check_answers_as_login service rfl wellFormed scene toLogin form answered accepted handed
      present rfl alone rfl (Or.inr ⟨.missing, nofun, gone⟩) toVerify (by decide) sent
      (by decide) {} (by decide)
  exact ⟨_, _, service'', response', answered, accepted, checked, ok, content⟩

end Service

end AuthRealm.Http
