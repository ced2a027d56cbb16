import AuthRealm.Http.Service
import AuthRealm.Proofs.Account.Store
import AuthRealm.Proofs.Http.Authorization
import AuthRealm.Proofs.Http.Cookie

/-!
# The two halves of an answer

A request is answered in two halves: what is to be done about it is decided by the request and the
counters alone, and then at most one operation of the realm is carried out. This file says what each
half comes to, so that no later file opens either.

A request that is counted has a `Charge`: the path, the key and the operation that it is for.
`Service.charge?` reads the charge off the request, with the key of a check taken from the
credentials themselves and not from the second reader of the header. **It is what the service
counts** (`decide_of_charge`), since the two readers agree wherever the first finds anything; and
**a request without a charge counts for nothing**, and is not refused for its rate
(`decide_of_no_charge`).

What an operation can be answered with is listed for each one (`Operation.Answers`), whatever the
realm and its state, and **only a request to its own route is for an operation**
(`reaches_of_perform`).
-/

namespace AuthRealm.Http

open Account

variable {service : Service} {scene : Scene} {s : RealmState} {r : Request} {counters : Counters}

/-! ### What a login answers -/

namespace Response

/-- A login is answered with 200 if there is no cookie, or it can be sent. -/
theorem status_loggedIn (secure : Bool) (record : Record) :
    (loggedIn secure record).status =
      if Cookie.isSendable (record.cookie.getD "") then 200 else 500 := by
  unfold loggedIn
  by_cases bare : record.cookie.getD "" = ""
  · have sendable : Cookie.isSendable "" = true := rfl
    simp [bare, sendable]
  · rw [← Cookie.isSome_header? (record.cookie.getD "") secure]
    cases written : Cookie.header? (record.cookie.getD "") secure with
    | none => simp [bare, written, internalError, errorResponse]
    | some value => simp [bare, written]

/-- What is answered with 200 carries the identity. -/
theorem content_loggedIn {secure : Bool} {record : Record}
    (ok : (loggedIn secure record).status = 200) :
    (loggedIn secure record).content = identity record := by
  unfold loggedIn at ok ⊢
  by_cases bare : record.cookie.getD "" = ""
  · simp [bare]
  · cases written : Cookie.header? (record.cookie.getD "") secure with
    | none => simp [bare, written, internalError, errorResponse] at ok
    | some value => simp [bare, written]

end Response

/-! ### Carrying out an operation -/

namespace Operation

/-- The response for the result of an operation. -/
def responseOf : Except Failure Response → Response
  | .ok response => response
  | .error _ => .internalError

theorem perform_apply (realm : Realm) (secure : Bool) (operation : Operation) :
    operation.perform realm secure scene s =
      { result := .ok (responseOf (operation.run realm secure scene s).result)
        state := (operation.run realm secure scene s).state
        log := (operation.run realm secure scene s).log } := by
  cases hr : (operation.run realm secure scene s).result <;>
    simp [perform, Action.bind_apply, hr, responseOf]

/-- The response to a login. -/
def loginResponse (secure : Bool) : Option Record → Response
  | some record => .loggedIn secure record
  | none => .badCredentials []

/-- A login is answered by what the realm says to the name and the password. -/
theorem run_login (realm : Realm) (secure : Bool) (form : LoginForm) :
    ((Operation.login form).run realm secure scene s).result =
        (realm.authenticate scene form.username form.password s).result.map
          (loginResponse secure) ∧
      ((Operation.login form).run realm secure scene s).state =
        (realm.authenticate scene form.username form.password s).state := by
  cases hr : (realm.authenticate scene form.username form.password s).result with
  | error e => simp [Operation.run, Action.bind_apply, hr, Except.map]
  | ok answer => cases answer <;> simp [Operation.run, Action.bind_apply, hr, Except.map,
      loginResponse]

/-- A check of a name and a password is answered by what the realm says to them. -/
theorem run_verify (realm : Realm) (secure : Bool) (u p : String) :
    ((Operation.verify u p).run realm secure scene s).result =
        (realm.authenticate scene u p s).result.map verifyResponse ∧
      ((Operation.verify u p).run realm secure scene s).state =
        (realm.authenticate scene u p s).state := by
  cases hr : (realm.authenticate scene u p s).result <;>
    simp [Operation.run, Action.bind_apply, hr, Except.map]

/-- A check of a cookie is answered by what the realm says to it. -/
theorem run_resume (realm : Realm) (secure : Bool) (c : String) :
    ((Operation.resume c).run realm secure scene s).result =
        (Realm.authenticateCookie scene c s).result.map verifyResponse ∧
      ((Operation.resume c).run realm secure scene s).state =
        (Realm.authenticateCookie scene c s).state := by
  cases hr : (Realm.authenticateCookie scene c s).result <;>
    simp [Operation.run, Action.bind_apply, hr, Except.map]

/-- The responses that an operation can come to. -/
inductive Answers (secure : Bool) : Operation → Response → Prop
  | login (form : LoginForm) (answer : Option Record) :
      Answers secure (.login form) (loginResponse secure answer)
  | verify (u p : String) (answer : Option Record) :
      Answers secure (.verify u p) (verifyResponse answer)
  | resume (cookie : String) (answer : Option Record) :
      Answers secure (.resume cookie) (verifyResponse answer)
  | changePassword (reason : String) : Answers secure .changePassword (.unsupported reason)
  | health (report : Text.Json) : Answers secure .health { status := 200, content := .json report }
  | failed (operation : Operation) : Answers secure operation .internalError

/-- **An operation comes to one of its responses.** -/
theorem answers_run (realm : Realm) (secure : Bool) (scene : Scene) (operation : Operation)
    (s : RealmState) :
    operation.Answers secure (responseOf (operation.run realm secure scene s).result) := by
  -- what the realm answers is turned into a response, and a failure of it into an internal error
  cases operation with
  | login form =>
    rw [(run_login realm secure form).1]
    cases (realm.authenticate scene form.username form.password s).result with
    | error e => exact .failed _
    | ok answer => exact .login form answer
  | verify u p =>
    rw [(run_verify realm secure u p).1]
    cases (realm.authenticate scene u p s).result with
    | error e => exact .failed _
    | ok answer => exact .verify u p answer
  | resume cookie =>
    rw [(run_resume realm secure cookie).1]
    cases (Realm.authenticateCookie scene cookie s).result with
    | error e => exact .failed _
    | ok answer => exact .resume cookie answer
  | changePassword => exact .changePassword _
  | health =>
    have reported : (Operation.health.run realm secure scene s).result =
        (healthReport scene s.credentials.path s).result := rfl
    rw [reported, healthReport]
    cases scene.tree.isFile s.credentials.path with
    | error fault => exact .failed _
    | ok present => exact .health _

/-- Only the service itself refuses for a rate: no operation is answered with 429. -/
theorem Answers.status_ne {secure : Bool} {operation : Operation} {response : Response}
    (h : operation.Answers secure response) : response.status ≠ 429 := by
  -- 429 is said by the counters alone; no operation answers with it
  cases h with
  | login form answer =>
    cases answer with
    | none => exact show 401 ≠ 429 by decide
    | some record =>
      show (Response.loggedIn secure record).status ≠ 429
      rw [Response.status_loggedIn]
      split
      · decide
      · decide
  | verify _ _ answer | resume _ answer =>
    cases answer with
    | none => exact show 401 ≠ 429 by decide
    | some record => exact show 200 ≠ 429 by decide
  | changePassword => exact show 405 ≠ 429 by decide
  | health => exact show 200 ≠ 429 by decide
  | failed => exact show 500 ≠ 429 by decide

/-- The route that an operation belongs to. -/
def route : Operation → Route
  | .login _ => .login
  | .verify _ _ => .verify
  | .resume _ => .verify
  | .changePassword => .password
  | .health => .health

theorem route_ne_schema (operation : Operation) : operation.route ≠ .schema := by
  cases operation <;> nofun

end Operation

namespace Service

/-- A request that is answered at once has touched nothing. -/
theorem respond_of_answer (scene : Scene) (s : RealmState) {response : Response}
    (decided : service.decide r = (counters, .answer response)) :
    (service.respond scene r s).result = .ok ({ service with counters := counters },
        if r.method = "HEAD" then response.headersOnly else response) ∧
      (service.respond scene r s).state = s := by
  simp [respond, decided, Action.bind_apply]

end Service

/-! ### Requests to a route -/

namespace Route

variable {route route' : Route} {path : String}

/-- A route answers to two spellings of its path. -/
theorem answersTo_iff :
    route.answersTo path = true ↔ path = route.path ∨ path = route.path ++ "\n" := by
  simp only [answersTo, Bool.or_eq_true, beq_iff_eq]

/-- No path has answers from two routes. -/
theorem eq_of_answersTo (h : route.answersTo path = true) (h' : route'.answersTo path = true) :
    route = route' := by
  rcases answersTo_iff.1 h with rfl | rfl
  · revert h'
    cases route <;> cases route' <;> decide
  · revert h'
    cases route <;> cases route' <;> decide

theorem mem_all (route : Route) : route ∈ all := by
  cases route <;> decide

theorem answersTo_of_ofPath? (found : ofPath? path = some route) : route.answersTo path = true := by
  have chosen := List.find?_eq_some_iff_append.1 found
  exact chosen.1

/-- A path leads to the route that answers to it. -/
theorem ofPath?_eq_some_iff : ofPath? path = some route ↔ route.answersTo path = true := by
  refine ⟨answersTo_of_ofPath?, fun answers ↦ ?_⟩
  cases found : ofPath? path with
  | none => exact absurd answers (List.find?_eq_none.1 found route (mem_all route))
  | some other => rw [eq_of_answersTo (answersTo_of_ofPath? found) answers]

theorem ofPath?_eq_none_iff :
    ofPath? path = none ↔ ∀ route : Route, route.answersTo path = false := by
  constructor
  · exact fun unknown route ↦
      Bool.eq_false_iff.2 (List.find?_eq_none.1 unknown route (mem_all route))
  · exact fun elsewhere ↦ List.find?_eq_none.2 fun route _ ↦ Bool.eq_false_iff.1 (elsewhere route)

theorem isSome_ofPath? : (ofPath? path).isSome = true ↔ ∃ route : Route, route.answersTo path := by
  rw [Option.isSome_iff_exists]
  exact exists_congr fun route ↦ ofPath?_eq_some_iff

end Route

namespace Service

/-- A request to a route: with a path that it answers to and one of its methods, from a host that
the service answers to. -/
structure Reaches (service : Service) (r : Request) (route : Route) : Prop where
  host : Host.admission service.allowedHosts r.host = .admitted
  path : route.answersTo r.path = true
  method : r.method ∈ route.methods

instance (service : Service) (r : Request) (route : Route) : Decidable (service.Reaches r route) :=
  decidable_of_iff (Host.admission service.allowedHosts r.host = .admitted ∧
      route.answersTo r.path = true ∧ r.method ∈ route.methods)
    ⟨fun h ↦ ⟨h.1, h.2.1, h.2.2⟩, fun h ↦ ⟨h.host, h.path, h.method⟩⟩

theorem decide_of_reaches {route : Route} (h : service.Reaches r route) :
    service.decide r = service.decideRoute r route := by
  simp [decide, h.host, decidePath, Route.ofPath?_eq_some_iff.2 h.path, h.method]

/-- Only the document that describes the routes can be asked for by its headers alone. -/
theorem ne_head_of_reaches {route : Route} (h : service.Reaches r route) (other : route ≠ .schema) :
    r.method ≠ "HEAD" := by
  rintro head
  have method := head ▸ h.method
  cases route with
  | schema => exact other rfl
  | login | verify | password | health => exact absurd method (by decide)

/-- A request reaches one route at most. -/
theorem Reaches.unique {route route' : Route} (h : service.Reaches r route)
    (h' : service.Reaches r route') : route = route' :=
  Route.eq_of_answersTo h.path h'.path

/-! ### Requests to no route -/

theorem decide_of_unknownHost (h : Host.admission service.allowedHosts r.host = .refused) :
    service.decide r = (service.counters, .answer .unknownHost) := by
  simp only [decide, h]

theorem decide_of_otherHost (h : Host.admission service.allowedHosts r.host = .redirected) :
    service.decide r = (service.counters,
      .answer (.redirect (location ("www." ++ r.host) r.path r.query))) := by
  simp only [decide, h]

theorem decide_of_elsewhere (admitted : Host.admission service.allowedHosts r.host = .admitted)
    (elsewhere : ∀ route : Route, route.answersTo r.path = false) :
    service.decide r = (service.counters, .answer (unknownPath r)) := by
  simp only [decide, admitted, decidePath, Route.ofPath?_eq_none_iff.2 elsewhere]

theorem decide_of_wrongMethod (admitted : Host.admission service.allowedHosts r.host = .admitted)
    {route : Route} (path : route.answersTo r.path = true) (other : r.method ∉ route.methods) :
    service.decide r = (service.counters, .answer (.wrongMethod route)) := by
  simp [decide, admitted, decidePath, Route.ofPath?_eq_some_iff.2 path, other]

/-- A request for none of the paths is sent to a route if a slash is all that keeps it from one. -/
theorem unknownPath_of_near (inside : r.path ≠ "/")
    (near : ∃ route : Route, route.answersTo (otherPath r.path) = true) :
    unknownPath r = .redirect (location r.host (otherPath r.path) r.query) := by
  simp [unknownPath, inside, Route.isSome_ofPath?.2 near]

theorem unknownPath_of_far
    (far : r.path = "/" ∨ ∀ route : Route, route.answersTo (otherPath r.path) = false) :
    unknownPath r = .notFound := by
  rcases far with root | far
  · simp [unknownPath, root]
  · simp [unknownPath, Route.ofPath?_eq_none_iff.2 far]

/-- What keeps a request from every route: its host, its path, or its method. -/
theorem cases_of_not_reaches (h : ∀ route, ¬ service.Reaches r route) :
    Host.admission service.allowedHosts r.host = .refused ∨
      Host.admission service.allowedHosts r.host = .redirected ∨
      Host.admission service.allowedHosts r.host = .admitted ∧
        ((∀ route : Route, route.answersTo r.path = false) ∨
          ∃ route : Route, route.answersTo r.path = true ∧ r.method ∉ route.methods) := by
  cases admission : Host.admission service.allowedHosts r.host with
  | refused => exact Or.inl rfl
  | redirected => exact Or.inr (Or.inl rfl)
  | admitted =>
    refine Or.inr (Or.inr ⟨rfl, ?_⟩)
    by_cases known : ∃ route : Route, route.answersTo r.path = true
    · obtain ⟨route, path⟩ := known
      exact Or.inr ⟨route, path, fun method ↦ h route ⟨admission, path, method⟩⟩
    · exact Or.inl fun route ↦ Bool.eq_false_iff.2 (not_exists.1 known route)

/-- A request that reaches no route is answered at once, and not for its rate. -/
theorem decide_of_not_reaches (h : ∀ route, ¬ service.Reaches r route) :
    ∃ response, service.decide r = (service.counters, .answer response) ∧
      response.status ≠ 429 := by
  rcases cases_of_not_reaches h with
    refused | redirected | ⟨admitted, elsewhere | ⟨route, path, other⟩⟩
  · exact ⟨_, decide_of_unknownHost refused, show 400 ≠ 429 by decide⟩
  · exact ⟨_, decide_of_otherHost redirected, show 307 ≠ 429 by decide⟩
  · refine ⟨_, decide_of_elsewhere admitted elsewhere, ?_⟩
    unfold unknownPath
    split
    · exact show 307 ≠ 429 by decide
    · exact show 404 ≠ 429 by decide
  · exact ⟨_, decide_of_wrongMethod admitted path other, show 405 ≠ 429 by decide⟩

/-! ### Requests that cannot be read -/

theorem decide_of_badForm (h : service.Reaches r .login) {refusal : LoginForm.Refusal}
    (read : LoginForm.ofRequest service.room r = .error refusal) :
    service.decide r = (service.counters, .answer (.badForm refusal)) := by
  rw [decide_of_reaches h, decideRoute, decideLogin, read]

theorem status_badForm (refusal : LoginForm.Refusal) : (Response.badForm refusal).status ≠ 429 := by
  cases refusal with
  | complaints _ => exact show 422 ≠ 429 by decide
  | unparsable => exact show 400 ≠ 429 by decide

theorem decide_of_unreadable (h : service.Reaches r .verify)
    (presented : Authorization.present (r.headers.first? "authorization") = .unreadable) :
    service.decide r = (service.counters, .answer .unreadableCredentials) := by
  rw [decide_of_reaches h, decideRoute, decideVerify]
  simp only [presented]

/-! ### Requests that are counted -/

end Service

/-- What a request is counted for: its path, the key by which it is counted there, and the operation
that it is for. -/
structure Charge where
  path : String
  key : String
  operation : Operation
  deriving DecidableEq, Repr

namespace Service

/-- The limits of a route. -/
def limits (service : Service) : Route → List RateLimit
  | .login => service.loginLimits
  | .verify => service.verifyLimits
  | _ => []

/-- What a request is counted for, if it is: a login by the address of the client, a check by the
address and the name that it presents, or by the address alone if it presents none. -/
def charge? (service : Service) (r : Request) : Option Charge :=
  let address := Authorization.addressOf r.client
  if service.Reaches r .login then
    match LoginForm.ofRequest service.room r with
    | .ok form => some ⟨r.path, address, .login form⟩
    | .error _ => none
  else if service.Reaches r .verify then
    match Authorization.present (r.headers.first? "authorization") with
    | .credentials u p => some ⟨r.path, address ++ ":" ++ u, .verify u p⟩
    | .nothing => some ⟨r.path, address, .resume (Cookie.ofRequest r)⟩
    | .unreadable => none
  else none

theorem charge?_login {form : LoginForm} (h : service.Reaches r .login)
    (read : LoginForm.ofRequest service.room r = .ok form) :
    service.charge? r = some ⟨r.path, Authorization.addressOf r.client, .login form⟩ := by
  simp only [charge?, if_pos h, read]

theorem not_reaches_login (h : service.Reaches r .verify) : ¬ service.Reaches r .login :=
  fun h' ↦ absurd (h.unique h') nofun

theorem charge?_verify {u p : String} (h : service.Reaches r .verify)
    (presented : Authorization.present (r.headers.first? "authorization") = .credentials u p) :
    service.charge? r =
      some ⟨r.path, Authorization.addressOf r.client ++ ":" ++ u, .verify u p⟩ := by
  simp only [charge?, if_neg (not_reaches_login h), if_pos h, presented]

theorem charge?_resume (h : service.Reaches r .verify)
    (presented : Authorization.present (r.headers.first? "authorization") = .nothing) :
    service.charge? r =
      some ⟨r.path, Authorization.addressOf r.client, .resume (Cookie.ofRequest r)⟩ := by
  simp only [charge?, if_neg (not_reaches_login h), if_pos h, presented]

theorem reaches_withCounters {route : Route} :
    { service with counters := counters }.Reaches r route ↔ service.Reaches r route :=
  ⟨fun h ↦ ⟨h.host, h.path, h.method⟩, fun h ↦ ⟨h.host, h.path, h.method⟩⟩

/-- What a request is counted for has nothing to do with what has been counted. -/
theorem charge?_withCounters :
    { service with counters := counters }.charge? r = service.charge? r := by
  simp only [charge?, reaches_withCounters]

/-- The three kinds of requests that are counted. -/
theorem charge?_cases {c : Charge} (h : service.charge? r = some c) :
    (∃ form, service.Reaches r .login ∧ LoginForm.ofRequest service.room r = .ok form ∧
        c = ⟨r.path, Authorization.addressOf r.client, .login form⟩) ∨
      (∃ u p, service.Reaches r .verify ∧
        Authorization.present (r.headers.first? "authorization") = .credentials u p ∧
        c = ⟨r.path, Authorization.addressOf r.client ++ ":" ++ u, .verify u p⟩) ∨
      (service.Reaches r .verify ∧
        Authorization.present (r.headers.first? "authorization") = .nothing ∧
        c = ⟨r.path, Authorization.addressOf r.client, .resume (Cookie.ofRequest r)⟩) := by
  -- the three ways to be counted; the key of a check has the name that is presented behind the
  -- address
  unfold charge? at h
  split at h
  · rename_i toLogin
    split at h
    · rename_i form read
      exact Or.inl ⟨form, toLogin, read, (Option.some.inj h).symm⟩
    · exact absurd h nofun
  · split at h
    · rename_i toVerify
      split at h
      · rename_i u p presented
        exact Or.inr (Or.inl ⟨u, p, toVerify, presented, (Option.some.inj h).symm⟩)
      · rename_i presented
        exact Or.inr (Or.inr ⟨toVerify, presented, (Option.some.inj h).symm⟩)
      · exact absurd h nofun
    · exact absurd h nofun

/-- **What is counted is the charge.** -/
theorem decide_of_charge {c : Charge} (h : service.charge? r = some c) :
    service.decide r =
      service.countAgainst c.path c.key (service.limits c.operation.route) c.operation := by
  rcases charge?_cases h with ⟨form, reaches, read, rfl⟩ | ⟨u, p, reaches, presented, rfl⟩ |
    ⟨reaches, presented, rfl⟩
  · rw [decide_of_reaches reaches, decideRoute, decideLogin, read]
    rfl
  · -- the limiter reads the header once more, by its own rules, and finds the same name
    have key := Authorization.rateKey_of_credentials r.client presented
    rw [decide_of_reaches reaches, decideRoute, decideVerify]
    simp only [presented, key]
    rfl
  · have key := Authorization.rateKey_of_nothing r.client presented
    rw [decide_of_reaches reaches, decideRoute, decideVerify]
    simp only [presented, key]
    rfl

/-- **What has no charge counts for nothing**, and has nothing to do with a rate: it is answered at
once, though never with 429, or it is for one of the two operations that let nobody in. -/
theorem decide_of_no_charge (h : service.charge? r = none) :
    (∃ response, service.decide r = (service.counters, .answer response) ∧
        response.status ≠ 429) ∨
      (service.Reaches r .password ∧
        service.decide r = (service.counters, .perform .changePassword)) ∨
      service.Reaches r .health ∧ service.decide r = (service.counters, .perform .health) := by
  by_cases reaches : ∃ route, service.Reaches r route
  · obtain ⟨route, reaches⟩ := reaches
    cases route with
    -- on a route that counts, only what is refused before the counters has no charge
    | login =>
      cases read : LoginForm.ofRequest service.room r with
      | ok form => exact absurd ((charge?_login reaches read).symm.trans h) nofun
      | error refusal => exact Or.inl ⟨_, decide_of_badForm reaches read, status_badForm refusal⟩
    | verify =>
      cases presented : Authorization.present (r.headers.first? "authorization") with
      | credentials u p => exact absurd ((charge?_verify reaches presented).symm.trans h) nofun
      | nothing => exact absurd ((charge?_resume reaches presented).symm.trans h) nofun
      | unreadable =>
        exact Or.inl ⟨_, decide_of_unreadable reaches presented, show 401 ≠ 429 by decide⟩
    | password => exact Or.inr (Or.inl ⟨reaches, decide_of_reaches reaches⟩)
    | health => exact Or.inr (Or.inr ⟨reaches, decide_of_reaches reaches⟩)
    | schema => exact Or.inl ⟨_, decide_of_reaches reaches, show 200 ≠ 429 by decide⟩
  · exact Or.inl (decide_of_not_reaches (not_exists.1 reaches))

/-- A check of credentials that cannot be read is refused at once. -/
theorem respond_of_unreadable (h : service.Reaches r .verify)
    (presented : Authorization.present (r.headers.first? "authorization") = .unreadable)
    (scene : Scene) (s : RealmState) :
    (service.respond scene r s).result = .ok (service, .unreadableCredentials) ∧
      (service.respond scene r s).state = s := by
  obtain ⟨result, state⟩ := respond_of_answer scene s (decide_of_unreadable h presented)
  rw [if_neg (ne_head_of_reaches h nofun)] at result
  exact ⟨result, state⟩

/-- A request that is counted has reached the route of its operation, -/
theorem reaches_of_charge {c : Charge} (h : service.charge? r = some c) :
    service.Reaches r c.operation.route := by
  rcases charge?_cases h with ⟨_, reaches, _, rfl⟩ | ⟨_, _, reaches, _, rfl⟩ | ⟨reaches, _, rfl⟩
  · exact reaches
  · exact reaches
  · exact reaches

/-- so it does not ask for headers only. -/
theorem ne_head_of_charge {c : Charge} (h : service.charge? r = some c) : r.method ≠ "HEAD" :=
  ne_head_of_reaches (reaches_of_charge h) c.operation.route_ne_schema

theorem countAgainst_eq (service : Service) (path key : String) (limits : List RateLimit)
    (operation : Operation) :
    service.countAgainst path key limits operation =
      ((service.counters.hit path key limits).1,
        match (service.counters.hit path key limits).2 with
        | some limit => .answer (.tooMany limit)
        | none => .perform operation) := by
  unfold countAgainst
  rcases service.counters.hit path key limits with ⟨counters, _ | limit⟩
  · rfl
  · rfl

/-- **Only a request to its route is for an operation.** -/
theorem reaches_of_perform {operation : Operation}
    (decided : service.decide r = (counters, .perform operation)) :
    service.Reaches r operation.route := by
  cases charged : service.charge? r with
  -- a charged request performs the operation of its charge, unless its rate is exceeded
  | some c =>
    obtain rfl : c.operation = operation := by
      have counted := (decide_of_charge charged).symm.trans decided
      rw [countAgainst_eq] at counted
      have performed := congrArg Prod.snd counted
      split at performed
      · exact absurd performed nofun
      · exact Decision.perform.inj performed
    exact reaches_of_charge charged
  | none =>
    rcases decide_of_no_charge charged with ⟨_, answered, -⟩ | ⟨reaches, performs⟩ |
      ⟨reaches, performs⟩
    · exact absurd (congrArg Prod.snd (answered.symm.trans decided)) nofun
    · obtain rfl := Decision.perform.inj (congrArg Prod.snd (performs.symm.trans decided))
      exact reaches
    · obtain rfl := Decision.perform.inj (congrArg Prod.snd (performs.symm.trans decided))
      exact reaches

/-- A request for an operation is answered with what comes of it. -/
theorem respond_of_perform (scene : Scene) (s : RealmState) {operation : Operation}
    (decided : service.decide r = (counters, .perform operation)) :
    (service.respond scene r s).result = .ok ({ service with counters := counters },
        Operation.responseOf
          (operation.run service.realm service.secureCookies scene s).result) ∧
      (service.respond scene r s).state =
        (operation.run service.realm service.secureCookies scene s).state := by
  have get := ne_head_of_reaches (reaches_of_perform decided) operation.route_ne_schema
  simp [respond, decided, Action.bind_apply, Operation.perform_apply, get]

/-- The counters after a charge, and the limit that it exceeds, if it does. -/
def hit (service : Service) (c : Charge) : Counters × Option RateLimit :=
  service.counters.hit c.path c.key (service.limits c.operation.route)

theorem decide_of_exceeded {c : Charge} (h : service.charge? r = some c) {limit : RateLimit}
    (exceeded : (service.hit c).2 = some limit) :
    service.decide r = ((service.hit c).1,
      .answer (.tooMany limit)) := by
  rw [decide_of_charge h, countAgainst_eq, ← hit, exceeded]

theorem decide_of_counted {c : Charge} (h : service.charge? r = some c)
    (counted : (service.hit c).2 = none) :
    service.decide r = ((service.hit c).1,
      .perform c.operation) := by
  rw [decide_of_charge h, countAgainst_eq, ← hit, counted]

/-- A request over a limit is refused, and leaves the state as it is. -/
theorem respond_of_exceeded {c : Charge} (h : service.charge? r = some c) {limit : RateLimit}
    (exceeded : (service.hit c).2 = some limit)
    (scene : Scene) (s : RealmState) :
    (service.respond scene r s).result = .ok ({ service with
        counters := (service.hit c).1 },
        .tooMany limit) ∧
      (service.respond scene r s).state = s := by
  obtain ⟨result, state⟩ := respond_of_answer scene s (decide_of_exceeded h exceeded)
  rw [if_neg (ne_head_of_charge h)] at result
  exact ⟨result, state⟩

/-- A request within the limits is answered with what comes of its operation. -/
theorem respond_of_counted {c : Charge} (h : service.charge? r = some c)
    (counted : (service.hit c).2 = none)
    (scene : Scene) (s : RealmState) :
    (service.respond scene r s).result = .ok ({ service with
        counters := (service.hit c).1 },
        Operation.responseOf
          (c.operation.run service.realm service.secureCookies scene s).result) ∧
      (service.respond scene r s).state =
        (c.operation.run service.realm service.secureCookies scene s).state :=
  respond_of_perform scene s (decide_of_counted h counted)

end Service

end AuthRealm.Http
