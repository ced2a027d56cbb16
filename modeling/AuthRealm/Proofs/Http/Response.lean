import AuthRealm.Proofs.Http.Refusal

/-!
# The form of responses

Every response comes from one of four places (`Visit.exists_responds`): the service refuses, it
sends the client elsewhere, it hands out the document of its routes, or an operation answers. What
all responses of a kind have in common is read off these four.

* **An error has the form of an error exactly if its request has reached a route**
  (`error_form_iff_reaches`). What is refused on the way, for its host, its path or its method, is
  answered in other words.
* **An answer to a login or a check stays out of caches**, and a check that fails comes with the
  challenge to try again (`authentication_answers_uncached`). The one exception is a check of
  credentials that cannot be read: it is turned away before the route is asked, with the challenge
  but without a word to caches.
-/

namespace AuthRealm.Http

open Text Account

/-- A header under another name is passed over. -/
theorem Headers.all_cons_of_ne {name key : String} (h : lowerCase name ≠ key) (value : String)
    (rest : Headers) : Headers.all ((name, value) :: rest) key = rest.all key := by
  rw [Headers.all, List.filter_cons_of_neg (by simpa using h)]
  rfl

/-! ### Where a response comes from -/

/-- The ways in which a visit is responded to. -/
inductive Visit.Responds (v : Visit) : Response → Prop
  | refused {refusal : Refusal} {response : Response}
      (refused : v.service.Refuses v.request refusal) (answers : refusal.Answers response) :
      Responds v (if v.request.method = "HEAD" then response.headersOnly else response)
  | redirected (redirected : v.service.Redirects v.request) (location : String) :
      Responds v (.redirect location)
  | described (reaches : v.service.Reaches v.request .schema) {response : Response}
      (ok : response.status = 200) : Responds v response
  | performed {operation : Operation} {response : Response} (asks : v.asks? = some operation)
      (answers : operation.Answers v.service.secureCookies response) : Responds v response

/-- **Every visit is responded to in one of these ways.** -/
theorem Visit.exists_responds (v : Visit) :
    ∃ response, v.response? = some response ∧ v.Responds response := by
  rcases v.service.cases_of_request v.request with
    ⟨refusal, refused⟩ | redirected | schema | ⟨operation, performs⟩
  · obtain ⟨_, response, decided, answers, -⟩ := Service.decide_of_refuses refused
    obtain ⟨-, -, -, answered⟩ := Visit.of_answer decided
    exact ⟨_, answered, .refused refused answers⟩
  · obtain ⟨location, decided⟩ := Service.decide_of_redirects redirected
    obtain ⟨-, -, -, answered⟩ := Visit.of_answer decided
    -- nothing is left out of a response that has no content
    have bare : (Response.redirect location).headersOnly = .redirect location := rfl
    rw [bare, ite_self] at answered
    exact ⟨_, answered, .redirected redirected location⟩
  · obtain ⟨-, -, -, answered⟩ := Visit.of_answer (Service.decide_of_schema schema)
    refine ⟨_, answered, .described schema ?_⟩
    split
    · rfl
    · rfl
  · have decided :
        v.service.decide v.request = ((v.service.decide v.request).1, .perform operation) :=
      Prod.ext rfl performs
    obtain ⟨-, asks, response, answered, answers⟩ := Visit.of_perform decided
    exact ⟨response, answered, .performed asks answers⟩

/-- A request for headers only reaches no route that may refuse it, so what is refused at a route
has its content. -/
theorem Service.Reaches.full {service : Service} {r : Request} {route : Route}
    (h : service.Reaches r route) (other : route ≠ .schema) (response : Response) :
    (if r.method = "HEAD" then response.headersOnly else response) = response :=
  if_neg (ne_head_of_reaches h other)

theorem Service.Refuses.not_reaches_schema {service : Service} {r : Request} {refusal : Refusal}
    (h : service.Refuses r refusal) : ¬ service.Reaches r .schema := by
  intro schema
  obtain ⟨_, response, decided, answers, -⟩ := decide_of_refuses h
  have handed := congrArg Prod.snd ((decide_of_schema schema).symm.trans decided)
  have status : response.status = 200 :=
    (congrArg Response.status (Decision.answer.inj handed)).symm
  rw [answers.status_eq] at status
  cases refusal <;> exact absurd status (by decide)

/-! ### The form of errors -/

/-- The form of an error: a code, a message, and a detail that may be left open. -/
def Content.IsErrorForm (content : Content) : Prop :=
  ∃ code message detail, content = .json (.object [("error", .object
      [("code", .string code), ("message", .string message), ("detail", detail)])]) ∧
    (detail = .null ∨ ∃ text, detail = .string text)

theorem isErrorForm_null (status : Nat) (code message : String) (headers : Headers) :
    (errorResponse status code message .null headers).content.IsErrorForm :=
  ⟨code, message, .null, rfl, Or.inl rfl⟩

theorem isErrorForm_string (status : Nat) (code message detail : String) (headers : Headers) :
    (errorResponse status code message (.string detail) headers).content.IsErrorForm :=
  ⟨code, message, .string detail, rfl, Or.inr ⟨detail, rfl⟩⟩

theorem not_isErrorForm_text (text : String) : ¬ (Content.text text).IsErrorForm := by
  rintro ⟨_, _, _, form, -⟩
  exact absurd form nofun

theorem not_isErrorForm_detail (detail : String) :
    ¬ (Content.json (.object [("detail", .string detail)])).IsErrorForm := by
  rintro ⟨_, _, _, form, -⟩
  simp at form

/-- A refusal has the form of an error if it is one at a route. -/
theorem Refusal.Answers.isErrorForm_iff {refusal : Refusal} {response : Response}
    (h : refusal.Answers response) : response.content.IsErrorForm ↔ refusal.atRoute = true := by
  cases h with
  | unknownHost => exact iff_of_false (not_isErrorForm_text _) Bool.false_ne_true
  | unknownPath => exact iff_of_false (not_isErrorForm_detail _) Bool.false_ne_true
  | wrongMethod route => exact iff_of_false (not_isErrorForm_detail _) Bool.false_ne_true
  | badForm complaints => exact iff_of_true (isErrorForm_string ..) rfl
  | unparsableBody => exact iff_of_true (isErrorForm_null ..) rfl
  | unreadableCredentials => exact iff_of_true (isErrorForm_null ..) rfl
  | tooMany limit => exact iff_of_true (isErrorForm_string ..) rfl

/-- A login that succeeds hands out the identity and stays out of caches; the one other way to
answer it is the failure to send the cookie. -/
theorem Response.loggedIn_cases (secure : Bool) (record : Record) :
    loggedIn secure record = internalError ∨
      (loggedIn secure record).status = 200 ∧
        (loggedIn secure record).headers.all "cache-control" = ["no-store"] := by
  unfold loggedIn
  by_cases bare : record.cookie.getD "" = ""
  · rw [if_pos bare]
    exact Or.inr ⟨rfl, rfl⟩
  · rw [if_neg bare]
    cases Cookie.header? (record.cookie.getD "") secure with
    | none => exact Or.inl rfl
    | some value =>
      have cookie : lowerCase "set-cookie" ≠ "cache-control" := by decide
      exact Or.inr ⟨rfl, Headers.all_cons_of_ne cookie value [noStore]⟩

/-- **An operation that is answered with an error is answered in the form of one.** -/
theorem Operation.Answers.isErrorForm {secure : Bool} {operation : Operation} {response : Response}
    (h : operation.Answers secure response) (error : 400 ≤ response.status) :
    response.content.IsErrorForm := by
  -- errors of operations are all made by the one function, with a text or with null as detail
  cases h with
  | login form answer =>
    cases answer with
    | none => exact isErrorForm_null ..
    | some record =>
      rcases Response.loggedIn_cases secure record with failed | ⟨ok, -⟩
      · have internal : loginResponse secure (some record) = .internalError := failed
        rw [internal]
        exact isErrorForm_null ..
      · have status : (loginResponse secure (some record)).status = 200 := ok
        omega
  | verify _ _ answer | resume _ answer =>
    cases answer with
    | none => exact isErrorForm_null ..
    | some record => exact absurd error (show ¬ 400 ≤ 200 by decide)
  | changePassword reason => exact isErrorForm_string ..
  | health report => exact absurd error (show ¬ 400 ≤ 200 by decide)
  | failed => exact isErrorForm_null ..

/-- **An error has the form of an error exactly if its request has reached a route.** For every
state of a service and every request that is answered with a status of 400 or above. -/
theorem error_form_iff_reaches (v : Visit) :
    ∃ response, v.response? = some response ∧
      (400 ≤ response.status →
        (response.content.IsErrorForm ↔ ∃ route, v.service.Reaches v.request route)) := by
  obtain ⟨response, answered, responds⟩ := v.exists_responds
  refine ⟨response, answered, fun error ↦ ?_⟩
  -- only a refusal that comes before the routes is written by the framework itself
  cases responds with
  | @refused refusal response refused answers =>
    rw [refused.exists_reaches_iff]
    by_cases reaches : ∃ route, v.service.Reaches v.request route
    · obtain ⟨route, reaches⟩ := reaches
      rw [reaches.full fun schema ↦ refused.not_reaches_schema (schema ▸ reaches)]
      exact answers.isErrorForm_iff
    · have outside := refused.exists_reaches_iff.not.1 reaches
      refine iff_of_false ?_ outside
      split
      · exact not_isErrorForm_text ""
      · exact answers.isErrorForm_iff.not.2 outside
  | redirected redirected location => exact absurd error (show ¬ 400 ≤ 307 by decide)
  | described _ ok => omega
  | performed asks answers =>
    exact iff_of_true (answers.isErrorForm error) ⟨_, Visit.reaches_of_asks asks⟩

/-- A request for a path that leads nowhere is answered with 404, and not in the form of an error.
-/
theorem error_form_iff_reaches_of_unknown_path :
    let service : Service := { realm := {}, allowedHosts := ["localhost"] }
    let v : Visit := ⟨service, ⟨{ path := ⟨"/", ["htpasswd"]⟩ }, {}⟩,
      ⟨⟨[]⟩, ⟨2024, 1, 1, 0, 0, 0, 0⟩, none⟩,
      { target := "/nope", headers := [("host", "localhost")] }⟩
    ∃ response, v.response? = some response ∧ response.status = 404 ∧
      response.content = .json (.object [("detail", .string "Not Found")]) ∧
      ¬ response.content.IsErrorForm := by
  intro service v
  have elsewhere : ∀ route : Route, route.answersTo v.request.path = false := by
    intro route
    cases route <;> decide
  have far : ∀ route : Route, route.answersTo (Service.otherPath v.request.path) = false := by
    intro route
    cases route <;> decide
  have refused : v.service.Refuses v.request .unknownPath :=
    .unknownPath (by decide) elsewhere (Or.inr far)
  -- the refusal has this one answer, so the response of the theorem is known
  obtain ⟨_, _, decided, ⟨⟩, -⟩ := Service.decide_of_refuses refused
  obtain ⟨-, -, -, answered⟩ := Visit.of_answer decided
  obtain ⟨response, answered', form⟩ := error_form_iff_reaches v
  obtain rfl := Option.some.inj (answered.symm.trans answered')
  refine ⟨_, answered, rfl, rfl, (form (show 400 ≤ 404 by decide)).not.2 ?_⟩
  rintro ⟨route, reaches⟩
  exact Bool.eq_false_iff.1 (elsewhere route) reaches.path

/-! ### Caches -/

/-- A response that is kept out of caches. -/
def Response.IsUncached (response : Response) : Prop :=
  response.headers.all "cache-control" = ["no-store"]

/-- **What a login or a check comes to stays out of caches**, and a check that fails comes with the
challenge. -/
theorem Operation.Answers.uncached {secure : Bool} {operation : Operation} {response : Response}
    (h : operation.Answers secure response)
    (authentication : operation.route = .login ∨ operation.route = .verify)
    (status : response.status = 200 ∨ response.status = 401) :
    response.IsUncached ∧ (operation.route = .verify → response.status = 401 →
      response.headers.all "www-authenticate" = ["Basic realm=\"htrealm\""]) := by
  -- every handler sets the header, and the failure of one has another status
  cases h with
  | login form answer =>
    cases answer with
    | none => exact ⟨rfl, nofun⟩
    | some record =>
      rcases Response.loggedIn_cases secure record with failed | ⟨-, uncached⟩
      · have internal : (loginResponse secure (some record)).status = 500 :=
          congrArg Response.status failed
        omega
      · exact ⟨uncached, nofun⟩
  | verify _ _ answer | resume _ answer =>
    cases answer with
    | none => exact ⟨rfl, fun _ _ ↦ rfl⟩
    | some record => exact ⟨rfl, fun _ other ↦ absurd other (show ¬ 200 = 401 by decide)⟩
  | changePassword => exact absurd authentication (by decide)
  | health => exact absurd authentication (by decide)
  | failed operation => exact absurd status (show ¬ (500 = 200 ∨ 500 = 401) by decide)

/-- **An answer to a login or a check stays out of caches**, in every state of a service and
whatever the request brings with it: with a status of 200 or 401 it says so, unless the request is a
check of credentials that cannot be read, and then nothing is said about caches. A check that is
answered with 401 comes with the challenge in either case. -/
theorem authentication_answers_uncached (v : Visit) {route : Route}
    (reaches : v.service.Reaches v.request route)
    (authentication : route = .login ∨ route = .verify) :
    ∃ response, v.response? = some response ∧
      (response.status = 200 ∨ response.status = 401 →
        (response.IsUncached ↔ ¬ v.service.Refuses v.request .unreadableCredentials) ∧
        (v.service.Refuses v.request .unreadableCredentials →
          response.status = 401 ∧ response.headers.all "cache-control" = [])) ∧
      (route = .verify → response.status = 401 →
        response.headers.all "www-authenticate" = ["Basic realm=\"htrealm\""]) := by
  obtain ⟨response, answered, responds⟩ := v.exists_responds
  refine ⟨response, answered, ?_⟩
  have other : route ≠ .schema := by
    rintro rfl
    exact absurd authentication (by decide)
  -- of the responses with these two statuses, the handlers give all but one
  cases responds with
  | @refused refusal response refused answers =>
    rw [reaches.full other]
    have atRoute := refused.exists_reaches_iff.1 ⟨route, reaches⟩
    cases answers with
    | unknownHost | unknownPath | wrongMethod => exact absurd atRoute Bool.false_ne_true
    | badForm =>
      exact ⟨fun status ↦ absurd status (show ¬ (422 = 200 ∨ 422 = 401) by decide),
        fun _ status ↦ absurd status (show ¬ 422 = 401 by decide)⟩
    | unparsableBody =>
      exact ⟨fun status ↦ absurd status (show ¬ (400 = 200 ∨ 400 = 401) by decide),
        fun _ status ↦ absurd status (show ¬ 400 = 401 by decide)⟩
    | tooMany =>
      exact ⟨fun status ↦ absurd status (show ¬ (429 = 200 ∨ 429 = 401) by decide),
        fun _ status ↦ absurd status (show ¬ 429 = 401 by decide)⟩
    | unreadableCredentials =>
      -- the credentials are refused before a handler is called, and nobody sets the header then
      have cached : ¬ Response.unreadableCredentials.IsUncached := by
        rw [Response.IsUncached]
        decide
      exact ⟨fun _ ↦ ⟨iff_of_false cached (not_not.2 refused), fun _ ↦ ⟨rfl, rfl⟩⟩, fun _ _ ↦ rfl⟩
  | redirected redirected => exact absurd reaches (redirected.not_reaches route)
  | described schema => exact absurd (reaches.unique schema) other
  | @performed operation response asks answers =>
    obtain rfl := (Visit.reaches_of_asks asks).unique reaches
    have read : ¬ v.service.Refuses v.request .unreadableCredentials := by
      intro refused
      have nothing := Visit.asks?_eq_none_iff.2 (Or.inl ⟨_, refused⟩)
      exact absurd (nothing.symm.trans asks) nofun
    exact ⟨fun status ↦ ⟨iff_of_true (answers.uncached authentication status).1 read,
        fun refused ↦ absurd refused read⟩,
      fun verify status ↦ (answers.uncached authentication (Or.inr status)).2 verify status⟩

/-- A check of credentials without a colon is refused with 401 and the challenge, and without a word
to caches. -/
theorem authentication_answers_uncached_but_unreadable :
    let service : Service := { realm := {}, allowedHosts := ["localhost"] }
    let v : Visit := ⟨service, ⟨{ path := ⟨"/", ["htpasswd"]⟩ }, {}⟩,
      ⟨⟨[]⟩, ⟨2024, 1, 1, 0, 0, 0, 0⟩, none⟩,
      { target := "/api/v1/auth/verify"
        headers := [("host", "localhost"), ("authorization", "Basic !!!")] }⟩
    v.service.Reaches v.request .verify ∧
      ∃ response, v.response? = some response ∧ response.status = 401 ∧
        response.headers.all "cache-control" = [] ∧
        response.headers.all "www-authenticate" = ["Basic realm=\"htrealm\""] := by
  intro service v
  have reaches : v.service.Reaches v.request .verify := by decide
  have presented : Authorization.present (v.request.headers.first? "authorization") =
      .unreadable := by decide
  -- a parameter that is no Base64 is unreadable
  obtain ⟨parameter, basic, unread⟩ := Authorization.present_eq_unreadable_iff.1 presented
  have refused : v.service.Refuses v.request .unreadableCredentials :=
    .unreadableCredentials reaches basic unread
  obtain ⟨response, answered, caches, challenge⟩ :=
    authentication_answers_uncached v reaches (Or.inr rfl)
  obtain ⟨_, _, decided, ⟨⟩, -⟩ := Service.decide_of_refuses refused
  obtain ⟨-, -, -, answered'⟩ := Visit.of_answer decided
  rw [reaches.full nofun] at answered'
  obtain rfl := Option.some.inj (answered'.symm.trans answered)
  obtain ⟨status, silent⟩ := (caches (Or.inr rfl)).2 refused
  exact ⟨reaches, _, answered, status, silent, challenge rfl status⟩

end AuthRealm.Http
