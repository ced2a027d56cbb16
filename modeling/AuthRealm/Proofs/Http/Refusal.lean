import AuthRealm.Proofs.Http.LoginForm
import AuthRealm.Proofs.Http.Run

/-!
# Refusals

What the service refuses before it has asked its realm for anything, and on which grounds. The
grounds are said of the request and of what it carries (`Service.Refuses`), not of the code that
finds them out, and they are all there are: **a visit asks for nothing exactly if it is refused on
one of them or sent to another place**, or asks for the document that describes the routes
(`Visit.asks?_eq_none_iff`).

**A refusal has no effect** (`refusal_without_effect`): over whatever realm, in whatever scene and
from whatever state, the answer is the same and the state stays; and unless the rate was exceeded,
nothing has been counted. It rests on the order in which a request is looked at. The host, the path,
the method, the form and the credentials come before the counters, the counters before the realm. So
what is refused for anything but its rate may as well not have been sent (`Service.run_filter`).
-/

namespace AuthRealm.Http

open Text

variable {service : Service} {r : Request}

/-! ### Grounds -/

/-- What a request is refused for. -/
inductive Refusal where
  | unknownHost
  | unknownPath
  | wrongMethod
  | badForm
  | unparsableBody
  | unreadableCredentials
  | tooMany
  deriving DecidableEq, Repr

namespace Refusal

/-- The status of a refusal. -/
def status : Refusal → Nat
  | unknownHost => 400
  | unknownPath => 404
  | wrongMethod => 405
  | badForm => 422
  | unparsableBody => 400
  | unreadableCredentials => 401
  | tooMany => 429

/-- Whether a refusal is for what was sent to a route, and not for the way there. -/
def atRoute : Refusal → Bool
  | unknownHost | unknownPath | wrongMethod => false
  | badForm | unparsableBody | unreadableCredentials | tooMany => true

/-- The responses to refused requests. -/
inductive Answers : Refusal → Response → Prop
  | unknownHost : Answers unknownHost .unknownHost
  | unknownPath : Answers unknownPath .notFound
  | wrongMethod (route : Route) : Answers wrongMethod (.wrongMethod route)
  | badForm (complaints : List LoginForm.Complaint) :
      Answers badForm (.badForm (.complaints complaints))
  | unparsableBody : Answers unparsableBody (.badForm .unparsable)
  | unreadableCredentials : Answers unreadableCredentials .unreadableCredentials
  | tooMany (limit : RateLimit) : Answers tooMany (.tooMany limit)

theorem Answers.status_eq {refusal : Refusal} {response : Response}
    (h : refusal.Answers response) : response.status = refusal.status := by
  cases h <;> rfl

end Refusal

namespace Service

/-- The grounds on which a request is refused. -/
inductive Refuses (service : Service) (r : Request) : Refusal → Prop
  | unknownHost (refused : Host.admission service.allowedHosts r.host = .refused) :
      Refuses service r .unknownHost
  | unknownPath (admitted : Host.admission service.allowedHosts r.host = .admitted)
      (elsewhere : ∀ route : Route, route.answersTo r.path = false)
      (far : r.path = "/" ∨ ∀ route : Route, route.answersTo (otherPath r.path) = false) :
      Refuses service r .unknownPath
  | wrongMethod (admitted : Host.admission service.allowedHosts r.host = .admitted) {route : Route}
      (path : route.answersTo r.path = true) (other : r.method ∉ route.methods) :
      Refuses service r .wrongMethod
  | badForm (reaches : service.Reaches r .login)
      (unfit : ¬ ∃ u p, LoginForm.Carries service.room r u p ∧ LoginForm.Fits u p)
      (parsed : ¬ LoginForm.IsUnparsable service.room r) : Refuses service r .badForm
  | unparsableBody (reaches : service.Reaches r .login)
      (unread : LoginForm.IsUnparsable service.room r) : Refuses service r .unparsableBody
  | unreadableCredentials (reaches : service.Reaches r .verify) {parameter : List Char}
      (basic : (r.headers.first? "authorization").bind Authorization.basicParameter? =
        some parameter)
      (unread : ¬ ∃ text, Authorization.Spells parameter text ∧ ':' ∈ text) :
      Refuses service r .unreadableCredentials
  | tooMany {c : Charge} (charged : service.charge? r = some c) {limit : RateLimit}
      (exceeded : (service.hit c).2 = some limit) :
      Refuses service r .tooMany

/-- The grounds on which a request is sent to another place: its host lacks a `www.`, or its path
has a slash too many or too few. -/
inductive Redirects (service : Service) (r : Request) : Prop
  | toHost (redirected : Host.admission service.allowedHosts r.host = .redirected)
  | toPath (admitted : Host.admission service.allowedHosts r.host = .admitted)
      (elsewhere : ∀ route : Route, route.answersTo r.path = false) (inside : r.path ≠ "/")
      (near : ∃ route : Route, route.answersTo (otherPath r.path) = true)

/-- **What is refused is answered at once**, and counted only if it is refused for its rate. -/
theorem decide_of_refuses {refusal : Refusal} (h : service.Refuses r refusal) :
    ∃ counters response, service.decide r = (counters, .answer response) ∧
      refusal.Answers response ∧ (refusal ≠ .tooMany → counters = service.counters) := by
  cases h with
  | unknownHost refused => exact ⟨_, _, decide_of_unknownHost refused, .unknownHost, fun _ ↦ rfl⟩
  | unknownPath admitted elsewhere far =>
    refine ⟨_, _, decide_of_elsewhere admitted elsewhere, ?_, fun _ ↦ rfl⟩
    rw [unknownPath_of_far far]
    exact .unknownPath
  | wrongMethod admitted path other =>
    exact ⟨_, _, decide_of_wrongMethod admitted path other, .wrongMethod _, fun _ ↦ rfl⟩
  | badForm reaches unfit parsed =>
    -- the checks of the form fail, and not for a text that cannot be parsed
    cases read : LoginForm.ofRequest service.room r with
    | ok form => exact absurd ⟨_, _, LoginForm.ofRequest_eq_ok_iff.1 read⟩ unfit
    | error refusal =>
      cases refusal with
      | complaints complaints =>
        exact ⟨_, _, decide_of_badForm reaches read, .badForm complaints, fun _ ↦ rfl⟩
      | unparsable => exact absurd (LoginForm.ofRequest_eq_unparsable_iff.1 read) parsed
  | unparsableBody reaches unread =>
    have read := LoginForm.ofRequest_eq_unparsable_iff.2 unread
    exact ⟨_, _, decide_of_badForm reaches read, .unparsableBody, fun _ ↦ rfl⟩
  | unreadableCredentials reaches basic unread =>
    have presented := Authorization.present_eq_unreadable_iff.2 ⟨_, basic, unread⟩
    exact ⟨_, _, decide_of_unreadable reaches presented, .unreadableCredentials, fun _ ↦ rfl⟩
  | tooMany charged exceeded =>
    exact ⟨_, _, decide_of_exceeded charged exceeded, .tooMany _, fun h ↦ absurd rfl h⟩

theorem decide_of_redirects (h : service.Redirects r) :
    ∃ location, service.decide r = (service.counters, .answer (.redirect location)) := by
  cases h with
  | toHost redirected => exact ⟨_, decide_of_otherHost redirected⟩
  | toPath admitted elsewhere inside near =>
    exact ⟨_, by rw [decide_of_elsewhere admitted elsewhere, unknownPath_of_near inside near]⟩

/-- What is refused at a route has reached one, and what is refused before has not. -/
theorem Refuses.exists_reaches_iff {refusal : Refusal} (h : service.Refuses r refusal) :
    (∃ route, service.Reaches r route) ↔ refusal.atRoute = true := by
  -- the first three refusals come before a route is reached, the others behind it
  cases h with
  | unknownHost refused =>
    refine iff_of_false ?_ Bool.false_ne_true
    rintro ⟨route, reaches⟩
    exact absurd (refused.symm.trans reaches.host) nofun
  | unknownPath admitted elsewhere =>
    refine iff_of_false ?_ Bool.false_ne_true
    rintro ⟨route, reaches⟩
    exact Bool.eq_false_iff.1 (elsewhere route) reaches.path
  | wrongMethod admitted path other =>
    refine iff_of_false ?_ Bool.false_ne_true
    rintro ⟨route, reaches⟩
    obtain rfl := Route.eq_of_answersTo path reaches.path
    exact other reaches.method
  | badForm reaches => exact iff_of_true ⟨_, reaches⟩ rfl
  | unparsableBody reaches => exact iff_of_true ⟨_, reaches⟩ rfl
  | unreadableCredentials reaches => exact iff_of_true ⟨_, reaches⟩ rfl
  | tooMany charged => exact iff_of_true ⟨_, reaches_of_charge charged⟩ rfl

/-- What is sent to another place has reached no route. -/
theorem Redirects.not_reaches (h : service.Redirects r) (route : Route) :
    ¬ service.Reaches r route := by
  intro reaches
  cases h with
  | toHost redirected => exact absurd (redirected.symm.trans reaches.host) nofun
  | toPath _ elsewhere => exact Bool.eq_false_iff.1 (elsewhere route) reaches.path

/-- A request that reaches no route is refused, or it is sent to another place. -/
theorem refuses_or_redirects_of_not_reaches (h : ∀ route, ¬ service.Reaches r route) :
    (∃ refusal, service.Refuses r refusal) ∨ service.Redirects r := by
  rcases cases_of_not_reaches h with
    refused | redirected | ⟨admitted, elsewhere | ⟨route, path, other⟩⟩
  · exact Or.inl ⟨_, .unknownHost refused⟩
  · exact Or.inr (.toHost redirected)
  · by_cases inside : r.path = "/"
    · exact Or.inl ⟨_, .unknownPath admitted elsewhere (Or.inl inside)⟩
    · by_cases near : ∃ route : Route, route.answersTo (otherPath r.path) = true
      · exact Or.inr (.toPath admitted elsewhere inside near)
      · have far (route : Route) := Bool.eq_false_iff.2 (not_exists.1 near route)
        exact Or.inl ⟨_, .unknownPath admitted elsewhere (Or.inr far)⟩
  · exact Or.inl ⟨_, .wrongMethod admitted path other⟩

/-- A request that is counted is refused for its rate, or it is for its operation. -/
theorem refuses_or_performs_of_charge {c : Charge} (charged : service.charge? r = some c) :
    service.Refuses r .tooMany ∨ (service.decide r).2 = .perform c.operation := by
  cases within : (service.hit c).2 with
  | some limit => exact Or.inl (.tooMany charged within)
  | none => exact Or.inr (by rw [decide_of_counted charged within])

/-- A request to a route is refused, or it is for an operation, but for one that asks for the
document of the routes. -/
theorem refuses_or_performs_of_reaches {route : Route} (h : service.Reaches r route)
    (other : route ≠ .schema) :
    (∃ refusal, service.Refuses r refusal) ∨
      ∃ operation, (service.decide r).2 = .perform operation := by
  have of_charge {c : Charge} (charged : service.charge? r = some c) :
      (∃ refusal, service.Refuses r refusal) ∨
        ∃ operation, (service.decide r).2 = .perform operation := by
    rcases refuses_or_performs_of_charge charged with refused | performs
    · exact Or.inl ⟨_, refused⟩
    · exact Or.inr ⟨_, performs⟩
  -- what a route asks for is charged; what it cannot read is one of the refusals
  cases route with
  | login =>
    cases read : LoginForm.ofRequest service.room r with
    | ok form => exact of_charge (charge?_login h read)
    | error refusal =>
      cases refusal with
      | unparsable =>
        exact Or.inl ⟨_, .unparsableBody h (LoginForm.ofRequest_eq_unparsable_iff.1 read)⟩
      | complaints complaints =>
        refine Or.inl ⟨_, .badForm h ?_ fun unread ↦ ?_⟩
        · rintro ⟨u, p, carried⟩
          have accepted : LoginForm.ofRequest service.room r = .ok ⟨u, p⟩ :=
            LoginForm.ofRequest_eq_ok_iff.2 carried
          exact absurd (read.symm.trans accepted) nofun
        · exact absurd (read.symm.trans (LoginForm.ofRequest_eq_unparsable_iff.2 unread)) nofun
  | verify =>
    cases presented : Authorization.present (r.headers.first? "authorization") with
    | credentials u p => exact of_charge (charge?_verify h presented)
    | nothing => exact of_charge (charge?_resume h presented)
    | unreadable =>
      obtain ⟨parameter, basic, unread⟩ := Authorization.present_eq_unreadable_iff.1 presented
      exact Or.inl ⟨_, .unreadableCredentials h basic unread⟩
  | password => exact Or.inr ⟨.changePassword, by rw [decide_of_reaches h]; rfl⟩
  | health => exact Or.inr ⟨.health, by rw [decide_of_reaches h]; rfl⟩
  | schema => exact absurd rfl other

/-- The document that describes the routes is handed out at once. -/
theorem decide_of_schema (h : service.Reaches r .schema) :
    service.decide r =
      (service.counters, .answer { status := 200, content := .json service.document }) := by
  rw [decide_of_reaches h]
  rfl

/-- **What can become of a request**: it is refused, it is sent to another place, it is for the
document of the routes, or it is for an operation. -/
theorem cases_of_request (service : Service) (r : Request) :
    (∃ refusal, service.Refuses r refusal) ∨ service.Redirects r ∨ service.Reaches r .schema ∨
      ∃ operation, (service.decide r).2 = .perform operation := by
  by_cases reaches : ∃ route, service.Reaches r route
  · obtain ⟨route, reaches⟩ := reaches
    by_cases schema : route = .schema
    · exact Or.inr (Or.inr (Or.inl (schema ▸ reaches)))
    · rcases refuses_or_performs_of_reaches reaches schema with refused | performs
      · exact Or.inl refused
      · exact Or.inr (Or.inr (Or.inr performs))
  · rcases refuses_or_redirects_of_not_reaches (not_exists.1 reaches) with refused | redirected
    · exact Or.inl refused
    · exact Or.inr (Or.inl redirected)

end Service

/-! ### Effects -/

/-- **A visit asks for nothing exactly if it is refused or sent to another place**, or asks for the
document of the routes. -/
theorem Visit.asks?_eq_none_iff {v : Visit} :
    v.asks? = none ↔
      (∃ refusal, v.service.Refuses v.request refusal) ∨ v.service.Redirects v.request ∨
        v.service.Reaches v.request .schema := by
  constructor
  · intro nothing
    -- a request that is neither refused nor redirected asks, but for the page of the schema
    rcases v.service.cases_of_request v.request with
      refused | redirected | schema | ⟨operation, performs⟩
    · exact Or.inl refused
    · exact Or.inr (Or.inl redirected)
    · exact Or.inr (Or.inr schema)
    · rw [Visit.asks?, performs] at nothing
      cases nothing
  · rintro (⟨refusal, refused⟩ | redirected | schema)
    · obtain ⟨_, _, decided, -⟩ := Service.decide_of_refuses refused
      rw [Visit.asks?, decided]
    · obtain ⟨_, decided⟩ := Service.decide_of_redirects redirected
      rw [Visit.asks?, decided]
    · rw [Visit.asks?, Service.decide_of_schema schema]

/-- The same service over another realm. -/
def Service.over (service : Service) (realm : Realm) : Service :=
  { service with realm := realm }

/-- What is to be done about a request has nothing to do with the realm. -/
theorem Service.decide_over (service : Service) (realm : Realm) (r : Request) :
    (service.over realm).decide r = service.decide r := rfl

/-- **A refusal has no effect.** A request that is refused for its host, its path, its method, its
form, its credentials or its rate is answered with the status for it, and with the same response
whatever the realm, the scene and the state. It asks the realm for nothing and the state stays,
accounts and credentials alike; and unless it is refused for its rate, no counter has moved. -/
theorem refusal_without_effect {refusal : Refusal} (refused : service.Refuses r refusal) :
    ∃ counters response, response.status = refusal.status ∧
      (refusal ≠ .tooMany → counters = service.counters) ∧
      ∀ realm scene s, let v : Visit := ⟨service.over realm, s, scene, r⟩
        v.response? = some response ∧ v.asks? = none ∧ v.after = s ∧
          v.next = { service.over realm with counters := counters } := by
  obtain ⟨counters, response, decided, answers, uncounted⟩ := Service.decide_of_refuses refused
  refine ⟨counters, if r.method = "HEAD" then response.headersOnly else response, ?_, uncounted,
    fun realm scene s ↦ ?_⟩
  · rw [← answers.status_eq]
    split
    · rfl
    · rfl
  · intro v
    obtain ⟨next, after, asks, answered⟩ :=
      Visit.of_answer (v := v) ((Service.decide_over service realm r).trans decided)
    exact ⟨answered, asks, after, next⟩

/-- A login without a password is refused for that even where no login is left for its address, and
is not counted there. -/
theorem refusal_without_effect_of_missing_password :
    let r : Request :=
      { method := "POST", target := "/api/v1/auth/login"
        headers := [("host", "localhost"), ("content-type", "application/json")]
        body := "\x7b\"username\":\"a\"\x7d" }
    let limit : RateLimit := ⟨1, 1, .minute⟩
    let service : Service :=
      { realm := {}, allowedHosts := ["localhost"], loginLimits := [limit]
        counters := ⟨[(⟨"/api/v1/auth/login", "127.0.0.1", limit⟩, 1)]⟩ }
    service.Refuses r .badForm ∧
      ∃ response, response.status = 422 ∧
        ∀ realm scene s, let v : Visit := ⟨service.over realm, s, scene, r⟩
          v.response? = some response ∧ v.asks? = none ∧ v.after = s ∧
            v.next = service.over realm := by
  intro r limit service
  -- the counter is full, and still it is the form that is refused
  have refused : service.Refuses r .badForm := by
    have missing : LoginForm.ofRequest service.room r = .error (.complaints
        [⟨.missing, [.string "password"], .value (.object [("username", .string "a")])⟩]) := by
      simp only [r]
      rfl
    refine .badForm (by decide) ?_ fun unread ↦ ?_
    · rintro ⟨u, p, carried⟩
      have accepted : LoginForm.ofRequest service.room r = .ok ⟨u, p⟩ :=
        LoginForm.ofRequest_eq_ok_iff.2 carried
      exact absurd (missing.symm.trans accepted) nofun
    · exact absurd (missing.symm.trans (LoginForm.ofRequest_eq_unparsable_iff.2 unread)) nofun
  obtain ⟨counters, response, status, uncounted, effects⟩ := refusal_without_effect refused
  obtain rfl := uncounted nofun
  exact ⟨refused, response, status, effects⟩

/-! ### Refused requests among others -/

/-- The grounds have nothing to do with what has been counted, those of the rate apart. -/
theorem Service.Refuses.withCounters {refusal : Refusal} (h : service.Refuses r refusal)
    (unlimited : refusal ≠ .tooMany) (counters : Counters) :
    { service with counters := counters }.Refuses r refusal := by
  cases h with
  | unknownHost refused => exact .unknownHost refused
  | unknownPath admitted elsewhere far => exact .unknownPath admitted elsewhere far
  | wrongMethod admitted path other => exact .wrongMethod admitted path other
  | badForm reaches unfit parsed => exact .badForm (reaches_withCounters.2 reaches) unfit parsed
  | unparsableBody reaches unread => exact .unparsableBody (reaches_withCounters.2 reaches) unread
  | unreadableCredentials reaches basic unread =>
    exact .unreadableCredentials (reaches_withCounters.2 reaches) basic unread
  | tooMany => exact absurd rfl unlimited

/-- **What is refused for anything but its rate may as well not have been sent.** Of the requests of
a run, those that are kept leave the service and the state as all of them do. -/
theorem Service.run_filter (keep : Request → Bool) {history : List (Scene × Request)}
    (dropped : ∀ c ∈ history, keep c.2 = false →
      ∃ refusal, refusal ≠ .tooMany ∧ service.Refuses c.2 refusal) (s : RealmState) :
    service.run s (history.filter fun c ↦ keep c.2) = service.run s history := by
  induction history generalizing service s with
  | nil => rfl
  | cons c rest ih =>
    obtain ⟨scene, r⟩ := c
    let v : Visit := ⟨service, s, scene, r⟩
    obtain ⟨next, -⟩ := v.exists_response
    -- the grounds of the later requests stand whatever this one has counted
    have later : ∀ c ∈ rest, keep c.2 = false →
        ∃ refusal, refusal ≠ .tooMany ∧ v.next.Refuses c.2 refusal := by
      intro c hc out
      obtain ⟨refusal, unlimited, refused⟩ := dropped c (List.mem_cons_of_mem _ hc) out
      rw [next]
      exact ⟨refusal, unlimited, refused.withCounters unlimited _⟩
    cases kept : keep r with
    | true =>
      simp only [List.filter_cons, kept, if_true]
      exact ih later v.after
    | false =>
      obtain ⟨refusal, unlimited, refused⟩ := dropped _ List.mem_cons_self kept
      obtain ⟨counters, response, decided, -, uncounted⟩ := Service.decide_of_refuses refused
      obtain ⟨-, after, -⟩ := Visit.of_answer (v := v) decided
      have same : v.next = service := by rw [next, decided, uncounted unlimited]
      simp only [List.filter_cons, kept, Bool.false_eq_true, if_false]
      show _ = v.next.run v.after rest
      rw [← ih later v.after, same, after]

end AuthRealm.Http
