import AuthRealm.Proofs.Http.Answer
import AuthRealm.Proofs.Realm.Run
import Mathlib.Data.List.Induction

/-!
# Requests one after another

A service that answers requests in a row hands itself and the state of its realm from one to the
next; between two requests the file tree, the time and the condition of the database may become
anything. A `Visit` is a request of such a run with the service and the state that it finds. What is
claimed of a run is read off its visits.

**Every request is answered** (`Visit.exists_response`), and all that a request changes of its
service is the counters. To its realm it does what one call does, or nothing (`Visit.after_eq`), so
a run of the service is a run of the realm. Whatever the visits keep holds throughout
(`visits_induction`).
-/

namespace AuthRealm.Http

/-- The call of the realm that an operation makes. -/
def Operation.call? : Operation → Option Call
  | .login form => some (.authenticate form.username form.password)
  | .verify u p => some (.authenticate u p)
  | .resume cookie => some (.authenticateCookie cookie)
  | .changePassword => none
  | .health => none

/-- The state after a call, if there is one. -/
def afterCall (realm : Realm) (scene : Scene) (s : RealmState) : Option Call → RealmState
  | some call => realm.after scene s call
  | none => s

/-- **An operation makes one call of the realm**, or it leaves the state as it is. -/
theorem Operation.state_run (realm : Realm) (secure : Bool) (scene : Scene) (s : RealmState)
    (operation : Operation) :
    (operation.run realm secure scene s).state = afterCall realm scene s operation.call? := by
  cases operation with
  | login form => exact (run_login realm secure form).2
  | verify u p => exact (run_verify realm secure u p).2
  | resume cookie => exact (run_resume realm secure cookie).2
  | changePassword => rfl
  | health =>
    show (healthReport scene s.credentials.path s).state = s
    rw [healthReport]
    cases scene.tree.isFile s.credentials.path with
    | error fault => rfl
    | ok present => rfl

/-- A request in a scene, with the service and the state that it finds. -/
structure Visit where
  service : Service
  before : RealmState
  scene : Scene
  request : Request

namespace Visit

/-- The address that a visit comes from. -/
def address (v : Visit) : String :=
  Authorization.addressOf v.request.client

/-- What comes of a visit. -/
def outcome (v : Visit) : Outcome (Service × Response) :=
  v.service.respond v.scene v.request v.before

/-- The response to a visit. -/
def response? (v : Visit) : Option Response :=
  v.outcome.result.toOption.map Prod.snd

/-- The service as a visit leaves it. -/
def next (v : Visit) : Service :=
  match v.outcome.result with
  | .ok (service, _) => service
  | .error _ => v.service

/-- The state that a visit leaves. -/
def after (v : Visit) : RealmState :=
  v.outcome.state

/-- What a visit asks the realm for, unless it is answered at once. Each login and each check makes
one call of the realm (`Operation.call?`). -/
def asks? (v : Visit) : Option Operation :=
  match (v.service.decide v.request).2 with
  | .answer _ => none
  | .perform operation => some operation

/-- What a visit is counted for. -/
def charge? (v : Visit) : Option Charge :=
  v.service.charge? v.request

variable {v : Visit}

theorem of_result {service : Service} {response : Response}
    (h : v.outcome.result = .ok (service, response)) :
    v.next = service ∧ v.response? = some response := by
  rw [next, response?, h]
  exact ⟨rfl, rfl⟩

/-- A visit that is answered at once asks the realm for nothing. -/
theorem of_answer {counters : Counters} {response : Response}
    (decided : v.service.decide v.request = (counters, .answer response)) :
    v.next = { v.service with counters := counters } ∧ v.after = v.before ∧ v.asks? = none ∧
      v.response? = some
        (if v.request.method = "HEAD" then response.headersOnly else response) := by
  obtain ⟨result, state⟩ := Service.respond_of_answer v.scene v.before decided
  obtain ⟨next, response⟩ := of_result result
  refine ⟨next, state, ?_, response⟩
  rw [asks?, decided]

/-- A visit for an operation asks the realm for it, and is answered with what the operation comes
to. -/
theorem of_perform {counters : Counters} {operation : Operation}
    (decided : v.service.decide v.request = (counters, .perform operation)) :
    v.next = { v.service with counters := counters } ∧ v.asks? = some operation ∧
      ∃ response, v.response? = some response ∧
        operation.Answers v.service.secureCookies response := by
  obtain ⟨result, -⟩ := Service.respond_of_perform v.scene v.before decided
  obtain ⟨next, response⟩ := of_result result
  exact ⟨next, by rw [asks?, decided], _, response, Operation.answers_run ..⟩

/-- What a visit asks for belongs to the route that it reaches. -/
theorem reaches_of_asks {operation : Operation} (asks : v.asks? = some operation) :
    v.service.Reaches v.request operation.route := by
  rcases decided : v.service.decide v.request with ⟨counters, response | operation'⟩
  · rw [Visit.asks?, decided] at asks
    exact absurd asks nofun
  · rw [Visit.asks?, decided] at asks
    obtain rfl := Option.some.inj asks
    exact Service.reaches_of_perform decided

/-- **A visit makes the one call of the realm that it asks for**, or leaves the state as it is. -/
theorem after_eq (v : Visit) :
    v.after = afterCall v.service.realm v.scene v.before (v.asks?.bind Operation.call?) := by
  rcases decided : v.service.decide v.request with ⟨counters, response | operation⟩
  · obtain ⟨-, after, asks, -⟩ := of_answer decided
    rw [after, asks]
    rfl
  · obtain ⟨-, asks, -⟩ := of_perform decided
    rw [asks, Option.bind_some, ← Operation.state_run _ v.service.secureCookies]
    exact (Service.respond_of_perform v.scene v.before decided).2

/-- **Every request is answered**, and changes no more of its service than the counters. -/
theorem exists_response (v : Visit) :
    v.next = { v.service with counters := (v.service.decide v.request).1 } ∧
      ∃ response, v.response? = some response := by
  rcases decided : v.service.decide v.request with ⟨counters, response | operation⟩
  · obtain ⟨next, -, -, answered⟩ := of_answer decided
    exact ⟨next, _, answered⟩
  · obtain ⟨next, -, response, answered, -⟩ := of_perform decided
    exact ⟨next, response, answered⟩

end Visit

namespace Service

/-- The visits of requests, each in its scene. -/
def visits : Service → RealmState → List (Scene × Request) → List Visit
  | _, _, [] => []
  | service, s, (scene, r) :: rest =>
    let v : Visit := ⟨service, s, scene, r⟩
    v :: v.next.visits v.after rest

/-- The service and the state after requests. -/
def run : Service → RealmState → List (Scene × Request) → Service × RealmState
  | service, s, [] => (service, s)
  | service, s, (scene, r) :: rest =>
    let v : Visit := ⟨service, s, scene, r⟩
    v.next.run v.after rest

variable {service : Service} {s : RealmState}

/-- Requests after others are answered by what the others leave. -/
theorem visits_append (service : Service) (s : RealmState)
    (history later : List (Scene × Request)) :
    service.visits s (history ++ later) = service.visits s history ++
      (service.run s history).1.visits (service.run s history).2 later := by
  induction history generalizing service s with
  | nil => rfl
  | cons c rest ih =>
    obtain ⟨scene, r⟩ := c
    rw [List.cons_append, visits, ih, visits, run, List.cons_append]

theorem run_append (service : Service) (s : RealmState) (history later : List (Scene × Request)) :
    service.run s (history ++ later) =
      (service.run s history).1.run (service.run s history).2 later := by
  induction history generalizing service s with
  | nil => rfl
  | cons c rest ih => exact ih _ _

/-- **Whatever one visit adds to is true of all visits of a run**, by induction on the requests from
the last to the first. -/
theorem visits_induction {P : List Visit → Service → Prop} (start : P [] service)
    (step : ∀ vs v, P vs v.service → P (vs ++ [v]) v.next) (history : List (Scene × Request)) :
    P (service.visits s history) (service.run s history).1 := by
  induction history using List.reverseRecOn with
  | nil => exact start
  | append_singleton history c ih =>
    obtain ⟨scene, r⟩ := c
    rw [visits_append, run_append]
    exact step _ ⟨_, _, scene, r⟩ ih

/-- **All that a run changes of its service is the counters.** -/
theorem exists_run_fst (service : Service) (s : RealmState) (history : List (Scene × Request)) :
    ∃ counters, (service.run s history).1 = { service with counters := counters } := by
  refine visits_induction (P := fun _ after ↦ ∃ counters,
    after = { service with counters := counters }) ⟨service.counters, rfl⟩ (fun vs v before ↦ ?_)
    history
  obtain ⟨counters, before⟩ := before
  rw [v.exists_response.1, before]
  exact ⟨_, rfl⟩

end Service

end AuthRealm.Http
