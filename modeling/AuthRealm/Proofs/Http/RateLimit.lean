import AuthRealm.Proofs.Http.LoginForm
import AuthRealm.Proofs.Http.Run

/-!
# What the limits hold back

The service counts what is done to it and refuses beyond an amount, so what its limits are worth
shows in whole runs only. With one limit for logins and one for checks, the counters of a run say
how many of its visits were counted at each place, a place being a path as it was written and a key
(`Tallied`). This is kept from one visit to the next (`Tallied.step`), and with it everything else
follows:

* **at each path, the realm is asked no more often than the amount allows**, for the logins of an
  address, the checks of a name from an address, and the checks of a cookie from an address;
* **a visit is answered with 429 exactly if its own place has been hit as often as its limit
  allows**, and then nothing is asked of the realm.

A visit that is refused for its rate is counted, one that is refused for anything else is not. But
the route of a path answers to that path with a line feed behind it as well, and the two are counted
apart: **a client that uses both is let through twice as often**, and never more than that.
-/

namespace AuthRealm.Http

variable {limit : Route → RateLimit} {service : Service} {s : RealmState} {v : Visit}
  {vs : List Visit}

/-- One limit refuses a hit if there have been as many as it allows. -/
theorem Counters.hit_single (c : Counters) (path key : String) (l : RateLimit) :
    c.hit path key [l] = (c.add ⟨path, key, l⟩,
      if l.amount ≤ c.count ⟨path, key, l⟩ then some l else none) := by
  have more : (c.add ⟨path, key, l⟩).count ⟨path, key, l⟩ = c.count ⟨path, key, l⟩ + 1 := by
    rw [count_add, if_pos rfl]
  simp only [hit, more, Nat.lt_succ_iff]
  split <;> rfl

/-! ### Questions and the places where they are counted -/

/-- What a service asks its realm under a limit: for a login, whether a name has a password, or
whose a cookie is. -/
inductive Question where
  | login
  | check (username : String)
  | resume
  deriving DecidableEq, Repr

namespace Question

/-- The route of the requests that lead to a question. -/
def route : Question → Route
  | .login => .login
  | .check _ => .verify
  | .resume => .verify

/-- The key under which a question from an address is counted. -/
def key (address : String) : Question → String
  | .login => address
  | .check u => address ++ ":" ++ u
  | .resume => address

end Question

/-- The question that an operation puts to the realm, if it puts one. -/
def Operation.question? : Operation → Option Question
  | .login _ => some .login
  | .verify u _ => some (.check u)
  | .resume _ => some .resume
  | .changePassword => none
  | .health => none

theorem Question.route_eq {operation : Operation} {question : Question}
    (puts : operation.question? = some question) : operation.route = question.route := by
  cases operation with
  | login | verify | resume =>
    obtain rfl := Option.some.inj puts
    rfl
  | changePassword | health => exact absurd puts nofun

/-- **A charge is for a question**, and its key is the one of the question. So no check is counted
under a name other than the one that the realm is asked for. -/
theorem Service.question_of_charge {r : Request} {c : Charge} (h : service.charge? r = some c) :
    ∃ question : Question, c.operation.question? = some question ∧ c.path = r.path ∧
      c.key = question.key (Authorization.addressOf r.client) ∧
        question.route.answersTo r.path := by
  rcases charge?_cases h with ⟨_, reaches, _, rfl⟩ | ⟨u, _, reaches, _, rfl⟩ | ⟨reaches, _, rfl⟩
  · exact ⟨.login, rfl, rfl, rfl, reaches.path⟩
  · exact ⟨.check u, rfl, rfl, rfl, reaches.path⟩
  · exact ⟨.resume, rfl, rfl, rfl, reaches.path⟩

namespace Visit

/-- Where a visit is counted, if it is: its path and its key there. -/
def place? (v : Visit) : Option (String × String) :=
  v.charge?.map fun c ↦ (c.path, c.key)

/-- Whether a visit puts a question to the realm, from an address. -/
def puts (question : Question) (address : String) (v : Visit) : Bool :=
  v.asks?.bind Operation.question? == some question && v.address == address

/-- Whether a visit is answered with 429. -/
def IsRefused (v : Visit) : Prop :=
  ∃ response, v.response? = some response ∧ response.status = 429

theorem isRefused_iff {response : Response} (h : v.response? = some response) :
    v.IsRefused ↔ response.status = 429 := by
  rw [IsRefused, h]
  simp

/-- A visit that is not counted is not refused for its rate, and puts no question. -/
theorem of_no_charge (h : v.charge? = none) :
    v.next = v.service ∧ ¬ v.IsRefused ∧ v.asks?.bind Operation.question? = none := by
  rcases Service.decide_of_no_charge h with
    ⟨response, decided, status⟩ | ⟨-, decided⟩ | ⟨-, decided⟩
  · -- what is answered without a charge is never a 429, and asks nothing
    obtain ⟨next, -, asks, answered⟩ := of_answer decided
    refine ⟨next, ?_, ?_⟩
    · rw [isRefused_iff answered]
      split
      · exact status
      · exact status
    · rw [asks, Option.bind_none]
  · obtain ⟨next, asks, response, answered, answers⟩ := of_perform decided
    exact ⟨next, (isRefused_iff answered).not.2 answers.status_ne, by rw [asks]; rfl⟩
  · obtain ⟨next, asks, response, answered, answers⟩ := of_perform decided
    exact ⟨next, (isRefused_iff answered).not.2 answers.status_ne, by rw [asks]; rfl⟩

end Visit

/-- One limit for logins and one for checks. -/
structure Service.IsLimited (service : Service) (limit : Route → RateLimit) : Prop where
  logins : service.loginLimits = [limit .login]
  checks : service.verifyLimits = [limit .verify]

/-- A charge stands against the limit of its route alone. -/
theorem Service.IsLimited.limits_eq (limited : service.IsLimited limit) {r : Request} {c : Charge}
    (h : service.charge? r = some c) :
    service.limits c.operation.route = [limit c.operation.route] := by
  obtain ⟨question, puts, -⟩ := question_of_charge h
  rw [Question.route_eq puts]
  cases question with
  | login => exact limited.logins
  | check _ => exact limited.checks
  | resume => exact limited.checks

namespace Visit

/-- A visit that is counted is let through while its place has hits left, and refused from then on.
-/
theorem of_charge (limited : v.service.IsLimited limit) {c : Charge} (h : v.charge? = some c) :
    let bucket : Bucket := ⟨c.path, c.key, limit c.operation.route⟩
    v.next = { v.service with counters := v.service.counters.add bucket } ∧
      (v.IsRefused ↔ (limit c.operation.route).amount ≤ v.service.counters.count bucket) ∧
      (v.IsRefused → v.asks? = none ∧ v.after = v.before) ∧
      (¬ v.IsRefused → v.asks? = some c.operation) := by
  intro bucket
  -- one limit stands for the route of the charge, so the hit is that of a single limit
  have hit : v.service.hit c = _ :=
    v.service.counters.hit_single c.path c.key (limit c.operation.route) ▸
      congrArg (v.service.counters.hit c.path c.key) (limited.limits_eq h)
  by_cases full : (limit c.operation.route).amount ≤ v.service.counters.count bucket
  · have exceeded := congrArg Prod.snd hit
    rw [if_pos full] at exceeded
    have decided := Service.decide_of_exceeded h exceeded
    obtain ⟨next, after, asks, answered⟩ := of_answer decided
    -- a charged request is no HEAD, so its response is not cut down to its head
    rw [if_neg (Service.ne_head_of_charge h)] at answered
    have refused : v.IsRefused := (isRefused_iff answered).2 rfl
    refine ⟨?_, iff_of_true refused full, fun _ ↦ ⟨asks, after⟩, fun h ↦ absurd refused h⟩
    rw [next, hit]
  · have counted := congrArg Prod.snd hit
    rw [if_neg full] at counted
    have decided := Service.decide_of_counted h counted
    obtain ⟨next, asks, response, answered, answers⟩ := of_perform decided
    have through : ¬ v.IsRefused := (isRefused_iff answered).not.2 answers.status_ne
    refine ⟨?_, iff_of_false through full, fun h ↦ absurd h through, fun _ ↦ asks⟩
    rw [next, hit]

/-- **A question is counted under its own key**, at the path of the visit that puts it. -/
theorem of_puts {question : Question} {address : String} (h : v.puts question address = true) :
    v.place? = some (v.request.path, question.key address) ∧ v.asks?.isSome = true ∧
      question.route.answersTo v.request.path = true := by
  obtain ⟨asked, sent⟩ := Bool.and_eq_true_iff.1 h
  obtain ⟨operation, asks, puts⟩ := Option.bind_eq_some_iff.1 (beq_iff_eq.1 asked)
  obtain rfl : v.address = address := beq_iff_eq.1 sent
  cases charge : v.charge? with
  | none =>
    have silent := (of_no_charge charge).2.2
    rw [asks, Option.bind_some] at silent
    exact absurd (puts.symm.trans silent) nofun
  | some c =>
    obtain ⟨question', puts', path, key, answers⟩ := Service.question_of_charge charge
    cases within : (v.service.hit c).2 with
    | some l =>
      obtain ⟨-, -, nothing, -⟩ := of_answer (Service.decide_of_exceeded charge within)
      exact absurd (nothing.symm.trans asks) nofun
    | none =>
      -- what is asked is the operation of the charge, so the two questions are one
      obtain ⟨-, performed, -⟩ := of_perform (Service.decide_of_counted charge within)
      obtain rfl : c.operation = operation := Option.some.inj (performed.symm.trans asks)
      obtain rfl : question = question' := Option.some.inj (puts.symm.trans puts')
      refine ⟨?_, by rw [asks, Option.isSome_some], answers⟩
      rw [place?, charge, Option.map_some, path, key]
      rfl

end Visit

/-! ### Counting over a run -/

/-- How many visits were counted at a place. -/
def hits (vs : List Visit) (place : String × String) : Nat :=
  vs.countP fun v ↦ v.place? == some place

/-- How many visits were counted at a place and let through. -/
def grants (vs : List Visit) (place : String × String) : Nat :=
  vs.countP fun v ↦ v.place? == some place && v.asks?.isSome

theorem hits_concat (vs : List Visit) (v : Visit) (place : String × String) :
    hits (vs ++ [v]) place = hits vs place + if v.place? = some place then 1 else 0 := by
  simp only [hits, List.countP_append, List.countP_singleton, beq_iff_eq]

theorem grants_concat (vs : List Visit) (v : Visit) (place : String × String) :
    grants (vs ++ [v]) place =
      grants vs place + if v.place? = some place ∧ v.asks?.isSome then 1 else 0 := by
  simp only [grants, List.countP_append, List.countP_singleton, Bool.and_eq_true, beq_iff_eq]

theorem grants_le_hits (vs : List Visit) (place : String × String) :
    grants vs place ≤ hits vs place :=
  List.countP_mono_left fun _ _ h ↦ (Bool.and_eq_true_iff.1 h).1

/-- **The counters say how often each place was hit**, and no place has let through more than its
limit allows. -/
structure Tallied (limit : Route → RateLimit) (vs : List Visit) (service : Service) : Prop where
  limited : service.IsLimited limit
  counted : ∀ (route : Route) path key, route.answersTo path = true →
    service.counters.count ⟨path, key, limit route⟩ = hits vs (path, key)
  granted : ∀ (route : Route) path key, route.answersTo path = true →
    grants vs (path, key) ≤ (limit route).amount

/-- A service that has not been asked yet. -/
theorem Tallied.start (limited : service.IsLimited limit) (fresh : service.counters = {}) :
    Tallied limit [] service where
  limited := limited
  counted route path key _ := by
    rw [fresh]
    rfl
  granted route path key _ := Nat.zero_le _

/-- **One more visit keeps the tally.** -/
theorem Tallied.step (h : Tallied limit vs v.service) : Tallied limit (vs ++ [v]) v.next := by
  cases charge : v.charge? with
  | none =>
    -- a visit that is not counted changes nothing
    have nowhere : v.place? = none := by rw [Visit.place?, charge, Option.map_none]
    rw [(Visit.of_no_charge charge).1]
    refine ⟨h.limited, fun route path key answers ↦ ?_, fun route path key answers ↦ ?_⟩
    · simpa [hits_concat, nowhere] using h.counted route path key answers
    · simpa [grants_concat, nowhere] using h.granted route path key answers
  | some c =>
    obtain ⟨next, refused_iff, refused, through⟩ := Visit.of_charge h.limited charge
    have place : v.place? = some (c.path, c.key) := by rw [Visit.place?, charge, Option.map_some]
    obtain ⟨question, puts, path_eq, -, own⟩ := Service.question_of_charge charge
    rw [← Question.route_eq puts, ← path_eq] at own
    rw [next]
    refine ⟨⟨h.limited.logins, h.limited.checks⟩, fun route path key answers ↦ ?_,
      fun route path key answers ↦ ?_⟩
    · show (v.service.counters.add _).count _ = _
      rw [Counters.count_add, hits_concat, place]
      by_cases here : path = c.path ∧ key = c.key
      · -- the path has one route, so the bucket of the charge is the one that is looked at
        obtain ⟨rfl, rfl⟩ := here
        obtain rfl := Route.eq_of_answersTo answers own
        rw [if_pos rfl, if_pos rfl, h.counted _ _ _ own]
      · have other : (⟨path, key, limit route⟩ : Bucket) ≠
            ⟨c.path, c.key, limit c.operation.route⟩ :=
          fun same ↦ here ⟨congrArg Bucket.path same, congrArg Bucket.key same⟩
        have elsewhere : some (c.path, c.key) ≠ some (path, key) := by
          intro same
          obtain ⟨rfl, rfl⟩ := Prod.mk.inj (Option.some.inj same)
          exact here ⟨rfl, rfl⟩
        rw [if_neg other, if_neg elsewhere, h.counted route path key answers, Nat.add_zero]
    · rw [grants_concat]
      have before := h.granted route path key answers
      split
      · -- a visit that is let through has found a hit left at its place
        rename_i granted
        obtain ⟨rfl, rfl⟩ := Prod.mk.inj (Option.some.inj (place.symm.trans granted.1))
        obtain rfl := Route.eq_of_answersTo answers own
        have letThrough : ¬ v.IsRefused := by
          intro isRefused
          rw [(refused isRefused).1] at granted
          exact absurd granted.2 nofun
        have left := refused_iff.not.1 letThrough
        have fewer := grants_le_hits vs (c.path, c.key)
        rw [h.counted _ _ _ own] at left
        omega
      · exact before

/-! ### What the limits are worth -/

/-- A service with one limit for logins and one for checks tallies every run from its start. -/
theorem tallied_visits (limited : service.IsLimited limit) (fresh : service.counters = {})
    (s : RealmState) (history : List (Scene × Request)) :
    Tallied limit (service.visits s history) (service.run s history).1 :=
  Service.visits_induction (.start limited fresh) (fun _ _ ↦ Tallied.step) history

/-- **A visit is refused exactly if its place has been hit as often as its limit allows.** -/
theorem Tallied.isRefused_iff (h : Tallied limit vs v.service) :
    v.IsRefused ↔ ∃ route path key, v.place? = some (path, key) ∧
      route.answersTo path = true ∧ (limit route).amount ≤ hits vs (path, key) := by
  cases charge : v.charge? with
  | none =>
    have nowhere : v.place? = none := by rw [Visit.place?, charge, Option.map_none]
    refine iff_of_false (Visit.of_no_charge charge).2.1 ?_
    rintro ⟨route, path, key, place, -⟩
    exact absurd (nowhere.symm.trans place) nofun
  | some c =>
    have place : v.place? = some (c.path, c.key) := by rw [Visit.place?, charge, Option.map_some]
    -- the path of the charge belongs to the route of its question, so its counter is among the
    -- tallied
    obtain ⟨question, puts, path_eq, -, own⟩ := Service.question_of_charge charge
    rw [← Question.route_eq puts, ← path_eq] at own
    obtain ⟨-, refused_iff, -⟩ := Visit.of_charge h.limited charge
    rw [refused_iff, h.counted _ _ _ own]
    constructor
    · intro full
      exact ⟨_, c.path, c.key, place, own, full⟩
    · rintro ⟨route, path, key, here, answers, full⟩
      obtain ⟨rfl, rfl⟩ := Prod.mk.inj (Option.some.inj (place.symm.trans here))
      -- no path answers to two routes
      obtain rfl := Route.eq_of_answersTo answers own
      exact full

/-- A visit that is refused asks the realm for nothing. -/
theorem Tallied.of_isRefused (h : Tallied limit vs v.service) (refused : v.IsRefused) :
    v.asks? = none ∧ v.after = v.before := by
  cases charge : v.charge? with
  | none => exact absurd refused (Visit.of_no_charge charge).2.1
  | some c => exact (Visit.of_charge h.limited charge).2.2.1 refused

/-- A visit that is counted nowhere changes no counter. -/
theorem Visit.next_of_nowhere (nowhere : v.place? = none) : v.next = v.service :=
  (of_no_charge (Option.map_eq_none_iff.1 nowhere)).1

/-- **At one path, a question is put no more often than its limit allows.** -/
theorem Tallied.countP_puts_le (h : Tallied limit vs service) (question : Question)
    (address path : String) :
    (vs.countP fun v ↦ v.puts question address && v.request.path == path) ≤
      (limit question.route).amount := by
  by_cases answers : question.route.answersTo path = true
  · refine Nat.le_trans (List.countP_mono_left fun v _ here ↦ ?_)
      (h.granted question.route path (question.key address) answers)
    obtain ⟨puts, at_path⟩ := Bool.and_eq_true_iff.1 here
    obtain ⟨place, asks, -⟩ := Visit.of_puts puts
    rw [place, asks, beq_iff_eq.1 at_path, beq_self_eq_true, Bool.true_and]
  · -- a path without that route leads to no such question
    have none_here : (vs.countP fun v ↦ v.puts question address && v.request.path == path) = 0 := by
      refine List.countP_eq_zero.2 fun v _ here ↦ answers ?_
      obtain ⟨puts, at_path⟩ := Bool.and_eq_true_iff.1 here
      rw [← beq_iff_eq.1 at_path]
      exact (Visit.of_puts puts).2.2
    omega

/-- What holds of each element at one of two places is counted at the two. -/
theorem countP_le_add {α : Type} (p q q' : α → Bool)
    (h : ∀ a, p a = true → q a = true ∨ q' a = true)
    (l : List α) :
    l.countP p ≤ (l.countP fun a ↦ p a && q a) + l.countP fun a ↦ p a && q' a := by
  induction l with
  | nil => exact Nat.le_refl _
  | cons a l ih =>
    rw [List.countP_cons, List.countP_cons, List.countP_cons]
    cases here : p a with
    | false => simpa using ih
    | true =>
      have one := h a here
      cases hq : q a <;> cases hq' : q' a <;> simp_all <;> omega

/-- **On the whole, a question is put no more than twice as often as its limit allows**: its route
has two spellings. -/
theorem Tallied.countP_puts_le_twice (h : Tallied limit vs service) (question : Question)
    (address : String) :
    (vs.countP fun v ↦ v.puts question address) ≤ 2 * (limit question.route).amount := by
  have plain := h.countP_puts_le question address question.route.path
  have fed := h.countP_puts_le question address (question.route.path ++ "\n")
  have either : ∀ v : Visit, v.puts question address = true →
      (v.request.path == question.route.path) = true ∨
        (v.request.path == question.route.path ++ "\n") = true := by
    intro v puts
    rw [beq_iff_eq, beq_iff_eq]
    exact Route.answersTo_iff.1 (Visit.of_puts puts).2.2
  have whole : (vs.countP fun v ↦ v.puts question address) ≤ _ := countP_le_add _ _ _ either vs
  omega

/-- The visit of one more request after others. -/
def Service.visit (service : Service) (s : RealmState) (history : List (Scene × Request))
    (scene : Scene) (r : Request) : Visit :=
  ⟨(service.run s history).1, (service.run s history).2, scene, r⟩

/-- What a request is charged to does not depend on the requests before it. -/
theorem Service.charge?_visit (service : Service) (s : RealmState)
    (history : List (Scene × Request)) (scene : Scene) (r : Request) :
    (service.visit s history scene r).charge? = service.charge? r := by
  obtain ⟨counters, after⟩ := service.exists_run_fst s history
  show Service.charge? (service.run s history).1 r = _
  rw [after, charge?_withCounters]

/-- **What the limits are worth**, for every run of a service that is new, over any realm and from
any state, whatever the requests and the scenes. With one limit set for logins and one for checks:

* at each path, the realm is asked for no more logins from an address than the first allows, and for
  no more checks of a name, or of cookies, from an address than the second;
* with all paths together, it is asked no more than twice as often as that;
* whatever request comes next, it is answered with 429 exactly if it is counted at a place that has
  been hit as often as the limit there allows, and then the realm is asked for nothing, and its
  state stays;
* the counters say how many of the visits were counted at each place, and no visit that is counted
  nowhere changes them.

A visit that asks the realm for something makes the one call that this takes, and no other does.
-/
theorem limits_hold_at_each_path (settings : Settings) (realm : Realm) {limit : Route → RateLimit}
    (logins : RateLimit.ofText settings.loginRateLimit = [limit .login])
    (checks : RateLimit.ofText settings.verifyRateLimit = [limit .verify]) (s : RealmState)
    (history : List (Scene × Request)) :
    let service := Service.ofSettings settings realm
    let vs := service.visits s history
    (∀ (question : Question) address path,
        (vs.countP fun v ↦ v.puts question address && v.request.path == path) ≤
          (limit question.route).amount) ∧
      (∀ (question : Question) address,
        (vs.countP fun v ↦ v.puts question address) ≤ 2 * (limit question.route).amount) ∧
      (∀ scene r, let v := service.visit s history scene r
        (v.IsRefused ↔ ∃ route path key, v.place? = some (path, key) ∧
          route.answersTo path = true ∧ (limit route).amount ≤ hits vs (path, key)) ∧
        (v.IsRefused → v.asks? = none ∧ v.after = v.before) ∧
        (v.place? = none → v.next = v.service)) ∧
      (∀ (route : Route) path key, route.answersTo path = true →
        (service.run s history).1.counters.count ⟨path, key, limit route⟩ = hits vs (path, key)) ∧
      ∀ v ∈ vs, v.after =
        afterCall v.service.realm v.scene v.before (v.asks?.bind Operation.call?) := by
  intro service vs
  have limited : service.IsLimited limit := ⟨logins, checks⟩
  -- everything below is read off the tally of the whole run
  have tallied := tallied_visits limited rfl s history
  refine ⟨tallied.countP_puts_le, tallied.countP_puts_le_twice, fun scene r ↦ ?_, tallied.counted,
    fun v _ ↦ v.after_eq⟩
  exact ⟨tallied.isRefused_iff, tallied.of_isRefused, Visit.next_of_nowhere⟩

/-- With one login a minute, a second login of one client is refused, and yet let through if its
path ends in a line feed. -/
theorem limits_hold_at_each_path_of_two :
    let settings : Settings :=
      { baseFolder := ⟨"/", []⟩, allowedHosts := ["localhost"], loginRateLimit := "1/minute",
        verifyRateLimit := "1 per minute" }
    let service := Service.ofSettings settings {}
    let s : RealmState := ⟨{ path := ⟨"/", ["htpasswd"]⟩ }, {}⟩
    let scene : Scene := ⟨⟨[]⟩, ⟨2024, 1, 1, 0, 0, 0, 0⟩, none⟩
    let login (target : String) : Request :=
      { method := "POST", target := target
        headers := [("host", "localhost"), ("content-type", "application/json")]
        body := LoginForm.written "a" "x" }
    let plain := login "/api/v1/auth/login"
    let fed := login "/api/v1/auth/login%0A"
    let first := service.visit s [] scene plain
    let again := service.visit s [(scene, plain)] scene plain
    let other := service.visit s [(scene, plain)] scene fed
    first.asks? = some (.login ⟨"a", "x"⟩) ∧ (again.IsRefused ∧ again.asks? = none) ∧
      ¬ other.IsRefused ∧ other.asks? = some (.login ⟨"a", "x"⟩) := by
  intro settings service s scene login plain fed first again other
  have logins : RateLimit.ofText settings.loginRateLimit = [⟨1, 1, .minute⟩] := by decide
  have checks : RateLimit.ofText settings.verifyRateLimit = [⟨1, 1, .minute⟩] := by decide
  have limited : service.IsLimited fun _ ↦ ⟨1, 1, .minute⟩ := ⟨logins, checks⟩
  -- the theorem at any history, so the three visits are three instances of it
  have hold (history : List (Scene × Request)) :=
    @limits_hold_at_each_path settings {} (fun _ ↦ ⟨1, 1, .minute⟩) logins checks s history
  have charged {r : Request} (reaches : service.Reaches r .login)
      (typed : LoginForm.isJsonType ((r.headers.first? "content-type").getD "") = true)
      (body : r.body = LoginForm.written "a" "x") {path : String} (spelt : r.path = path) :
      service.charge? r =
        some ⟨path, Authorization.addressOf r.client, .login ⟨"a", "x"⟩⟩ := by
    rw [← spelt]
    exact Service.charge?_login reaches
      (LoginForm.ofRequest_of_carries (LoginForm.carries_of_written typed body)
        ⟨by decide, by decide⟩)
  have plainCharge : service.charge? plain =
      some ⟨"/api/v1/auth/login", "127.0.0.1", .login ⟨"a", "x"⟩⟩ :=
    charged (by decide) (by decide) rfl (by decide)
  have fedPath : fed.path = "/api/v1/auth/login\n" := by decide +kernel
  have fedCharge : service.charge? fed =
      some ⟨"/api/v1/auth/login\n", "127.0.0.1", .login ⟨"a", "x"⟩⟩ :=
    charged ⟨by decide, Route.answersTo_iff.2 (Or.inr fedPath), by decide⟩ (by decide) rfl fedPath
  have againPlace : again.place? = some ("/api/v1/auth/login", "127.0.0.1") := by
    rw [Visit.place?, Service.charge?_visit, plainCharge, Option.map_some]
  have otherCharge : other.charge? = _ := (Service.charge?_visit ..).trans fedCharge
  have otherPlace : other.place? = some ("/api/v1/auth/login\n", "127.0.0.1") := by
    rw [Visit.place?, otherCharge, Option.map_some]
  -- one visit has been counted, at the path without the line feed
  have hits_once (place : String × String) : hits (service.visits s [(scene, plain)]) place =
      if ("/api/v1/auth/login", "127.0.0.1") = place then 1 else 0 := by
    have counted : (Visit.mk service s scene plain).place? =
        some ("/api/v1/auth/login", "127.0.0.1") := by
      rw [Visit.place?, Visit.charge?, plainCharge, Option.map_some]
    rw [hits, Service.visits, Service.visits, List.countP_singleton, counted]
    simp only [beq_iff_eq, Option.some.injEq]
  obtain ⟨-, -, atStart, -⟩ := hold []
  obtain ⟨-, -, later, -⟩ := hold [(scene, plain)]
  have full : 1 ≤ hits (service.visits s [(scene, plain)]) ("/api/v1/auth/login", "127.0.0.1") :=
    Nat.le_of_eq ((hits_once _).trans (if_pos rfl)).symm
  have refused : again.IsRefused :=
    (later scene plain).1.2 ⟨.login, _, _, againPlace, by decide, full⟩
  have firstThrough : ¬ first.IsRefused := by
    rw [(atStart scene plain).1]
    rintro ⟨route, path, key, -, -, full⟩
    exact Nat.not_succ_le_zero 0 full
  have otherThrough : ¬ other.IsRefused := by
    rw [(later scene fed).1, otherPlace]
    rintro ⟨route, path, key, here, -, full⟩
    obtain ⟨rfl, rfl⟩ := Prod.mk.inj (Option.some.inj here)
    rw [hits_once, if_neg (by decide)] at full
    exact Nat.not_succ_le_zero 0 full
  have firstAsks := (Visit.of_charge (v := first) limited plainCharge).2.2.2 firstThrough
  have stillLimited : other.service.IsLimited fun _ ↦ ⟨1, 1, .minute⟩ :=
    (tallied_visits limited rfl s [(scene, plain)]).limited
  have otherAsks := (Visit.of_charge stillLimited otherCharge).2.2.2 otherThrough
  exact ⟨firstAsks, ⟨refused, ((later scene plain).2.1 refused).1⟩, otherThrough, otherAsks⟩

end AuthRealm.Http
