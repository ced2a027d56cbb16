import AuthRealm.Proofs.Http.Run

/-!
# What a refused login discloses

Whoever is turned away should not learn why. Over a database that can be used, and with a file that
can be read or gone without, that is so: a login that lets nobody in is answered by the limits of
its client alone (`Service.respond_of_failsToLogIn`), whatever the name and the password, and leaves
the table as it is. A realm that overrides local accounts reads the file for every login, so there
**runs that differ in such logins only have the same responses and the same end**
(`run_eq_of_alike`).

Without a database it is not so. A name that the file lists is turned away before the database is
needed, any other only by the failure of the database, and the two are answered differently
(`respond_of_outage`): **an outage discloses which names the file lists**.
-/

namespace AuthRealm.Http

open Account Storage

variable {service : Service} {scene : Scene} {s : RealmState} {r : Request}

/-! ### Logins that let nobody in -/

namespace Service

/-- A login that is read, over a database and a file that can be used, and lets nobody in. -/
structure FailsToLogIn (service : Service) (scene : Scene) (s : RealmState) (r : Request) :
    Prop where
  usable : scene.databaseFault = none
  reads : (s.credentials.refresh scene.tree).isReport = true
  reaches : service.Reaches r .login
  refused : ∃ form, LoginForm.ofRequest service.room r = .ok form ∧ ∀ record,
    (service.realm.authenticate scene form.username form.password s).result ≠ .ok (some record)

/-- How a service turns a login away: it counts the client, and says that it is too many, or else
what is given. -/
def turnAway (service : Service) (path address : String) (otherwise : Response) :
    Service × Response :=
  let counted := service.counters.hit path address service.loginLimits
  ({ service with counters := counted.1 },
    match counted.2 with
    | some limit => .tooMany limit
    | none => otherwise)

/-- A login is turned away for its rate, or else by what its operation comes to. -/
theorem result_of_reaches {form : LoginForm} (reaches : service.Reaches r .login)
    (read : LoginForm.ofRequest service.room r = .ok form) (scene : Scene) (s : RealmState) :
    (service.respond scene r s).result =
      .ok (service.turnAway r.path (Authorization.addressOf r.client)
        (Operation.responseOf ((service.realm.authenticate scene form.username form.password
          s).result.map (Operation.loginResponse service.secureCookies)))) := by
  have charge := charge?_login reaches read
  -- the hit is counted first, whatever the realm is about to say
  cases within : (service.counters.hit r.path (Authorization.addressOf r.client)
      service.loginLimits).2 with
  | some limit =>
    simp only [turnAway, within]
    exact (respond_of_exceeded charge within scene s).1
  | none =>
    simp only [turnAway, within]
    rw [← (Operation.run_login service.realm service.secureCookies form).1]
    exact (respond_of_counted charge within scene s).1

/-- **A login that lets nobody in is answered by the limits of its client alone.** It leaves the
table as it is, and a realm that overrides local accounts has read the file for it unless it was too
many. -/
theorem respond_of_failsToLogIn (h : service.FailsToLogIn scene s r) :
    (service.respond scene r s).result =
        .ok (service.turnAway r.path (Authorization.addressOf r.client) (.badCredentials [])) ∧
      (service.respond scene r s).state.accounts = s.accounts ∧
      (service.realm.overrideLocal = true → (service.respond scene r s).state =
        match (service.counters.hit r.path (Authorization.addressOf r.client)
            service.loginLimits).2 with
        | some _ => s
        | none => s.refreshed scene.tree) := by
  obtain ⟨form, read, refused⟩ := h.refused
  obtain ⟨answer, accounts, overrides⟩ := Realm.authenticate_of_refused h.usable h.reads refused
  have charge := charge?_login h.reaches read
  refine ⟨?_, ?_⟩
  · rw [result_of_reaches h.reaches read, answer]
    rfl
  · cases within : (service.counters.hit r.path (Authorization.addressOf r.client)
        service.loginLimits).2 with
    | some limit =>
      rw [(respond_of_exceeded charge within scene s).2]
      exact ⟨rfl, fun _ ↦ rfl⟩
    | none =>
      rw [(respond_of_counted charge within scene s).2,
        (Operation.run_login service.realm service.secureCookies form).2]
      exact ⟨accounts, overrides⟩

end Service

/-! ### Runs that differ in refused logins -/

namespace Visit

/-- A visit that is a login and lets nobody in. -/
def FailsToLogIn (v : Visit) : Prop :=
  v.service.FailsToLogIn v.scene v.before v.request

/-- Two visits that differ at most in the name and the password of a login that lets nobody in: they
are for the same request, or both are such logins, to one path, from one client and at one time. -/
inductive Alike (v w : Visit) : Prop where
  | same (scene : v.scene = w.scene) (request : v.request = w.request)
  | failed (scene : v.scene = w.scene) (address : v.address = w.address)
    (path : v.request.path = w.request.path)
    (left : v.FailsToLogIn) (right : w.FailsToLogIn)

/-- **Alike visits of one service in one state have one response and one end.** -/
theorem Alike.outcome_eq {v w : Visit} (h : v.Alike w) (service : v.service = w.service)
    (before : v.before = w.before) (overrides : v.service.realm.overrideLocal = true) :
    v.next = w.next ∧ v.after = w.after ∧ v.response? = w.response? := by
  obtain ⟨S, s, scene, r⟩ := v
  obtain ⟨S', s', scene', r'⟩ := w
  obtain rfl : S = S' := service
  obtain rfl : s = s' := before
  cases h with
  | same sameScene sameRequest =>
    obtain rfl : scene = scene' := sameScene
    obtain rfl : r = r' := sameRequest
    exact ⟨rfl, rfl, rfl⟩
  | failed sameScene address path left right =>
    -- neither response nor state depends on the form; both are read off the counters and the file
    obtain rfl : scene = scene' := sameScene
    have client : Authorization.addressOf r.client = Authorization.addressOf r'.client := address
    have place : r.path = r'.path := path
    obtain ⟨result, -, state⟩ := Service.respond_of_failsToLogIn left
    obtain ⟨result', -, state'⟩ := Service.respond_of_failsToLogIn right
    obtain ⟨next, response⟩ := of_result result
    obtain ⟨next', response'⟩ := of_result result'
    refine ⟨?_, ?_, ?_⟩
    · rw [next, next']
      simp only [client, place]
    · show (S.respond scene r s).state = (S.respond scene r' s).state
      simp only [state overrides, state' overrides, client, place]
    · rw [response, response']
      simp only [client, place]

end Visit

namespace Service

theorem realm_next (v : Visit) : v.next.realm = v.service.realm := by
  rw [v.exists_response.1]

/-- **Runs that are alike visit by visit have the same responses and the same end**, over a realm
that overrides local accounts. By induction on the requests: alike visits lead from one service and
state to one service and state. -/
theorem run_eq_of_alike (overrides : service.realm.overrideLocal = true) (s : RealmState)
    {history history' : List (Scene × Request)}
    (alike : List.Forall₂ Visit.Alike (service.visits s history) (service.visits s history')) :
    service.run s history = service.run s history' ∧
      (service.visits s history).map Visit.response? =
        (service.visits s history').map Visit.response? := by
  -- visit by visit: both runs stand in the same service and state before the next one
  induction history generalizing service s history' with
  | nil =>
    cases history' with
    | nil => exact ⟨rfl, rfl⟩
    | cons c rest => exact nomatch alike
  | cons c rest ih =>
    cases history' with
    | nil => exact nomatch alike
    | cons c' rest' =>
      obtain ⟨first, later⟩ := List.forall₂_cons.1 alike
      obtain ⟨next, after, response⟩ := first.outcome_eq rfl rfl overrides
      rw [← next, ← after] at later
      obtain ⟨ends, responses⟩ := ih ((congrArg Realm.overrideLocal (realm_next _)).trans overrides)
        _ later
      refine ⟨?_, ?_⟩
      · rw [run, run, ← next, ← after]
        exact ends
      · rw [visits, visits, List.map_cons, List.map_cons, ← response, ← next, ← after, responses]

/-- **Failed logins are alike**, in every state over a database that can be used and a file that can
be read or gone without, whatever the names and the passwords are and whatever is wrong with them.
Two such logins from one client to one path

* have one response and leave one service, with its counters;
* leave the table as it is, and where local accounts are overridden one and the same state.

So there two histories that differ in such logins only end alike, and whatever comes later is
answered alike.
-/
theorem failed_logins_are_alike (service : Service) (s : RealmState) :
    (∀ scene r r', service.FailsToLogIn scene s r → service.FailsToLogIn scene s r' →
      Authorization.addressOf r.client = Authorization.addressOf r'.client → r.path = r'.path →
        (∃ service' response, (service.respond scene r s).result = .ok (service', response) ∧
          (service.respond scene r' s).result = .ok (service', response)) ∧
        (service.respond scene r s).state.accounts = s.accounts ∧
        (service.respond scene r' s).state.accounts = s.accounts ∧
        (service.realm.overrideLocal = true →
          (service.respond scene r s).state = (service.respond scene r' s).state)) ∧
      (service.realm.overrideLocal = true → ∀ history history',
        List.Forall₂ Visit.Alike (service.visits s history) (service.visits s history') →
          service.run s history = service.run s history' ∧
          ∀ later, (service.visits s (history ++ later)).map Visit.response? =
            (service.visits s (history' ++ later)).map Visit.response?) := by
  constructor
  · intro scene r r' fails fails' address path
    -- the response and the state are functions of the address and the path, not of the form
    obtain ⟨result, accounts, state⟩ := respond_of_failsToLogIn fails
    obtain ⟨result', accounts', state'⟩ := respond_of_failsToLogIn fails'
    refine ⟨⟨_, _, result, ?_⟩, accounts, accounts', fun overrides ↦ ?_⟩
    · rw [result', address, path]
      rfl
    · rw [state overrides, state' overrides, address, path]
  · intro overrides history history' alike
    obtain ⟨ends, responses⟩ := run_eq_of_alike overrides s alike
    refine ⟨ends, fun later ↦ ?_⟩
    -- what comes later starts from one service and one state in both runs
    rw [visits_append, visits_append, List.map_append, List.map_append, responses, ends]

/-- A wrong password of a listed name, and a name whose local account is inactive and has no
password. -/
theorem failed_logins_are_alike_for_two_names :
    let row : Row := ⟨{ username := "b", isActive := false }, 1, "user", ""⟩
    let s : RealmState := ⟨{ path := ⟨"/", ["htpasswd"]⟩ }, ⟨[row]⟩⟩
    let scene : Scene := ⟨Credential.lone [97, 58, 120] 1, ⟨2024, 1, 1, 0, 0, 0, 0⟩, none⟩
    let service : Service :=
      { realm := {}, allowedHosts := ["localhost"], loginLimits := [⟨2, 1, .minute⟩] }
    let login (body : String) : Request :=
      { method := "POST", target := "/api/v1/auth/login"
        headers := [("host", "localhost"), ("content-type", "application/json")], body := body }
    let wrong := login "\x7b\"username\":\"a\",\"password\":\"y\"\x7d"
    let inactive := login "\x7b\"username\":\"b\",\"password\":\"z\"\x7d"
    (∃ service' response, (service.respond scene wrong s).result = .ok (service', response) ∧
        (service.respond scene inactive s).result = .ok (service', response)) ∧
      ∀ later, (service.visits s ((scene, wrong) :: later)).map Visit.response? =
        (service.visits s ((scene, inactive) :: later)).map Visit.response? := by
  intro row s scene service login wrong inactive
  have spelt : Credential.spell? {} [97, 58, 120] = some ['a', ':', 'x'] := by decide
  have read : s.credentials.refresh scene.tree = _ :=
    Credential.Store.refresh_lone rfl nofun spelt
  have reads : (s.credentials.refresh scene.tree).isReport = true :=
    Credential.Store.isReport_refresh_lone rfl nofun spelt
  have store : (s.refreshed scene.tree).credentials = _ := congrArg Credential.Refresh.store read
  -- the name is listed, and its password is another
  have fails : service.FailsToLogIn scene s wrong := by
    have form : LoginForm.ofRequest service.room wrong = .ok ⟨"a", "y"⟩ := by
      simp only [wrong, login]
      rfl
    refine ⟨rfl, reads, by decide, _, form, fun record letIn ↦ ?_⟩
    have taken : Realm.takesLocal {} (s.refreshed scene.tree).credentials s.accounts "a" = false :=
      Realm.takesLocal_eq_false_iff.2 (Or.inr (by decide))
    have unmatched : Realm.scheme? (s.refreshed scene.tree).credentials "a" "y" = none := by
      rw [store]
      decide
    have answer := (@Realm.authenticate_of_external {} scene s "a" "y" rfl reads taken).1
    rw [unmatched] at answer
    exact absurd (answer.symm.trans letIn) nofun
  -- the name is not listed, so its account decides, and that is not active
  have fails' : service.FailsToLogIn scene s inactive := by
    have form : LoginForm.ofRequest service.room inactive = .ok ⟨"b", "z"⟩ := by
      simp only [inactive, login]
      rfl
    refine ⟨rfl, reads, by decide, _, form, fun record letIn ↦ ?_⟩
    have taken :
        Realm.takesLocal {} (s.refreshed scene.tree).credentials s.accounts "b" = true := by
      refine Realm.takesLocal_eq_true_iff.2 ⟨by decide, Or.inr ?_⟩
      rw [store]
      decide
    have found : Store.login? s.accounts "b" "z" = none := by decide
    have answer := (@Realm.authenticate_of_local {} scene s "b" "z" rfl (fun _ ↦ reads) taken).1
    rw [found] at answer
    exact absurd (answer.symm.trans letIn) nofun
  obtain ⟨one, two⟩ := failed_logins_are_alike service s
  have alike : List.Forall₂ Visit.Alike (service.visits s [(scene, wrong)])
      (service.visits s [(scene, inactive)]) :=
    .cons (.failed rfl rfl rfl fails fails') .nil
  exact ⟨(one scene wrong inactive fails fails' rfl rfl).1, (two rfl _ _ alike).2⟩

end Service

/-! ### Logins during an outage -/

namespace Service

/-- The response to a login during an outage, within the limits: a name that the realm turns away by
itself is answered as ever, any other by the failure. -/
def outageResponse (service : Service) (scene : Scene) (s : RealmState) (u : String) : Response :=
  if service.realm.turnsAwayAlone scene s u then .badCredentials [] else .internalError

/-- **During an outage, a login whose password does not match** is turned away for its rate, or else
by whether the file lists the name. -/
theorem respond_of_outage {fault : DatabaseFault} (broken : scene.databaseFault = some fault)
    (reaches : service.Reaches r .login) {form : LoginForm}
    (read : LoginForm.ofRequest service.room r = .ok form)
    (unmatched : Realm.scheme? (s.refreshed scene.tree).credentials form.username form.password =
      none) :
    (service.respond scene r s).result =
      .ok (service.turnAway r.path (Authorization.addressOf r.client)
        (service.outageResponse scene s form.username)) := by
  -- the realm fails unless it turns the name away before it asks the database
  have ends := @Realm.authenticate_of_outage service.realm scene s _ _ fault broken unmatched
  rw [result_of_reaches reaches read, outageResponse]
  cases alone : service.realm.turnsAwayAlone scene s form.username with
  | true =>
    rw [alone, if_pos rfl] at ends
    rw [ends]
    rfl
  | false =>
    rw [alone, if_neg Bool.false_ne_true] at ends
    obtain ⟨e, failed⟩ := ends
    rw [failed]
    rfl

/-- The two ways of being turned away during an outage are told apart by the realm alone. -/
theorem outageResponse_eq_iff {u u' : String} :
    service.outageResponse scene s u = service.outageResponse scene s u' ↔
      service.realm.turnsAwayAlone scene s u = service.realm.turnsAwayAlone scene s u' := by
  have differ : Response.badCredentials [] ≠ Response.internalError := fun same ↦
    absurd (show 401 = 500 from congrArg Response.status same) (by decide)
  unfold outageResponse
  cases service.realm.turnsAwayAlone scene s u <;>
    cases service.realm.turnsAwayAlone scene s u' <;>
      simp [differ, differ.symm]

/-- **An outage discloses which names the file lists.** While the database fails, two logins from
one client to one path whose passwords do not match are answered alike in four cases only: the
client has had too many, the realm does not override local accounts, the file cannot be read to an
end, or the file lists both names or neither. -/
theorem outage_discloses_listing (service : Service) (s : RealmState) {scene : Scene}
    {fault : DatabaseFault} (broken : scene.databaseFault = some fault) {r r' : Request}
    (reaches : service.Reaches r .login) (reaches' : service.Reaches r' .login)
    {form form' : LoginForm} (read : LoginForm.ofRequest service.room r = .ok form)
    (read' : LoginForm.ofRequest service.room r' = .ok form')
    (unmatched : Realm.scheme? (s.refreshed scene.tree).credentials form.username form.password =
      none)
    (unmatched' : Realm.scheme? (s.refreshed scene.tree).credentials form'.username
      form'.password = none)
    (client : Authorization.addressOf r.client = Authorization.addressOf r'.client)
    (path : r.path = r'.path) :
    ∃ service' response response',
      (service.respond scene r s).result = .ok (service', response) ∧
      (service.respond scene r' s).result = .ok (service', response') ∧
      (response = response' ↔
        (service.counters.hit r.path (Authorization.addressOf r.client)
            service.loginLimits).2 ≠ none ∨
          service.realm.overrideLocal = false ∨
          (s.credentials.refresh scene.tree).isReport = false ∨
          (s.refreshed scene.tree).credentials.lists form.username =
            (s.refreshed scene.tree).credentials.lists form'.username) := by
  have result := respond_of_outage broken reaches read unmatched
  have result' := respond_of_outage broken reaches' read' unmatched'
  rw [← client, ← path] at result'
  refine ⟨_, _, _, result, result', ?_⟩
  -- if the rate is exceeded, both get the same 429; otherwise the two responses are compared
  cases within : (service.counters.hit r.path (Authorization.addressOf r.client)
      service.loginLimits).2 with
  | some limit => simp
  | none =>
    simp only [ne_eq, not_true_eq_false, false_or]
    rw [outageResponse_eq_iff, Realm.turnsAwayAlone, Realm.turnsAwayAlone]
    cases service.realm.overrideLocal <;>
      cases (s.credentials.refresh scene.tree).isReport <;>
        simp

/-- A wrong password of the one name in the file, and any password of another name. -/
theorem outage_discloses_only_name :
    let s : RealmState := ⟨{ path := ⟨"/", ["htpasswd"]⟩ }, {}⟩
    let scene : Scene :=
      ⟨Credential.lone [97, 58, 120] 1, ⟨2024, 1, 1, 0, 0, 0, 0⟩, some .cannotOpen⟩
    let service : Service := { realm := {}, allowedHosts := ["localhost"] }
    let login (body : String) : Request :=
      { method := "POST", target := "/api/v1/auth/login"
        headers := [("host", "localhost"), ("content-type", "application/json")], body := body }
    let listed := login "\x7b\"username\":\"a\",\"password\":\"y\"\x7d"
    let other := login "\x7b\"username\":\"e\",\"password\":\"y\"\x7d"
    ∃ service' response response',
      (service.respond scene listed s).result = .ok (service', response) ∧
      (service.respond scene other s).result = .ok (service', response') ∧
      response ≠ response' := by
  intro s scene service login listed other
  have spelt : Credential.spell? {} [97, 58, 120] = some ['a', ':', 'x'] := by decide
  have read : s.credentials.refresh scene.tree = _ :=
    Credential.Store.refresh_lone rfl nofun spelt
  have store : (s.refreshed scene.tree).credentials = _ := congrArg Credential.Refresh.store read
  have form : LoginForm.ofRequest service.room listed = .ok ⟨"a", "y"⟩ := by
    simp only [listed, login]
    rfl
  have form' : LoginForm.ofRequest service.room other = .ok ⟨"e", "y"⟩ := by
    simp only [other, login]
    rfl
  have unmatched : Realm.scheme? (s.refreshed scene.tree).credentials "a" "y" = none := by
    rw [store]
    decide
  have unmatched' : Realm.scheme? (s.refreshed scene.tree).credentials "e" "y" = none := by
    rw [store]
    decide
  obtain ⟨service', response, response', answered, answered', same_iff⟩ :=
    outage_discloses_listing service s rfl (by decide) (by decide) form form' unmatched unmatched'
      rfl rfl
  refine ⟨service', response, response', answered, answered', fun same ↦ ?_⟩
  -- of the four reasons for equal responses none holds here
  rcases same_iff.1 same with exceeded | off | stopped | listedAlike
  · exact exceeded rfl
  · exact absurd off (by decide)
  · rw [read] at stopped
    exact absurd stopped (by decide)
  · rw [store] at listedAlike
    exact absurd listedAlike (by decide)

end Service

end AuthRealm.Http
