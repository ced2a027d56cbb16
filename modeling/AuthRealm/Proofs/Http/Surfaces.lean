import AuthRealm.Proofs.Http.Answer
import AuthRealm.Proofs.Http.LoginForm
import AuthRealm.Proofs.Realm.Authenticate

/-!
# Two ways to present a password

A client presents a name and a password in the body of a login, or in the header of a check. Both
end in the same question to the realm, so within their limits they are answered alike, but for what
lies between the client and the question on the way there and on the way back:

* a check takes a name and a password only if **all their characters are ASCII**
  (`Authorization.present_basicHeader`), while a login takes any;
* a login has a cookie to hand out, and **a cookie that cannot be sent is a failure**
  (`Response.status_loggedIn`), while a check hands out none.

`login_and_check_succeed_iff` says that nothing else comes between the two.
-/

namespace AuthRealm.Http

open Account Storage

variable {service : Service} {scene : Scene} {s : RealmState} {r : Request} {u p : String}

/-! ### What the two answer -/

namespace Operation

/-- A login succeeds if the realm lets somebody in whose cookie can be sent. -/
theorem status_loginResponse_eq_iff {secure : Bool} {answer : Option Record} :
    (loginResponse secure answer).status = 200 ↔
      ∃ record, answer = some record ∧ Cookie.isSendable (record.cookie.getD "") = true := by
  cases answer with
  | none =>
    exact ⟨fun ok ↦ absurd (show 401 = 200 from ok) (by decide), fun ⟨_, h, _⟩ ↦ absurd h nofun⟩
  | some record =>
    show (Response.loggedIn secure record).status = 200 ↔ _
    rw [Response.status_loggedIn]
    simp

/-- A check succeeds if the realm lets somebody in. -/
theorem status_verifyResponse_eq_iff {answer : Option Record} :
    (verifyResponse answer).status = 200 ↔ ∃ record, answer = some record := by
  cases answer with
  | none =>
    exact ⟨fun ok ↦ absurd (show 401 = 200 from ok) (by decide), fun ⟨_, h⟩ ↦ absurd h nofun⟩
  | some record => exact ⟨fun _ ↦ ⟨record, rfl⟩, fun _ ↦ rfl⟩

end Operation

/-! ### One question -/

namespace Service

/-- The record with which the realm of a service lets a name and a password in. -/
def LetsIn (service : Service) (scene : Scene) (s : RealmState) (u p : String)
    (record : Record) : Prop :=
  (service.realm.authenticate scene u p s).result = .ok (some record)

/-- Over stores that can be used, every name and password is let in or turned away. -/
theorem exists_letsIn_iff (service : Service) (usable : scene.databaseFault = none)
    (reads : (s.credentials.refresh scene.tree).isReport = true) (u p : String) :
    ∃ answer, (service.realm.authenticate scene u p s).result = .ok answer ∧
      ∀ record, service.LetsIn scene s u p record ↔ answer = some record := by
  have asked := @Realm.result_authenticate service.realm scene s u p usable fun _ ↦ reads
  refine ⟨_, asked, fun record ↦ ?_⟩
  rw [LetsIn, asked, Except.ok.injEq]

/-- **A login succeeds** with a name and a password that the realm lets in, if the cookie can be
sent. -/
theorem login_of_carries (usable : scene.databaseFault = none)
    (reads : (s.credentials.refresh scene.tree).isReport = true) (fits : LoginForm.Fits u p)
    (toLogin : service.Reaches r .login) (carries : LoginForm.Carries service.room r u p)
    (counted : (service.counters.hit r.path (Authorization.addressOf r.client)
      service.loginLimits).2 = none) :
    ∃ service' response, (service.respond scene r s).result = .ok (service', response) ∧
      (response.status = 200 ↔ ∃ record, service.LetsIn scene s u p record ∧
        Cookie.isSendable (record.cookie.getD "") = true) ∧
      ∀ record, service.LetsIn scene s u p record → response.status = 200 →
        response.content = Response.identity record := by
  obtain ⟨answer, asked, letsIn⟩ := service.exists_letsIn_iff usable reads u p
  have charge := charge?_login toLogin (LoginForm.ofRequest_of_carries carries fits)
  obtain ⟨result, -⟩ := respond_of_counted charge counted scene s
  rw [(Operation.run_login _ _ _).1, asked] at result
  refine ⟨_, _, result, ?_, ?_⟩
  · simp only [letsIn]
    exact Operation.status_loginResponse_eq_iff
  · intro record letIn ok
    obtain rfl : answer = some record := (letsIn record).1 letIn
    exact Response.content_loggedIn ok

/-- **A check succeeds** with a name and a password that the realm lets in, if they are ASCII. -/
theorem check_of_presents (usable : scene.databaseFault = none)
    (reads : (s.credentials.refresh scene.tree).isReport = true) (clean : ':' ∉ u.toList)
    (toVerify : service.Reaches r .verify)
    (presents : r.headers.first? "authorization" = some (Authorization.basicHeader u p))
    (counted : (service.counters.hit r.path (Authorization.addressOf r.client ++ ":" ++ u)
      service.verifyLimits).2 = none) :
    ∃ service' response, (service.respond scene r s).result = .ok (service', response) ∧
      (response.status = 200 ↔ ∃ record, service.LetsIn scene s u p record ∧
        Authorization.arePlain u p = true) ∧
      ∀ record, service.LetsIn scene s u p record → response.status = 200 →
        response.content = Response.identity record := by
  have presented := Authorization.present_basicHeader p clean
  rw [← presents] at presented
  -- credentials that are not ASCII never get past the framework, whoever they belong to
  cases plain : Authorization.arePlain u p with
  | true =>
    rw [plain, if_pos rfl] at presented
    obtain ⟨answer, asked, letsIn⟩ := service.exists_letsIn_iff usable reads u p
    obtain ⟨result, -⟩ := respond_of_counted (charge?_verify toVerify presented) counted scene s
    rw [(Operation.run_verify _ _ _ _).1, asked] at result
    refine ⟨_, _, result, ?_, ?_⟩
    · simp only [letsIn, and_true]
      exact Operation.status_verifyResponse_eq_iff
    · intro record letIn _
      obtain rfl : answer = some record := (letsIn record).1 letIn
      rfl
  | false =>
    rw [plain, if_neg Bool.false_ne_true] at presented
    obtain ⟨result, -⟩ := respond_of_unreadable toVerify presented scene s
    have refused : Response.unreadableCredentials.status ≠ 200 := show 401 ≠ 200 by decide
    refine ⟨_, _, result, ?_, fun _ _ ok ↦ absurd ok refused⟩
    simpa using refused

/-- **A login and a check of one name and one password agree**, but for what is not ASCII and for
cookies that cannot be sent. Over stores that can be used, and within the limits, for every name
without a colon and every password of the lengths that a form allows, in whatever JSON the login
carries them:

* the login is answered with 200 if the realm lets them in, with a cookie that can be sent or none;
* the check is answered with 200 if the realm lets them in, and all their characters are ASCII;
* so the two agree exactly if nobody is let in, or if neither exception applies, or both do;
* if both are answered with 200, both carry the identity of the record.
-/
theorem login_and_check_succeed_iff (service : Service) (s : RealmState) (scene : Scene)
    (usable : scene.databaseFault = none)
    (reads : (s.credentials.refresh scene.tree).isReport = true) {u p : String}
    (clean : ':' ∉ u.toList) (fits : LoginForm.Fits u p) {login check : Request}
    (toLogin : service.Reaches login .login) (carries : LoginForm.Carries service.room login u p)
    (toVerify : service.Reaches check .verify)
    (presents : check.headers.first? "authorization" = some (Authorization.basicHeader u p))
    (loginCounted : (service.counters.hit login.path (Authorization.addressOf login.client)
      service.loginLimits).2 = none)
    (checkCounted : (service.counters.hit check.path
      (Authorization.addressOf check.client ++ ":" ++ u) service.verifyLimits).2 = none) :
    ∃ afterLogin a afterCheck b,
      (service.respond scene login s).result = .ok (afterLogin, a) ∧
      (service.respond scene check s).result = .ok (afterCheck, b) ∧
      (a.status = 200 ↔ ∃ record, service.LetsIn scene s u p record ∧
        Cookie.isSendable (record.cookie.getD "") = true) ∧
      (b.status = 200 ↔ ∃ record, service.LetsIn scene s u p record ∧
        Authorization.arePlain u p = true) ∧
      ((a.status = 200 ↔ b.status = 200) ↔ ∀ record, service.LetsIn scene s u p record →
        Cookie.isSendable (record.cookie.getD "") = Authorization.arePlain u p) ∧
      (a.status = 200 → b.status = 200 → ∃ record, service.LetsIn scene s u p record ∧
        a.content = Response.identity record ∧ b.content = Response.identity record) := by
  obtain ⟨answer, -, letsIn⟩ := service.exists_letsIn_iff usable reads u p
  obtain ⟨afterLogin, a, loggedIn, loginSucceeds, loginShows⟩ :=
    login_of_carries usable reads fits toLogin carries loginCounted
  obtain ⟨afterCheck, b, checked, checkSucceeds, checkShows⟩ :=
    check_of_presents usable reads clean toVerify presents checkCounted
  refine ⟨afterLogin, a, afterCheck, b, loggedIn, checked, loginSucceeds, checkSucceeds, ?_, ?_⟩
  · -- each side succeeds for the one record that is let in, under a condition of its own
    rw [loginSucceeds, checkSucceeds]
    simp only [letsIn]
    cases answer with
    | none => simp
    | some record =>
      simp only [Option.some.injEq, exists_eq_left', forall_eq']
      exact Bool.eq_iff_iff.symm
  · intro loginOk checkOk
    obtain ⟨record, letIn, -⟩ := checkSucceeds.1 checkOk
    exact ⟨record, letIn, loginShows record letIn loginOk, checkShows record letIn checkOk⟩

/-- Two names of one credential file. A name that is not ASCII can log in and not be checked, and a
password with a colon can be both. -/
theorem login_and_check_of_two_names :
    let row (name cookie : String) (id : Nat) : Row :=
      ⟨{ username := name, hashedPassword := some externalSentinel, cookie := some cookie,
         kind := .external }, id, "user", ""⟩
    let s : RealmState := ⟨{ path := ⟨"/", ["htpasswd"]⟩ }, ⟨[row "é" "c" 1, row "a" "d" 2]⟩⟩
    let scene : Scene :=
      ⟨Credential.lone [0xc3, 0xa9, 58, 120, 10, 97, 58, 98, 58, 99] 1, ⟨2024, 1, 1, 0, 0, 0, 0⟩,
        none⟩
    let service : Service := { realm := {}, allowedHosts := ["localhost"] }
    let login (u p : String) : Request :=
      { method := "POST", target := "/api/v1/auth/login"
        headers := [("host", "localhost"), ("content-type", "application/json")]
        body := LoginForm.written u p }
    let check (u p : String) : Request :=
      { target := "/api/v1/auth/verify"
        headers := [("host", "localhost"), ("authorization", Authorization.basicHeader u p)] }
    let answers (u p : String) (a b : Response) : Prop :=
      (∃ service', (service.respond scene (login u p) s).result = .ok (service', a)) ∧
        ∃ service', (service.respond scene (check u p) s).result = .ok (service', b)
    (∃ a b, answers "é" "x" a b ∧ a.status = 200 ∧ b.status ≠ 200) ∧
      ∃ a b, answers "a" "b:c" a b ∧ a.status = 200 ∧ b.status = 200 ∧ a.content = b.content := by
  intro row s scene service login check answers
  have spelt : Credential.spell? {} [0xc3, 0xa9, 58, 120, 10, 97, 58, 98, 58, 99] =
      some ['é', ':', 'x', '\n', 'a', ':', 'b', ':', 'c'] := by decide
  have read : s.credentials.refresh scene.tree = _ :=
    Credential.Store.refresh_lone rfl nofun spelt
  have reads : (s.credentials.refresh scene.tree).isReport = true :=
    Credential.Store.isReport_refresh_lone rfl nofun spelt
  -- both names are external accounts of the file, so the file decides about both
  have letIn {u p : String} (matched : Realm.scheme? (s.credentials.reloaded (some 1)
      (Text.lines ['é', ':', 'x', '\n', 'a', ':', 'b', ':', 'c'])).store u p = some .plain)
      (taken : s.accounts.isLocal u = false) :
      service.LetsIn scene s u p (Realm.externalLogin {} s.accounts scene.now.text u p).2 := by
    have external : Realm.takesLocal {} (s.refreshed scene.tree).credentials s.accounts u = false :=
      Realm.takesLocal_eq_false_iff.2 (Or.inr taken)
    have answer := (@Realm.authenticate_of_external {} scene s u p rfl reads external).1
    rw [show (s.refreshed scene.tree).credentials = _ from congrArg Credential.Refresh.store read,
      matched] at answer
    exact answer
  constructor
  · obtain ⟨afterLogin, a, afterCheck, b, loggedIn, checked, loginSucceeds, checkSucceeds, -⟩ :=
      @login_and_check_succeed_iff service s scene rfl reads "é" "x" (by decide)
        ⟨by decide, by decide⟩ (login "é" "x") (check "é" "x") (by decide)
        (LoginForm.carries_of_written (by decide) rfl) (by decide) rfl rfl rfl
    refine ⟨a, b, ⟨⟨_, loggedIn⟩, ⟨_, checked⟩⟩, ?_, ?_⟩
    · exact loginSucceeds.2 ⟨_, letIn (by decide) (by decide), by decide⟩
    · -- the name has a letter that is not ASCII
      intro ok
      obtain ⟨-, -, plain⟩ := checkSucceeds.1 ok
      exact absurd plain (by decide)
  · obtain ⟨afterLogin, a, afterCheck, b, loggedIn, checked, loginSucceeds, checkSucceeds, -,
        same⟩ :=
      @login_and_check_succeed_iff service s scene rfl reads "a" "b:c" (by decide)
        ⟨by decide, by decide⟩ (login "a" "b:c") (check "a" "b:c") (by decide)
        (LoginForm.carries_of_written (by decide) rfl) (by decide) rfl rfl rfl
    have accepted := letIn (u := "a") (p := "b:c") (by decide) (by decide)
    have loginOk : a.status = 200 := loginSucceeds.2 ⟨_, accepted, by decide⟩
    have checkOk : b.status = 200 := checkSucceeds.2 ⟨_, accepted, by decide⟩
    obtain ⟨record, -, shown, shown'⟩ := same loginOk checkOk
    exact ⟨a, b, ⟨⟨_, loggedIn⟩, ⟨_, checked⟩⟩, loginOk, checkOk, shown.trans shown'.symm⟩

end Service

end AuthRealm.Http
