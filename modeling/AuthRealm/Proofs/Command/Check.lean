import AuthRealm.Command.Run
import AuthRealm.Proofs.Realm.Locality
import AuthRealm.Proofs.Realm.Setup

/-!
# What a check tells

A check asks the realm twice: whether the name is local, and then for a login, which asks the first
question once more for itself. Nothing keeps the two answers together but that both are given over
one store: whoever has asked finds the credential store refreshed, and asking again changes neither
the answer nor the state (`Realm.isLocal_located`, `Realm.state_isLocal`). So a check comes to what
one login over the same state comes to, in its result and on the disk (`tryLogin_apply`), and the
answer to the first question is the kind of the account that is let in
(`Realm.isLocal_eq_kind_of_authenticate`).

`check_reports_login` puts this together with the setup in front of it. The exit status tells a
problem of the configuration, a login, and a refused login apart, and **the authority that the line
names is that of the account** (`authorityOf`).
-/

namespace AuthRealm

open Account Storage

/-! ### Asking twice -/

namespace Realm

variable {realm : Realm} {scene : Scene} {s : RealmState} {u p : String} {answer : Bool}

@[simp] theorem located_located :
    realm.located scene (realm.located scene s) = realm.located scene s := by
  unfold located
  split
  · exact s.refreshed_refreshed scene.tree
  · rfl

/-- The answer of a realm that overrides local accounts, over the refreshed store. -/
theorem isLocal_of_overrides (overrides : realm.overrideLocal = true) {report : Credential.Report}
    (hr : (s.credentials.refresh scene.tree).result = .ok report) :
    (realm.isLocal scene u s).result =
      if (s.refreshed scene.tree).credentials.lists u then .ok false
      else (Store.isLocal scene u (s.refreshed scene.tree)).result := by
  cases listed : (s.credentials.refresh scene.tree).store.lists u <;>
    simp [isLocal, overrides, Action.bind_apply, Action.refresh_apply, hr, RealmState.refreshed,
      listed]

/-- Who has asked whether a name is local gets the same answer again. -/
theorem isLocal_located (asked : (realm.isLocal scene u s).result = .ok answer) :
    (realm.isLocal scene u (realm.located scene s)).result = .ok answer := by
  cases overrides : realm.overrideLocal with
  | false =>
    have same : realm.located scene s = s := by
      rw [located, overrides, if_neg Bool.false_ne_true]
    rwa [same]
  | true =>
    have same : realm.located scene s = s.refreshed scene.tree := if_pos overrides
    cases hr : (s.credentials.refresh scene.tree).result with
    | error e => cases (isLocal_of_stopped overrides hr).symm.trans asked
    | ok report =>
      -- the store that is refreshed once more is the one that was looked at
      have again : ((s.refreshed scene.tree).credentials.refresh scene.tree).isReport = true :=
        Credential.Store.refresh_refresh_isReport (Credential.Refresh.isReport_iff.2 ⟨report, hr⟩)
      obtain ⟨report', hr'⟩ := Credential.Refresh.isReport_iff.1 again
      rw [same, isLocal_of_overrides overrides hr', s.refreshed_refreshed,
        ← isLocal_of_overrides overrides hr]
      exact asked

/-- Asking first makes no difference to a login. -/
theorem authenticate_located (asked : (realm.isLocal scene u s).result = .ok answer) :
    (realm.authenticate scene u p (realm.located scene s)).result =
        (realm.authenticate scene u p s).result ∧
      (realm.authenticate scene u p (realm.located scene s)).state =
        (realm.authenticate scene u p s).state := by
  rw [authenticate, Action.bind_of_ok asked, Action.bind_of_ok (isLocal_located asked),
    state_isLocal, state_isLocal, located_located]
  exact ⟨rfl, rfl⟩

/-- **Who is let in is local exactly if the account handed out is of the local kind.** -/
theorem isLocal_eq_kind_of_authenticate {record : Record}
    (h : (realm.authenticate scene u p s).result = .ok (some record)) :
    (realm.isLocal scene u s).result = .ok (record.kind == .localAccount) := by
  have entry := entry_of_authenticate h
  generalize (realm.authenticate scene u p s).state = s' at entry
  cases entry with
  | localAccount row asked taken found =>
    rw [asked]
    exact congrArg Except.ok
      ((takesLocal_eq_true_iff.1 taken).1.symm.trans (Store.isLocal_of_login found))
  | external scheme asked reads taken matched =>
    have profile := realm.toProfile_externalLogin s.accounts scene.now.text u p
    rw [asked, congrArg Profile.kind profile]
    rfl

end Realm

/-- Actions that come to the same in every scene come to the same on a machine. -/
theorem Action.run_congr {α β γ : Type} {x : Scene → Action α} {y : Scene → Action β} {f : α → γ}
    {g : β → γ} (same : ∀ scene s, (x scene s).result.map f = (y scene s).result.map g ∧
      (x scene s).state = (y scene s).state)
    (m : Machine) (credentials : Credential.Store) (accounts : Connection) :
    (Action.run m credentials accounts x).result.map f =
        (Action.run m credentials accounts y).result.map g ∧
      (Action.run m credentials accounts x).disk = (Action.run m credentials accounts y).disk := by
  unfold Action.run
  split
  · rename_i disk accounts number connected
    obtain ⟨result, state⟩ := same ⟨disk.tree, m.now, none⟩ ⟨credentials, disk.table number⟩
    exact ⟨result, congrArg (fun s : RealmState ↦ disk.setTable number s.accounts) state⟩
  · exact ⟨(same _ _).1, rfl⟩

/-! ### Trying a login -/

namespace Command

variable {realm : Realm} {scene : Scene} {s : RealmState} {u p : String}

theorem tryLogin_of_ok {answer : Bool} (asked : (realm.isLocal scene u s).result = .ok answer) :
    (tryLogin realm u p scene s).result =
        (realm.authenticate scene u p s).result.map (answer, ·) ∧
      (tryLogin realm u p scene s).state = (realm.authenticate scene u p s).state := by
  obtain ⟨result, state⟩ := Realm.authenticate_located (p := p) asked
  rw [tryLogin, Action.bind_of_ok asked, Realm.state_isLocal, ← result, ← state, Action.bind_apply]
  cases (realm.authenticate scene u p (realm.located scene s)).result with
  | error e => exact ⟨rfl, rfl⟩
  | ok record => exact ⟨rfl, rfl⟩

theorem tryLogin_of_error {e : Failure} (asked : (realm.isLocal scene u s).result = .error e) :
    (tryLogin realm u p scene s).result = .error e ∧
      (realm.authenticate scene u p s).result = .error e ∧
      (tryLogin realm u p scene s).state = (realm.authenticate scene u p s).state := by
  rw [tryLogin, Realm.authenticate, Action.bind_of_error asked, Action.bind_of_error asked]
  exact ⟨rfl, rfl, rfl⟩

/-- Who checks the passwords of a kind of accounts, as reports name it. -/
def authorityOf : Kind → String
  | .localAccount => "backing store"
  | .external => "htpasswd file"

/-- The report of a login, as the record handed out has it. -/
def loginReport (username : String) : Option Record → Report
  | none =>
    ⟨1, "  [x] Authentication failed for '" ++ username ++ "'.\n", "", [passwordPrompt username]⟩
  | some record =>
    ⟨0, "  [ok] '" ++ record.username ++ "' authenticated via " ++ authorityOf record.kind ++
      " (" ++ record.kind.text ++ " account).\n", "", [passwordPrompt username]⟩

/-- The authority in the report is that of the account. -/
theorem output_loginReport (username : String) (record : Record) :
    (record.kind = .localAccount ∧ (loginReport username (some record)).output = "  [ok] '" ++
        record.username ++ "' authenticated via backing store (local account).\n") ∨
      (record.kind = .external ∧ (loginReport username (some record)).output = "  [ok] '" ++
        record.username ++ "' authenticated via htpasswd file (external account).\n") := by
  rw [loginReport]
  cases record.kind with
  | localAccount => exact Or.inl ⟨rfl, by simp [String.append_assoc, authorityOf, Kind.text]⟩
  | external => exact Or.inr ⟨rfl, by simp [String.append_assoc, authorityOf, Kind.text]⟩

theorem checkReport_eq_loginReport (username : String) (record : Record) :
    checkReport username (record.kind == .localAccount, some record) =
      loginReport username (some record) := by
  rw [checkReport, loginReport]
  cases record.kind <;> rfl

/-- **A login that is tried is a login**, in the report of it and in the state that it leaves. -/
theorem tryLogin_apply (realm : Realm) (scene : Scene) (u p : String) (s : RealmState) :
    (tryLogin realm u p scene s).result.map (checkReport u) =
        (realm.authenticate scene u p s).result.map (loginReport u) ∧
      (tryLogin realm u p scene s).state = (realm.authenticate scene u p s).state := by
  cases asked : (realm.isLocal scene u s).result with
  | error e =>
    obtain ⟨tried, failed, state⟩ := tryLogin_of_error (p := p) asked
    rw [tried, failed]
    exact ⟨rfl, state⟩
  | ok answer =>
    obtain ⟨tried, state⟩ := tryLogin_of_ok (p := p) asked
    refine ⟨?_, state⟩
    rw [tried]
    cases login : (realm.authenticate scene u p s).result with
    | error e => rfl
    | ok found =>
      cases found with
      | none => rfl
      | some record =>
        -- who is let in by the store is a local account, so the question asked first is answered
        -- alike
        obtain rfl : answer = (record.kind == .localAccount) :=
          Except.ok.inj (asked.symm.trans (Realm.isLocal_eq_kind_of_authenticate login))
        exact congrArg Except.ok (checkReport_eq_loginReport u record)

/-! ### Checks -/

/-- The login that a check tries, over the realm that has been set up. -/
def loginOf (m : Machine) (settings : Settings) (opened : OpenRealm) (username password : String) :
    Run (Option Record) :=
  Action.run { m with disk := (Realm.setup m settings).disk } opened.credentials opened.accounts
    fun scene ↦ opened.realm.authenticate scene username password

variable {m : Machine} {settings : Settings}

theorem result_loginOf {opened : OpenRealm} {number : Nat}
    (connected : opened.accounts.number = some number) :
    (loginOf m settings opened u p).result =
      (opened.realm.authenticate ⟨(Realm.setup m settings).disk.tree, m.now, none⟩ u p
        ⟨opened.credentials, (Realm.setup m settings).disk.table number⟩).result := by
  simp only [loginOf, Action.run, Connection.connect, connected]

theorem checkLogin_of_problem {problem : SetupProblem}
    (stopped : (Realm.setup m settings).result = .error (.setup problem)) :
    (checkLogin m settings u p).result = .ok ⟨2, complaint problem.message, "", []⟩ := by
  rw [checkLogin, stopped]

theorem checkLogin_of_failure {e : Failure} (other : ∀ problem, e ≠ .setup problem)
    (stopped : (Realm.setup m settings).result = .error e) :
    (checkLogin m settings u p).result = .error e := by
  rw [checkLogin, stopped]
  cases e with
  | setup problem => exact absurd rfl (other problem)
  | _ => rfl

/-- Once a realm is set up, a check is a login in it. -/
theorem checkLogin_of_opened {opened : OpenRealm}
    (succeeded : (Realm.setup m settings).result = .ok opened) :
    (checkLogin m settings u p).result =
        (loginOf m settings opened u p).result.map (loginReport u) ∧
      (checkLogin m settings u p).disk = (loginOf m settings opened u p).disk := by
  rw [checkLogin, succeeded]
  exact Action.run_congr (tryLogin_apply opened.realm · u p) _ _ _

/-- **Everything a check can come to**: a complaint about the configuration, a failure of the setup
or of the login, or the report of the login. -/
inductive Checks (m : Machine) (settings : Settings) (u p : String) : Except Failure Report → Prop
  | complaint (problem : SetupProblem)
      (stopped : (Realm.setup m settings).result = .error (.setup problem)) :
      Checks m settings u p (.ok ⟨2, complaint problem.message, "", []⟩)
  | setupFailed (e : Failure) (other : ∀ problem, e ≠ .setup problem)
      (stopped : (Realm.setup m settings).result = .error e) : Checks m settings u p (.error e)
  | loginFailed (opened : OpenRealm) (e : Failure)
      (succeeded : (Realm.setup m settings).result = .ok opened)
      (failed : (loginOf m settings opened u p).result = .error e) :
      Checks m settings u p (.error e)
  | login (opened : OpenRealm) (found : Option Record)
      (succeeded : (Realm.setup m settings).result = .ok opened)
      (answered : (loginOf m settings opened u p).result = .ok found) :
      Checks m settings u p (.ok (loginReport u found))

theorem checks_checkLogin (m : Machine) (settings : Settings) (u p : String) :
    Checks m settings u p (checkLogin m settings u p).result := by
  cases ended : (Realm.setup m settings).result with
  | ok opened =>
    rw [(checkLogin_of_opened ended).1]
    cases login : (loginOf m settings opened u p).result with
    | error e => exact .loginFailed opened e ended login
    | ok found => exact .login opened found ended login
  | error e =>
    -- a problem of the configuration is reported, any other failure comes through
    by_cases configuration : ∃ problem, e = .setup problem
    · obtain ⟨problem, rfl⟩ := configuration
      exact checkLogin_of_problem ended ▸ .complaint problem ended
    · have other : ∀ problem, e ≠ .setup problem := not_exists.1 configuration
      exact checkLogin_of_failure other ended ▸ .setupFailed e other ended

theorem exitCode_loginReport (username : String) (found : Option Record) :
    (loginReport username found).exitCode = if found.isSome then 0 else 1 := by
  cases found <;> rfl

theorem prompts_loginReport (username : String) (found : Option Record) :
    (loginReport username found).prompts = [passwordPrompt username] := by
  cases found <;> rfl

theorem exitCode_loginReport_ne_two (username : String) (found : Option Record) :
    (loginReport username found).exitCode ≠ 2 := by
  rw [exitCode_loginReport]
  split <;> decide

/-- Of the status and the question, one tells as much as the other. -/
theorem Checks.prompts_eq {report : Report} (h : Checks m settings u p (.ok report)) :
    report.prompts = if report.exitCode = 2 then [] else [passwordPrompt u] := by
  cases h with
  | complaint problem stopped => rfl
  | login opened found succeeded answered =>
    rw [if_neg (exitCode_loginReport_ne_two u found), prompts_loginReport]

/-- **A check tells the truth.** Whatever the settings, the disk, the name and the password:

* the exit status is two exactly if the realm cannot be set up for a problem of the configuration,
  and then, and only then, no password is asked for; any other failure of the setup comes through;
* once a realm is set up, a check comes to what a login in it comes to: it fails where the login
  fails, with the same failure, its status is zero exactly if the login hands out a record and one
  exactly if it hands out none, and it leaves the same disk;
* its line about a login that succeeds names the account store with an account of the local kind and
  the credential file with an external one. -/
theorem check_reports_login (m : Machine) (settings : Settings) (u p : String) :
    let opening := Realm.setup m settings
    let check := checkLogin m settings u p
    ((∃ report, check.result = .ok report ∧ report.exitCode = 2) ↔
        ∃ problem, opening.result = .error (.setup problem)) ∧
      (∀ report, check.result = .ok report →
        report.prompts = if report.exitCode = 2 then [] else [passwordPrompt u]) ∧
      (∀ e, opening.result = .error e → (∀ problem, e ≠ .setup problem) →
        check.result = .error e) ∧
      ∀ opened, opening.result = .ok opened →
        let login := loginOf m settings opened u p
        check.disk = login.disk ∧
          (∀ e, check.result = .error e ↔ login.result = .error e) ∧
          ((∃ report, check.result = .ok report ∧ report.exitCode = 0) ↔
            ∃ record, login.result = .ok (some record)) ∧
          ((∃ report, check.result = .ok report ∧ report.exitCode = 1) ↔
            login.result = .ok none) ∧
          ∀ record, login.result = .ok (some record) →
            ∃ report, check.result = .ok report ∧
              ((record.kind = .localAccount ∧ report.output = "  [ok] '" ++ record.username ++
                  "' authenticated via backing store (local account).\n") ∨
                (record.kind = .external ∧ report.output = "  [ok] '" ++ record.username ++
                  "' authenticated via htpasswd file (external account).\n")) := by
  intro opening check
  have checks : Checks m settings u p check.result := checks_checkLogin m settings u p
  refine ⟨⟨fun ⟨report, result, two⟩ ↦ ?_, fun ⟨problem, stopped⟩ ↦ ?_⟩,
    fun report result ↦ (result ▸ checks).prompts_eq,
    fun e stopped other ↦ checkLogin_of_failure other stopped, fun opened succeeded ↦ ?_⟩
  · -- only a complaint ends with 2, since the report of a login never does
    rw [result] at checks
    cases checks with
    | complaint problem stopped => exact ⟨problem, stopped⟩
    | login opened found succeeded answered =>
      exact absurd two (exitCode_loginReport_ne_two u found)
  · exact ⟨_, checkLogin_of_problem stopped, rfl⟩
  · obtain ⟨result, disk⟩ := checkLogin_of_opened (u := u) (p := p) succeeded
    intro login
    refine ⟨disk, ?_⟩
    -- once the realm is open, the end of the check is read off the end of the login
    cases answered : login.result with
    | error e =>
      have failed : check.result = .error e := by
        rw [show check.result = _ from result, answered]
        rfl
      simp [failed]
    | ok found =>
      have reported : check.result = .ok (loginReport u found) := by
        rw [show check.result = _ from result, answered]
        rfl
      cases found with
      | none => simp [reported, exitCode_loginReport]
      | some record =>
        refine ⟨by simp [reported], by simp [reported, exitCode_loginReport],
          by simp [reported, exitCode_loginReport], fun record' same ↦ ⟨_, reported, ?_⟩⟩
        obtain rfl := Option.some.inj (Except.ok.inj same)
        exact output_loginReport u record

/-- Over a credential file that lists a name and an account store in memory, a check of the name is
a login with the credential file, and says so. -/
theorem check_reports_login_of_listed_name :
    let m : Machine := { disk := { tree := Credential.lone [97, 100, 97, 58, 120] 1 } }
    let settings : Settings := { userFile := "/htpasswd", backingStore := "sqlite://" }
    ∃ report, (checkLogin m settings "ada" "x").result = .ok report ∧ report.exitCode = 0 ∧
      report.output = "  [ok] 'ada' authenticated via htpasswd file (external account).\n" := by
  intro m settings
  have leads : Realm.Leads m settings settings.userFile ⟨"/", ["htpasswd"]⟩ :=
    Realm.leads_lone rfl (by decide)
  have urlOf : Realm.UrlOf m settings (.ok "sqlite://") := .url (by decide)
  -- the account store is a new database in memory
  let disk := m.disk.newDatabase.1
  let accounts : Connection := ⟨{ dialect := "sqlite" }, .memory, some 0⟩
  have opening : Connection.openUrl m.drivers m.disk m.workDir "sqlite://" = .ok (disk, accounts) :=
    rfl
  have spelt : Credential.spell? {} [97, 100, 97, 58, 120] =
      some ['a', 'd', 'a', ':', 'x'] := by decide
  let new : Credential.Store :=
    { path := ⟨"/", ["htpasswd"]⟩, charset := m.encoding settings.charset }
  have read : new.refresh disk.tree = _ := Credential.Store.refresh_lone rfl (by decide) spelt
  let opened : OpenRealm := ⟨{}, (new.refresh disk.tree).store, accounts⟩
  have setup := Realm.setup_of_opened leads urlOf opening
  have succeeded : (Realm.setup m settings).result = .ok opened := by
    rw [setup, Realm.firstReading]
    simp only [opened, new, read]
    rfl
  let scene : Scene := ⟨disk.tree, m.now, none⟩
  let start : RealmState := ⟨new, disk.table 0⟩
  let s := start.refreshed scene.tree
  have usable : scene.databaseFault = none := rfl
  have reads : (s.credentials.refresh scene.tree).isReport = true :=
    Credential.Store.refresh_refresh_isReport (by rw [read]; rfl)
  have matched : Realm.scheme? (s.refreshed scene.tree).credentials "ada" "x" = some .plain := by
    rw [start.refreshed_refreshed, RealmState.refreshed, read]
    decide
  have external : Realm.takesLocal {} (s.refreshed scene.tree).credentials s.accounts "ada" =
      false := Realm.takesLocal_eq_false_iff.2 (Or.inr rfl)
  obtain ⟨login, -⟩ := Realm.authenticate_of_external (p := "x") usable reads external
  rw [matched, Option.map_some] at login
  have connected : opened.accounts.number = some 0 := rfl
  have opens : (loginOf m settings opened "ada" "x").result = _ := result_loginOf connected
  rw [setup, Realm.disk_firstReading] at opens
  have answered := opens.trans login
  obtain ⟨-, -, zero, -, lines⟩ :=
    (check_reports_login m settings "ada" "x").2.2.2 opened succeeded
  obtain ⟨report, result, line⟩ := lines _ answered
  obtain ⟨report', result', status⟩ := zero.2 ⟨_, answered⟩
  obtain rfl : report = report' := Except.ok.inj (result.symm.trans result')
  have profile := opened.realm.toProfile_externalLogin s.accounts m.now.text "ada" "x"
  refine ⟨report, result, status, ?_⟩
  rcases line with ⟨kind, -⟩ | ⟨-, output⟩
  · cases (congrArg Profile.kind profile).symm.trans kind
  · rw [output, Realm.username_externalLogin]
    rfl

end Command

end AuthRealm
