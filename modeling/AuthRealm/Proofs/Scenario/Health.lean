import AuthRealm.Proofs.Realm.Setup
import AuthRealm.Proofs.Scenario.Keeping

/-!
# The health of a running service

What a service says that is asked for its health, in any state that it can come to: files come and
go, links lead in circles, the database is given up or a directory put in its place. **It says
whether the path of its credential file names a file now and whether its database can be opened,
and asking has no effect** (`health_of_reached`): no request is counted, and tables and credentials
stay as they are.

**A path that cannot be looked up is the exception**: one that is too long, or that leads through a
directory that is locked against searching. Where any other path is just missing, looking such a one
up fails, and the service then answers that the request has failed, without a word about the
database. A name of more than 255 bytes will do (`findNode_of_long_name`). It stops no start, since
a refresh reports what is wrong with a file, and the service runs without entries.
-/

namespace AuthRealm

open Account Storage

/-! ### What is there -/

/-- A path names a file, with links followed. A database is a file too, and so is one that is locked
against reading. -/
def Storage.Tree.NamesFile (t : Tree) (p : Path) : Prop :=
  ∃ node, t.findNode p = .ok node ∧ node.isFile = true

/-- A path cannot be looked up: it is too long or comes by a name that is, or a directory on its way
is locked against searching. -/
def Storage.Tree.Withholds (t : Tree) (p : Path) : Prop :=
  t.findNode p = .error .nameTooLong ∨ t.findNode p = .error .denied

theorem Storage.Tree.isFile_of_withholds {t : Tree} {p : Path} (withheld : t.Withholds p) :
    ∃ fault, t.isFile p = .error fault := by
  rcases withheld with found | found
  · exact ⟨_, namesWhere_eq_error_iff.2 ⟨found, .inl rfl⟩⟩
  · exact ⟨_, namesWhere_eq_error_iff.2 ⟨found, .inr rfl⟩⟩

theorem Storage.Tree.isFile_of_not_withholds {t : Tree} {p : Path} (shown : ¬ t.Withholds p) :
    ∃ present, t.isFile p = .ok present ∧ (present = true ↔ t.NamesFile p) := by
  cases looked : t.isFile p with
  | error fault =>
    -- only a path that is withheld has no answer
    obtain ⟨found, rfl | rfl⟩ := namesWhere_eq_error_iff.1 looked
    · exact absurd (.inl found) shown
    · exact absurd (.inr found) shown
  | ok present =>
    refine ⟨present, rfl, ?_⟩
    rw [isFile, namesWhere] at looked
    cases found : t.findNode p with
    | error fault =>
      simp only [found] at looked
      split at looked
      · cases looked
        simp [NamesFile, found]
      · cases looked
    | ok node =>
      simp only [found] at looked
      cases looked
      simp [NamesFile, found]

/-- **The database of a store can be opened**: it is open already, or it is in memory, or its place
leads, by a path that is not too long for a database, to one or to where one can be created. -/
def Account.Connection.CanOpen (d : Disk) (c : Connection) : Prop :=
  c.number.isSome = true ∨ match c.place with
    | .memory => True
    | .file path => ∃ l, d.tree.walk true Tree.maxLinks [] path = .ok l ∧
        (Path.ofLocation l).text.utf8ByteSize ≤ Disk.maxFileBytes ∧
        (Disk.IsVacant d.tree l ∨ ∃ number, d.tree.get? l = some (.database number))

/-- A store in a file can be used if a database stands at its place or can be created there. -/
theorem Account.Connection.isUsable_file_iff {d : Disk} {url : StoreUrl} {path : List String} :
    isUsable d ⟨url, .file path, none⟩ = true ↔
      ∃ l, d.tree.walk true Tree.maxLinks [] path = .ok l ∧
        (Path.ofLocation l).text.utf8ByteSize ≤ Disk.maxFileBytes ∧
        (Disk.IsVacant d.tree l ∨ ∃ number, d.tree.get? l = some (.database number)) := by
  simp only [isUsable, connect, Disk.openAt, Disk.IsVacant]
  cases walked : d.tree.walk true Tree.maxLinks [] path with
  | error fault => simp
  | ok l =>
    -- an over-long path is refused before the node at the end of it is looked at
    by_cases long : Disk.maxFileBytes < (Path.ofLocation l).text.utf8ByteSize
    · simp [long, Nat.not_le.2 long]
    · simp only [Except.ok.injEq, exists_eq_left', Nat.not_lt.1 long, true_and, if_neg long]
      rcases stands : d.tree.get? l with _ | node
      · simp
      · cases node with
        -- an empty file counts as a new database, and no other file as one
        | file bytes time => cases bytes <;> simp
        | _ => simp

theorem Account.Connection.isUsable_iff {d : Disk} {c : Connection} :
    c.isUsable d = true ↔ c.CanOpen d := by
  obtain ⟨url, place, number⟩ := c
  cases number with
  | some number => exact iff_of_true rfl (.inl rfl)
  | none =>
    cases place with
    | memory => exact iff_of_true rfl (.inr trivial)
    | file path =>
      exact isUsable_file_iff.trans ⟨.inr, fun opens ↦ opens.resolve_left Bool.false_ne_true⟩

namespace Http

/-! ### The answer -/

/-- The answer of a healthy service. -/
def Response.health (file database : Bool) : Response where
  status := 200
  content := .json (.object [("status", .string "healthy"), ("version", .string "0.1.0"),
    ("components", .object [("app", .string "ok"),
      ("credential_file", .string (if file then "ok" else "missing")),
      ("database", .string (if database then "ok" else "error"))])])

/-- What a service answers that is asked for its health. -/
def healthAnswer (tree : Tree) (p : Path) (database : Bool) : Response :=
  match tree.isFile p with
  | .ok file => .health file database
  | .error _ => .internalError

/-- A fault of the database that is none to the service: there is no table yet. -/
def usableUnder (fault : Option DatabaseFault) : Bool :=
  match fault with
  | none => true
  | some .noTable => true
  | some _ => false

theorem Service.respond_of_health {service : Service} {r : Request}
    (reaches : service.Reaches r .health) (scene : Scene) (s : RealmState) :
    (service.respond scene r s).result = .ok (service,
        healthAnswer scene.tree s.credentials.path (usableUnder scene.databaseFault)) ∧
      (service.respond scene r s).state = s := by
  have decided : service.decide r = (service.counters, .perform .health) :=
    decide_of_reaches reaches
  obtain ⟨result, state⟩ := respond_of_perform scene s decided
  refine ⟨result.trans ?_, state.trans (Operation.state_run ..)⟩
  have reported : (Operation.health.run service.realm service.secureCookies scene s).result =
      (healthReport scene s.credentials.path s).result := rfl
  rw [reported, healthReport, healthAnswer]
  cases scene.tree.isFile s.credentials.path with
  | error fault => rfl
  | ok file =>
    rcases scene.databaseFault with _ | fault
    · rfl
    · cases fault <;> rfl

end Http

/-! ### Asking has no effect -/

theorem Action.run_of_health {service : Http.Service} {r : Http.Request}
    (reaches : service.Reaches r .health) (m : Machine) (credentials : Credential.Store)
    (accounts : Connection) :
    let run := run m credentials accounts fun scene ↦ service.respond scene r
    run.result = .ok (service,
        Http.healthAnswer m.disk.tree credentials.path (accounts.isUsable m.disk)) ∧
      run.credentials = credentials ∧ run.disk.tree = m.disk.tree ∧
        ∀ number, run.disk.table number = m.disk.table number := by
  intro run
  -- a connection that fails is what the scene reports, and then no table is touched
  rcases connected : accounts.connect m.disk with fault | ⟨disk, accounts', number⟩
  · obtain ⟨result, state⟩ :=
      Http.Service.respond_of_health reaches ⟨m.disk.tree, m.now, some fault⟩ ⟨credentials, {}⟩
    simp only [run, Action.run, connected, Connection.isUsable, result, state, implies_true,
      and_true]
    cases fault <;> rfl
  · obtain ⟨rfl, -⟩ := Connection.connect_eq_ok connected
    obtain ⟨result, state⟩ := Http.Service.respond_of_health reaches
      ⟨m.disk.tree, m.now, none⟩ ⟨credentials, m.disk.table number⟩
    simp only [run, Action.run, connected, Connection.isUsable, result, state]
    exact ⟨rfl, trivial, rfl, m.disk.table_setTable_self number⟩

/-! ### Running services -/

/-- What settings mean where a service is started: the path of its credential file, and the place of
its database. -/
structure Realm.Configures (m : Machine) (settings : Settings) (p : Path)
    (place : StoreUrl.Place) : Prop where
  leads : Leads m settings settings.userFile p
  names : ∃ text url, UrlOf m settings (.ok text) ∧ StoreUrl.ofText? text = some url ∧
    url.place m.drivers m.workDir = .ok place

/-- A first reading that does not fail is that of the file, over the account store. -/
theorem Realm.firstReading_eq_ok {settings : Settings} {charset : Text.Encoding} {p : Path}
    {disk : Disk} {accounts : Connection} {opened : OpenRealm}
    (h : (firstReading settings charset p disk accounts).result = .ok opened) :
    opened.credentials.path = p ∧ opened.accounts = accounts := by
  unfold firstReading at h
  dsimp only at h
  split at h
  · exact absurd h nofun
  · obtain rfl := Except.ok.inj h
    exact ⟨Credential.Store.refresh_path .., rfl⟩

/-- A setup that does not fail is over the path and the place of its settings. -/
theorem Realm.configures_of_setup {m : Machine} {settings : Settings} {opened : OpenRealm}
    (h : (setup m settings).result = .ok opened) :
    Configures m settings opened.credentials.path opened.accounts.place := by
  have ends := setsUp_setup m settings
  generalize setup m settings = outcome at h ends
  cases ends with
  | opened leads urlOf opening =>
    obtain ⟨rfl, same⟩ := firstReading_eq_ok h
    obtain ⟨url, place, number, read, named, -, rfl⟩ := Connection.openUrl_eq_ok opening
    rw [same]
    exact ⟨leads, _, url, urlOf, read, named⟩
  | _ => exact absurd h nofun

namespace Scenario.State

/-- A service runs in a state, for the hosts of settings, over a path and a place. -/
structure Runs (s : State) (settings : Settings) (p : Path) (place : StoreUrl.Place)
    (service : Http.Service) (stores : Stores) (credentials : Credential.Store)
    (accounts : Connection) : Prop where
  runs : s.service = some (service, stores)
  stand : s.storesAt? stores = some (credentials, accounts)
  hosts : service.allowedHosts = settings.allowedHosts
  path : credentials.path = p
  place : accounts.place = place

/-- A state serves settings if a service runs in it, over the path and the place of these. -/
def Serves (s : State) (settings : Settings) (p : Path) (place : StoreUrl.Place) : Prop :=
  ∃ service stores credentials accounts, s.Runs settings p place service stores credentials accounts

variable {s s' : State} {settings : Settings} {p : Path} {place : StoreUrl.Place}

/-- A service that is kept runs on. -/
theorem Keeps.serves (h : Keeps s s') (serves : s.Serves settings p place) :
    s'.Serves settings p place := by
  obtain ⟨service, stores, credentials, accounts, found⟩ := serves
  obtain ⟨counters, runs⟩ := h.service _ _ found.runs
  obtain ⟨credentials', accounts', stand, path, place⟩ := h.storesAt? found.stand
  exact ⟨_, _, _, _, runs, stand, found.hosts, path.trans found.path, place.trans found.place⟩

theorem machine_loadSettings (s : State) : s.loadSettings.state.machine = s.machine := by
  rw [loadSettings]
  split
  · rfl
  · split
    · rfl
    · rfl

/-- The stores of a realm that is added stand at the places that are given for them. -/
theorem storesAt?_addRealm (s : State) (opened : OpenRealm) :
    (s.addRealm opened).1.storesAt? (s.addRealm opened).2 =
      some (opened.credentials, opened.accounts) := by
  refine storesAt?_eq_some_iff.2 ⟨?_, ?_⟩
  · simp [addRealm, addCredentials, addAccounts]
  · simp [addRealm, addCredentials, addAccounts]

theorem setupRealm_of_setup {opened : OpenRealm}
    (h : (Realm.setup s.machine settings).result = .ok opened) :
    let added := (s.withDisk (Realm.setup s.machine settings).disk).addRealm opened
    (s.setupRealm settings).result = .ok (opened, added.2) ∧
      (s.setupRealm settings).state = added.1 := by
  unfold setupRealm
  simp only [h, and_self]

/-- A setup that does not fail puts the stores of the settings at the places that it gives. -/
theorem setupRealm_eq_ok {opened : OpenRealm} {stores : Stores}
    (h : (s.setupRealm settings).result = .ok (opened, stores)) :
    (s.setupRealm settings).state.storesAt? stores = some (opened.credentials, opened.accounts) ∧
      Realm.Configures s.machine settings opened.credentials.path opened.accounts.place := by
  rcases ends : (Realm.setup s.machine settings).result with e | opened'
  · -- a set-up that fails adds no realm
    unfold setupRealm at h
    simp only [ends] at h
    cases h
  · obtain ⟨result, state⟩ := setupRealm_of_setup ends
    obtain ⟨rfl, rfl⟩ := Prod.mk.inj (Except.ok.inj (result.symm.trans h))
    rw [state]
    exact ⟨storesAt?_addRealm .., Realm.configures_of_setup ends⟩

/-- A start that does not fail leaves a service over the realm that is set up for it. -/
theorem startService_of_opened (loaded : s.loadSettings.result = .ok settings)
    (patterns : settings.allowedHosts.all Http.Host.isPattern = true) {opened : OpenRealm}
    {stores : Stores}
    (succeeded : (s.loadSettings.state.setupRealm settings).result = .ok (opened, stores)) :
    s.startService.result = .ok .done ∧ s.startService.state =
      { (s.loadSettings.state.setupRealm settings).state with
        service := some (Http.Service.ofSettings settings opened.realm, stores) } := by
  simp only [startService, loaded, patterns, if_true, succeeded, and_self]

theorem startService_eq_ok {answer : Answer} (h : s.startService.result = .ok answer) :
    ∃ settings opened stores, s.loadSettings.result = .ok settings ∧
      settings.allowedHosts.all Http.Host.isPattern = true ∧
      (s.loadSettings.state.setupRealm settings).result = .ok (opened, stores) := by
  rw [startService] at h
  split at h
  · exact absurd h nofun
  · rename_i settings loaded
    split at h
    · rename_i patterns
      dsimp only at h
      split at h
      · exact absurd h nofun
      · rename_i opened stores succeeded
        exact ⟨settings, opened, stores, loaded, patterns, succeeded⟩
    · exact absurd h nofun

/-- **A service that starts serves its settings.** -/
theorem serves_of_start {answer : Answer} (h : s.startService.result = .ok answer) :
    ∃ settings p place, s.loadSettings.result = .ok settings ∧
      Realm.Configures s.machine settings p place ∧
      s.startService.state.Serves settings p place := by
  obtain ⟨settings, opened, stores, loaded, patterns, succeeded⟩ := startService_eq_ok h
  obtain ⟨stand, configures⟩ := setupRealm_eq_ok succeeded
  rw [machine_loadSettings] at configures
  refine ⟨settings, _, _, loaded, configures, ?_⟩
  rw [(startService_of_opened loaded patterns succeeded).2]
  generalize (s.loadSettings.state.setupRealm settings).state = after at stand ⊢
  exact ⟨_, stores, opened.credentials, opened.accounts, rfl, stand, rfl, rfl, rfl⟩

/-! ### Health in every state -/

/-- **Nothing of a service is affected** from one state to another: neither what it has counted nor
its credentials, and no file and no table. -/
structure Unaffected (s s' : State) : Prop where
  service : s'.service = s.service
  credentials : s'.credentials = s.credentials
  tree : s'.machine.disk.tree = s.machine.disk.tree
  tables : ∀ number, s'.machine.disk.table number = s.machine.disk.table number

/-- What a question for the health of a service comes to. -/
theorem sendRequest_of_health {service : Http.Service} {stores : Stores}
    {credentials : Credential.Store} {accounts : Connection} {r : Http.Request}
    (found : s.Runs settings p place service stores credentials accounts)
    (reaches : service.Reaches r .health) :
    (s.sendRequest r).result = .ok (.response
        (Http.healthAnswer s.machine.disk.tree p (accounts.isUsable s.machine.disk))) ∧
      s.Unaffected (s.sendRequest r).state := by
  obtain ⟨result, kept, tree, tables⟩ := Action.run_of_health reaches s.machine credentials accounts
  simp only [sendRequest, found.runs, runAt, found.stand, result, kept, found.path]
  obtain ⟨within, rfl⟩ := List.getElem?_eq_some_iff.1 (storesAt?_eq_some_iff.1 found.stand).1
  exact ⟨trivial, found.runs.symm, List.set_getElem_self within, tree, tables⟩

/-- The states that a service comes to: it starts in one of them, and other steps follow. -/
inductive Reached (start : State) : State → Prop where
  | started {answer : Answer} (answers : (start.step .startService).result = .ok answer) :
      Reached start (start.step .startService).state
  | later {s : State} {x : Step} (reached : Reached start s) (other : x ≠ .startService) :
      Reached start (s.step x).state

/-- **Wherever a service comes to, it serves the settings that it has started with.** -/
theorem Reached.serves {start : State} (h : Reached start s) :
    ∃ settings p place, start.loadSettings.result = .ok settings ∧
      Realm.Configures start.machine settings p place ∧ s.Serves settings p place := by
  induction h with
  | started answers => exact serves_of_start answers
  | later _ other ih =>
    obtain ⟨settings, p, place, loaded, configures, serves⟩ := ih
    exact ⟨settings, p, place, loaded, configures, (keeps_step _ other).serves serves⟩

/-- **Health is answered wherever a service comes to, and has no effect.** The answer says whether
the path of the settings names a file now, and whether the database of the service can be opened.
Only if the path cannot be looked up, for its length or for permissions, has the request failed. -/
theorem health_of_reached {start : State} (reached : Reached start s) :
    ∃ settings p place, start.loadSettings.result = .ok settings ∧
      Realm.Configures start.machine settings p place ∧
      ∃ service stores credentials accounts,
        s.Runs settings p place service stores credentials accounts ∧
        ∀ r, service.Reaches r .health →
          let after := s.step (.request r)
          let disk := s.machine.disk
          (¬ disk.tree.Withholds p → ∃ file database,
            after.result = .ok (.response (.health file database)) ∧
              (file = true ↔ disk.tree.NamesFile p) ∧ (database = true ↔ accounts.CanOpen disk)) ∧
            (disk.tree.Withholds p → after.result = .ok (.response .internalError)) ∧
            s.Unaffected after.state := by
  obtain ⟨settings, p, place, loaded, configures, service, stores, credentials, accounts, found⟩ :=
    reached.serves
  refine ⟨settings, p, place, loaded, configures, service, stores, credentials, accounts, found,
    fun r reaches ↦ ?_⟩
  intro after disk
  obtain ⟨result, unaffected⟩ : after.result = _ ∧ _ := sendRequest_of_health found reaches
  refine ⟨fun shown ↦ ?_, fun withheld ↦ ?_, unaffected⟩
  · -- where the path is looked up, the two components are read off the report
    obtain ⟨file, looked, names⟩ := Tree.isFile_of_not_withholds shown
    refine ⟨file, accounts.isUsable disk, ?_, names, Connection.isUsable_iff⟩
    rw [result, Http.healthAnswer, looked]
  · -- where it is withheld, the fault is raised before any component is known
    obtain ⟨fault, looked⟩ := Tree.isFile_of_withholds withheld
    rw [result, Http.healthAnswer, looked]

/-- A name that is too long is not looked up, whatever the tree. -/
theorem findNode_of_long_name {t : Tree} {name : String} (enters : ¬ IsDots name)
    (long : Tree.maxNameBytes < name.utf8ByteSize) :
    t.findNode (Path.ofLocation [name]) = .error .nameTooLong := by
  have found : t.find (Path.ofLocation [name]) = .error .nameTooLong := by
    rw [Tree.find]
    split
    · rfl
    · obtain ⟨notEmpty, notDot, notUp⟩ := not_or.1 enters |>.imp_right not_or.1
      -- the root of the empty tree obstructs nothing, so the walk fails at the name itself
      show t.walk false Tree.maxLinks [] [name] = _
      have unobstructed : t.obstacle? [] = none := rfl
      rw [Tree.walk, unobstructed]
      simp [notEmpty, notDot, notUp, long]
  rw [Tree.findNode, found]

/-- In an empty tree, the path of one name is resolved to itself. -/
theorem resolvePath_of_empty {settings : Settings} {name : String} (clean : hasNul name = false)
    (named : IsName name) (enters : ¬ IsDots name)
    (plain : Text.contains Settings.placeholder (Path.ofLocation [name]).text.toList = false) :
    settings.resolvePath ({} : Machine).surroundings (Path.ofLocation [name]).text =
      .ok (Path.ofLocation [name]) := by
  have absent (l : Location) (target : String) : ({} : Tree).get? l ≠ some (.link target) := by
    by_cases top : l = []
    · simp [top, Tree.get?]
    · simp [top, Tree.get?]
  refine Settings.resolvePath_text (List.forall_mem_singleton.2 clean)
    (List.forall_mem_singleton.2 ⟨named, enters⟩) (fun l _ target link ↦ ?_) ?_ plain
  · exact absent l target (Tree.get?_of_look? link)
  · -- an empty tree has no link to follow, so every rank will do
    refine Tree.noLoops_of_rank (fun _ ↦ 0) fun l k meets ↦ ?_
    obtain ⟨target, link⟩ := meets.isLink
    exact absurd (Tree.get?_of_look? link) (absent _ target)

/-- A service that is started over a file whose name has 256 letters fails to tell of its health. -/
theorem health_of_reached_over_long_name :
    let name := String.ofList (List.replicate 256 'x')
    let settings : Settings :=
      { userFile := (Path.ofLocation [name]).text, backingStore := "sqlite://" }
    let start : State := { machine := {}, settings := some settings }
    let s := (start.step .startService).state
    let r : Http.Request := { target := "/api/v1/health", headers := [("Host", "localhost")] }
    Reached start s ∧ s.machine.disk.tree.Withholds (Path.ofLocation [name]) ∧
      (s.step (.request r)).result = .ok (.response .internalError) := by
  intro name settings start s r
  have letters : name.toList = List.replicate 256 'x' := String.toList_ofList
  have length : name.length = 256 := by
    rw [← String.length_toList, letters, List.length_replicate]
  have text : (Path.ofLocation [name]).text.toList = '/' :: List.replicate 256 'x' := by
    rw [Path.toList_text_ofLocation, List.map_singleton, List.intercalate_singleton, letters]
  have enters : ¬ IsDots name := by
    rintro (empty | dot | dots)
    · exact absurd (empty ▸ length) (by decide)
    · exact absurd (dot ▸ length) (by decide)
    · exact absurd (dots ▸ length) (by decide)
  have clean : hasNul (Path.ofLocation [name]).text = false := by
    rw [hasNul, text]
    decide
  have leads : Realm.Leads start.machine settings settings.userFile (Path.ofLocation [name]) := by
    refine Realm.leads_of_name (resolvePath_of_empty ?_ ?_ enters ?_)
    · rw [hasNul, letters]
      decide
    · rw [IsName, letters]
      decide
    · rw [text]
      decide +kernel
  have urlOf : Realm.UrlOf start.machine settings (.ok "sqlite://") := .url (by decide)
  -- the account store is a new database in memory
  let disk := start.machine.disk.newDatabase.1
  let accounts : Connection := ⟨{ dialect := "sqlite" }, .memory, some 0⟩
  have opening : Connection.openUrl start.machine.drivers start.machine.disk start.machine.workDir
      "sqlite://" = .ok (disk, accounts) := rfl
  have setup := Realm.setup_of_opened leads urlOf opening
  have utf8 : Text.Charset.ofName settings.charset = .ok .utf8 := by decide
  obtain ⟨opened, first, -⟩ := Realm.firstReading_of_utf8
    (start.machine.encoding settings.charset) utf8 clean disk accounts
  have succeeded : (Realm.setup start.machine settings).result = .ok opened := setup ▸ first
  have loads : start.loadSettings.result = .ok settings := rfl
  have patterns : settings.allowedHosts.all Http.Host.isPattern = true := by decide
  obtain ⟨answers, -⟩ := startService_of_opened loads patterns (setupRealm_of_setup succeeded).1
  have reached : Reached start s := .started answers
  obtain ⟨settings', p, place, loaded, configures, service, stores, credentials, accounts', found,
    answered⟩ := health_of_reached reached
  obtain rfl : settings = settings' := Except.ok.inj (loads.symm.trans loaded)
  obtain rfl : Path.ofLocation [name] = p :=
    Except.ok.inj (leads.resolved.symm.trans configures.leads.resolved)
  have reaches : service.Reaches r .health := ⟨by rw [found.hosts]; decide, by decide, by decide⟩
  obtain ⟨-, failed, -⟩ := answered r reaches
  have withheld : s.machine.disk.tree.Withholds (Path.ofLocation [name]) :=
    .inl (findNode_of_long_name enters (by decide +kernel))
  exact ⟨reached, withheld, failed withheld⟩

end Scenario.State

end AuthRealm
