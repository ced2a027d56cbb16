import AuthRealm.Proofs.Account.Database
import AuthRealm.Proofs.Credential.Reading
import AuthRealm.Proofs.Settings.ResolvedPath
import AuthRealm.Realm.Setup
import Mathlib.Control.Monad.Basic

/-!
# What a setup comes to

Setting up a realm goes from two path settings over their directories to an account store, and only
then to the credential file. `Realm.SetsUp` lists everything that can come of it, each with the
condition under which it does, so `Realm.setup` is opened here and nowhere else. A path setting
either `Leads` to a path whose directory is there and open to the program, or `Lacks` the directory,
or `Meets` one that is closed, or is lost on the way (`Loses`).

`setup_ends` says what an operator can rely on, with a charset that is UTF-8 and on any disk:

* **a realm that is set up holds what its credential file says**, or nothing if it is missing,
  cannot be read or spells no text;
* **a setup that fails leaves the disk as it was**, since the file is read without fail once the
  account store is open;
* a setup fails with a problem of the configuration, **except where it stumbles**
  (`Realm.Stumbles`): over a path setting that is lost, or over a port, a driver or a NUL in the URL
  of the account store. These failures come through as they are.
-/

namespace AuthRealm

open Account Storage Text

variable {m : Machine} {settings : Settings} {value : String}

/-- Whether a failure is a problem of the configuration. -/
def Failure.isConfiguration : Failure → Bool
  | .setup _ => true
  | _ => false

/-! ### Path settings -/

/-- The root of a tree is a directory that is open. -/
theorem Storage.Tree.findNode_root (t : Tree) :
    t.findNode ⟨"/", []⟩ = .ok (.directory none) := by
  have walked : t.walk false Tree.maxLinks [] [] = .ok [] := by simp [Tree.walk]
  have found : t.find ⟨"/", []⟩ = .ok [] := (if_neg (by decide)).trans walked
  rw [findNode, found]
  rfl

namespace Realm

/-- A path setting leads to a path whose directory is there, and can be read and searched. -/
structure Leads (m : Machine) (settings : Settings) (value : String) (p : Path) : Prop where
  resolved : settings.resolvePath m.surroundings value = .ok p
  directory : m.disk.tree.isDirectory p.parent = .ok true
  isOpen : m.disk.tree.isOpenDirectory p.parent = true

/-- A path setting lacks the directory of its path. -/
structure Lacks (m : Machine) (settings : Settings) (value : String) (p : Path) : Prop where
  resolved : settings.resolvePath m.surroundings value = .ok p
  directory : m.disk.tree.isDirectory p.parent = .ok false

/-- A path setting meets a directory that cannot be read, or not be searched. -/
structure Meets (m : Machine) (settings : Settings) (value : String) (p : Path) : Prop where
  resolved : settings.resolvePath m.surroundings value = .ok p
  directory : m.disk.tree.isDirectory p.parent = .ok true
  isClosed : m.disk.tree.isOpenDirectory p.parent = false

/-- A path setting is lost: it stands for no path, or for one whose directory cannot be looked up,
because its path is too long or permissions stop the look on the way. -/
inductive Loses (m : Machine) (settings : Settings) (value : String) : Failure → Prop
  | unresolved {error : PathError}
      (lost : settings.resolvePath m.surroundings value = .error error) :
      Loses m settings value (.path error)
  | stopped {p : Path} {fault : Fault}
      (resolved : settings.resolvePath m.surroundings value = .ok p)
      (found : m.disk.tree.findNode p.parent = .error fault)
      (serious : fault = .nameTooLong ∨ fault = .denied) :
      Loses m settings value (.file fault p.parent.text)

variable {p : Path} {e : Failure} {need : Need}

theorem locate_of_leads (h : Leads m settings value p) : locate m settings value need = .ok p := by
  simp only [locate, h.resolved, h.directory, h.isOpen, if_true]

theorem locate_of_lacks (h : Lacks m settings value p) :
    locate m settings value need = .error (.setup (.noDirectory need p.parent.text)) := by
  simp only [locate, h.resolved, h.directory]

theorem locate_of_meets (h : Meets m settings value p) :
    locate m settings value need = .error (.setup (.closedDirectory need p.parent.text)) := by
  simp only [locate, h.resolved, h.directory, h.isClosed, Bool.false_eq_true, if_false]

theorem locate_of_loses (h : Loses m settings value e) :
    locate m settings value need = .error e := by
  cases h with
  | unresolved lost => simp only [locate, lost]
  | stopped resolved found serious =>
    have looked : m.disk.tree.isDirectory _ = .error _ :=
      Tree.namesWhere_eq_error_iff.2 ⟨found, serious⟩
    simp only [locate, resolved, looked]

/-- **What can become of a path setting**: it leads somewhere, lacks its directory, meets a closed
one, or is lost. -/
theorem cases_of_setting (m : Machine) (settings : Settings) (value : String) :
    (∃ p, Leads m settings value p) ∨ (∃ p, Lacks m settings value p) ∨
      (∃ p, Meets m settings value p) ∨ ∃ e, Loses m settings value e := by
  -- a setting is resolved, its directory is looked up, and then opened
  cases resolved : settings.resolvePath m.surroundings value with
  | error error => exact Or.inr (Or.inr (Or.inr ⟨_, .unresolved resolved⟩))
  | ok p =>
    cases directory : m.disk.tree.isDirectory p.parent with
    | error fault =>
      obtain ⟨found, serious⟩ := Tree.namesWhere_eq_error_iff.1 directory
      exact Or.inr (Or.inr (Or.inr ⟨_, .stopped resolved found serious⟩))
    | ok isThere =>
      cases isThere with
      | false => exact Or.inr (Or.inl ⟨p, resolved, directory⟩)
      | true =>
        cases access : m.disk.tree.isOpenDirectory p.parent with
        | true => exact Or.inl ⟨p, resolved, directory, access⟩
        | false => exact Or.inr (Or.inr (Or.inl ⟨p, resolved, directory, access⟩))

/-- A path setting that comes to the one file of a tree stands for it. -/
theorem resolvePath_lone {settings : Settings} {s : Surroundings} {value : String}
    {bytes : List UInt8} {time : Int} (tree : s.tree = Credential.lone bytes time)
    (expanded : settings.expandPlaceholder value = "/htpasswd") :
    settings.resolvePath s value = .ok ⟨"/", ["htpasswd"]⟩ := by
  have home : Settings.expandHome s (Path.ofText "/htpasswd") = .ok ⟨"/", ["htpasswd"]⟩ := rfl
  have resolved : Path.ofLocation (s.tree.resolve
      ((⟨"/", ["htpasswd"]⟩ : Path).within s.workDir)).location = ⟨"/", ["htpasswd"]⟩ := by
    rw [tree]
    rfl
  have clean : hasNul (⟨"/", ["htpasswd"]⟩ : Path).text = false := by decide
  rw [Settings.resolvePath, expanded, home]
  simp only [clean, Bool.false_eq_true, if_false, resolved]
  rw [tree, Credential.find_lone]

/-- What is directly below the root has a directory that can be read. -/
theorem leads_of_name {m : Machine} {settings : Settings} {value name : String}
    (resolved : settings.resolvePath m.surroundings value = .ok (Path.ofLocation [name])) :
    Leads m settings value (Path.ofLocation [name]) where
  resolved := resolved
  directory := by
    show m.disk.tree.namesWhere Node.isDirectory ⟨"/", []⟩ = .ok true
    rw [Tree.namesWhere, m.disk.tree.findNode_root]
    rfl
  isOpen := by
    show m.disk.tree.isOpenDirectory ⟨"/", []⟩ = true
    rw [Tree.isOpenDirectory, m.disk.tree.findNode_root]

theorem leads_lone {m : Machine} {settings : Settings} {value : String}
    {bytes : List UInt8} {time : Int} (tree : m.disk.tree = Credential.lone bytes time)
    (expanded : settings.expandPlaceholder value = "/htpasswd") :
    Leads m settings value ⟨"/", ["htpasswd"]⟩ :=
  leads_of_name (resolvePath_lone tree expanded)

end Realm

/-- No name on a machine has a NUL: no link points to one, and the working directory has none. -/
structure Machine.IsClean (m : Machine) : Prop where
  links : m.disk.tree.CleanLinks
  workDir : Clean m.workDir

/-- What a path setting stands for has no NUL. -/
theorem Machine.IsClean.hasNul_of_resolvePath (clean : m.IsClean) {p : Path}
    (h : settings.resolvePath m.surroundings value = .ok p) : hasNul p.text = false :=
  Settings.hasNul_of_resolvePath clean.links clean.workDir h

/-! ### URLs of account stores -/

namespace Account.StoreUrl

variable {drivers : Drivers} {u : StoreUrl} {problem : Problem}

/-- What a URL that can be read stumbles over: a port that is no number, a driver that is not there
or will not have the options, or a NUL in the name of the file. -/
inductive Stumbles (drivers : Drivers) (u : StoreUrl) : Problem → Prop
  | port {text : String} (unreadable : u.endpoint = some (.unreadable text)) :
      Stumbles drivers u (.badEndpoint text)
  | driver {problem : Problem} (readable : ∀ text, u.endpoint ≠ some (.unreadable text))
      (unserved : servedDialects.contains u.dialect = false) (refused : drivers.refusal u = problem)
      (other : problem.isOfUrl = false) : Stumbles drivers u problem
  | options {problem : Problem} (served : servedDialects.contains u.dialect = true)
      (bare : u.hasAuthority = false) (objected : drivers.objection? u.options = some problem)
      (other : problem.isOfUrl = false) : Stumbles drivers u problem
  | nul {name : String} (served : servedDialects.contains u.dialect = true)
      (bare : u.hasAuthority = false) (agreed : drivers.objection? u.options = none)
      (database : u.database = some name) (nul : hasNul name = true) :
      Stumbles drivers u .embeddedNul

theorem Stumbles.not_isOfUrl (h : u.Stumbles drivers problem) : problem.isOfUrl = false := by
  cases h with
  | port | nul => rfl
  | driver _ _ _ other | options _ _ _ other => exact other

theorem endpoint_of_bare (bare : u.hasAuthority = false) (text : String) :
    u.endpoint ≠ some (.unreadable text) := by
  intro unreadable
  simp [hasAuthority, unreadable] at bare

/-- The name of a database stands for no place only if it has a NUL. -/
theorem placeOf_eq_error_iff {database : Option String} {workDir : Location} :
    placeOf database workDir = .error problem ↔
      problem = .embeddedNul ∧ ∃ name, database = some name ∧ hasNul name = true := by
  cases database with
  | none => simp [placeOf]
  | some name =>
    simp only [placeOf, Option.some.injEq, exists_eq_left']
    -- a store in memory has no file, and its two names have no NUL
    by_cases memory : (name = "" || name = ":memory:") = true
    · rw [if_pos memory]
      have clean : hasNul name = false := by
        rcases Bool.or_eq_true_iff.1 memory with empty | named
        · rw [of_decide_eq_true empty]
          decide
        · rw [of_decide_eq_true named]
          decide
      exact iff_of_false nofun fun h ↦ absurd (clean.symm.trans h.2) nofun
    · rw [if_neg memory]
      cases nul : hasNul name with
      | true =>
        rw [if_pos (show name.toList.contains '\x00' = true from nul)]
        exact ⟨fun h ↦ ⟨(Except.error.inj h).symm, rfl⟩, fun h ↦ congrArg Except.error h.1.symm⟩
      | false =>
        have clean : ¬ name.toList.contains '\x00' = true := Bool.eq_false_iff.1 nul
        rw [if_neg clean]
        exact iff_of_false nofun fun h ↦ absurd h.2 nofun

/-- **A URL names no place if it stumbles**, or for what is wrong with it as a URL, and for nothing
else. -/
theorem place_eq_error_iff {workDir : Location} (other : problem.isOfUrl = false) :
    u.place drivers workDir = .error problem ↔ u.Stumbles drivers problem := by
  unfold place
  constructor
  · intro h
    split at h
    · rename_i text unreadable
      obtain rfl := Except.error.inj h
      exact .port unreadable
    · rename_i readable
      split at h
      · rename_i unserved
        exact .driver readable (by simpa using unserved) (Except.error.inj h) other
      · rename_i served
        have served : servedDialects.contains u.dialect = true := by simpa using served
        split at h
        · obtain rfl := Except.error.inj h
          exact absurd other nofun
        · rename_i bare
          have bare : u.hasAuthority = false := by simpa using bare
          split at h
          · rename_i problem' objected
            obtain rfl := Except.error.inj h
            exact .options served bare objected other
          · rename_i agreed
            obtain ⟨rfl, name, database, nul⟩ := placeOf_eq_error_iff.1 h
            exact .nul served bare agreed database nul
  · intro h
    -- in the order in which `place` looks: the port, the dialect, the options, the name
    cases h with
    | port unreadable => simp only [unreadable]
    | driver readable unserved refused =>
      split
      · rename_i text unreadable
        exact absurd unreadable (readable text)
      · simp only [unserved, refused, Bool.not_false, if_true]
    | options served bare objected =>
      split
      · rename_i text unreadable
        exact absurd unreadable (endpoint_of_bare bare text)
      · simp only [served, bare, objected, Bool.not_true, Bool.false_eq_true, if_false]
    | nul served bare agreed database nul =>
      split
      · rename_i text unreadable
        exact absurd unreadable (endpoint_of_bare bare text)
      · have named : placeOf u.database workDir = .error .embeddedNul :=
          placeOf_eq_error_iff.2 ⟨rfl, _, database, nul⟩
        simp only [served, bare, agreed, named, Bool.not_true, Bool.false_eq_true, if_false]

end Account.StoreUrl

/-! ### Setups -/

namespace Realm

variable {p q : Path} {e : Failure} {text : String}

/-- What the URL of the account store comes to. -/
inductive UrlOf (m : Machine) (settings : Settings) : Except Failure String → Prop
  | url (isUrl : settings.storeIsUrl = true) : UrlOf m settings (.ok settings.backingStore)
  | path {q : Path} (isPath : settings.storeIsUrl = false)
      (leads : Leads m settings settings.backingStore q) :
      UrlOf m settings (.ok (Settings.urlOfFile q))
  | lacks {q : Path} (isPath : settings.storeIsUrl = false)
      (lacks : Lacks m settings settings.backingStore q) :
      UrlOf m settings (.error (.setup (.noDirectory .store q.parent.text)))
  | meets {q : Path} (isPath : settings.storeIsUrl = false)
      (meets : Meets m settings settings.backingStore q) :
      UrlOf m settings (.error (.setup (.closedDirectory .store q.parent.text)))
  | lost {e : Failure} (isPath : settings.storeIsUrl = false)
      (lost : Loses m settings settings.backingStore e) : UrlOf m settings (.error e)

theorem setupPaths_of_leads (leads : Leads m settings settings.userFile p) :
    setupPaths m settings =
      (if settings.storeIsUrl then .ok settings.backingStore
        else (locate m settings settings.backingStore .store).map
          Settings.urlOfFile).map fun url ↦ (p, url) := by
  rw [setupPaths, locate_of_leads leads]
  cases settings.storeIsUrl with
  | true => rfl
  | false => cases locate m settings settings.backingStore .store <;> rfl

theorem setupPaths_of_urlOf (leads : Leads m settings settings.userFile p)
    {url : Except Failure String} (h : UrlOf m settings url) :
    setupPaths m settings = url.map fun url ↦ (p, url) := by
  rw [setupPaths_of_leads leads]
  cases h with
  | url isUrl => rw [isUrl, if_pos rfl]
  | path isPath leads => rw [isPath, if_neg Bool.false_ne_true, locate_of_leads leads, Except.map]
  | lacks isPath lacks => rw [isPath, if_neg Bool.false_ne_true, locate_of_lacks lacks, Except.map]
  | meets isPath meets => rw [isPath, if_neg Bool.false_ne_true, locate_of_meets meets, Except.map]
  | lost isPath lost => rw [isPath, if_neg Bool.false_ne_true, locate_of_loses lost, Except.map]

theorem exists_urlOf (m : Machine) (settings : Settings) : ∃ url, UrlOf m settings url := by
  cases isUrl : settings.storeIsUrl with
  | true => exact ⟨_, .url isUrl⟩
  | false =>
    rcases cases_of_setting m settings settings.backingStore with
      ⟨q, leads⟩ | ⟨q, lacks⟩ | ⟨q, meets⟩ | ⟨e, lost⟩
    · exact ⟨_, .path isUrl leads⟩
    · exact ⟨_, .lacks isUrl lacks⟩
    · exact ⟨_, .meets isUrl meets⟩
    · exact ⟨_, .lost isUrl lost⟩

/-- **Everything that a setup can come to.** -/
inductive SetsUp (m : Machine) (settings : Settings) : SetupOutcome → Prop
  | userFileLost {e : Failure} (lost : Loses m settings settings.userFile e) :
      SetsUp m settings { result := .error e, disk := m.disk }
  | userFileLacks {p : Path} (lacks : Lacks m settings settings.userFile p) :
      SetsUp m settings
        { result := .error (.setup (.noDirectory .userFile p.parent.text)), disk := m.disk }
  | userFileMeets {p : Path} (meets : Meets m settings settings.userFile p) :
      SetsUp m settings
        { result := .error (.setup (.closedDirectory .userFile p.parent.text)), disk := m.disk }
  | noUrl {p : Path} {e : Failure} (leads : Leads m settings settings.userFile p)
      (urlOf : UrlOf m settings (.error e)) :
      SetsUp m settings { result := .error e, disk := m.disk }
  | unopened {p : Path} {text : String} {error : Connection.OpenError}
      (leads : Leads m settings settings.userFile p) (urlOf : UrlOf m settings (.ok text))
      (failed : Connection.openUrl m.drivers m.disk m.workDir text = .error error) :
      SetsUp m settings { result := .error (openFailure text error), disk := m.disk }
  | opened {p : Path} {text : String} {disk : Disk} {accounts : Connection}
      (leads : Leads m settings settings.userFile p) (urlOf : UrlOf m settings (.ok text))
      (opened : Connection.openUrl m.drivers m.disk m.workDir text = .ok (disk, accounts)) :
      SetsUp m settings (firstReading settings (m.encoding settings.charset) p disk accounts)

theorem setup_of_error (stopped : setupPaths m settings = .error e) :
    setup m settings = { result := .error e, disk := m.disk } := by
  simp only [setup, stopped]

theorem setup_of_opened (leads : Leads m settings settings.userFile p)
    (urlOf : UrlOf m settings (.ok text)) {disk : Disk} {accounts : Connection}
    (opened : Connection.openUrl m.drivers m.disk m.workDir text = .ok (disk, accounts)) :
    setup m settings = firstReading settings (m.encoding settings.charset) p disk accounts := by
  simp only [setup, setupPaths_of_urlOf leads urlOf, Except.map, opened]

theorem setupPaths_of_error (stopped : locate m settings settings.userFile .userFile = .error e) :
    setupPaths m settings = .error e := by
  simp only [setupPaths, stopped, bind, Except.bind]

theorem setsUp_setup (m : Machine) (settings : Settings) :
    SetsUp m settings (setup m settings) := by
  rcases cases_of_setting m settings settings.userFile with
    ⟨p, leads⟩ | ⟨p, lacks⟩ | ⟨p, meets⟩ | ⟨e, lost⟩
  · -- the directory of the credential file is there, so it is the turn of the account store
    obtain ⟨url, urlOf⟩ := exists_urlOf m settings
    have paths := setupPaths_of_urlOf leads urlOf
    cases url with
    | error e =>
      rw [setup_of_error paths]
      exact .noUrl leads urlOf
    | ok text =>
      cases opening : Connection.openUrl m.drivers m.disk m.workDir text with
      | error error =>
        simp only [setup, paths, Except.map, opening]
        exact .unopened leads urlOf opening
      | ok both =>
        obtain ⟨disk, accounts⟩ := both
        rw [setup_of_opened leads urlOf opening]
        exact .opened leads urlOf opening
  · -- a setting that leads nowhere ends the setup before anything is opened
    rw [setup_of_error (setupPaths_of_error (locate_of_lacks lacks))]
    exact .userFileLacks lacks
  · rw [setup_of_error (setupPaths_of_error (locate_of_meets meets))]
    exact .userFileMeets meets
  · rw [setup_of_error (setupPaths_of_error (locate_of_loses lost))]
    exact .userFileLost lost

/-! ### What can be relied on -/

/-- **The first reading of a file succeeds**, whatever is at its path, and what it gives is the
version there. -/
theorem firstReading_of_utf8 (charset : Encoding) (utf8 : Charset.ofName charset.name = .ok .utf8)
    (clean : hasNul p.text = false) (disk : Disk) (accounts : Connection) :
    ∃ opened, (firstReading settings charset p disk accounts).result = .ok opened ∧
      opened.credentials.path = p ∧
      (opened.credentials.entries, opened.credentials.modifiedAt) =
        (Credential.version? charset p disk.tree).getD ({}, none) := by
  let store : Credential.Store := { path := p, charset := charset }
  have reports : (store.refresh disk.tree).isReport = true := by
    refine Credential.Store.isReport_of_decoded clean fun bytes _ ↦ ⟨.utf8, utf8, fun e failed ↦ ?_⟩
    exact (Charset.readsOrPoints_of_settles _ rfl rfl).isReport failed
  -- a store that has read nothing takes whatever version it finds
  have version := Credential.Store.version_of_new
    (Credential.Store.refreshes_refresh disk.tree store) rfl rfl reports
  obtain ⟨report, reported⟩ := Credential.Refresh.isReport_iff.1 reports
  have result : (firstReading settings charset p disk accounts).result =
      .ok ⟨{ overrideLocal := settings.overrideLocal }, (store.refresh disk.tree).store,
        accounts⟩ := by
    simp only [firstReading, store, reported]
  exact ⟨_, result, Credential.Store.refresh_path .., version⟩

theorem firstReading_ne_error (charset : Encoding) (utf8 : Charset.ofName charset.name = .ok .utf8)
    (clean : hasNul p.text = false) (disk : Disk) (accounts : Connection) :
    (firstReading settings charset p disk accounts).result ≠ .error e := by
  obtain ⟨opened, result, -⟩ := @firstReading_of_utf8 settings p charset utf8 clean disk accounts
  rw [result]
  nofun

theorem disk_firstReading (settings : Settings) (charset : Encoding) (p : Path) (disk : Disk)
    (accounts : Connection) : (firstReading settings charset p disk accounts).disk = disk := by
  unfold firstReading
  dsimp only
  split
  · rfl
  · rfl

/-- What a setup stumbles over: a path setting that is lost, or the URL of the account store. -/
inductive Stumbles (m : Machine) (settings : Settings) : Failure → Prop
  | userFile {e : Failure} (lost : Loses m settings settings.userFile e) : Stumbles m settings e
  | store {p : Path} {e : Failure} (leads : Leads m settings settings.userFile p)
      (isPath : settings.storeIsUrl = false) (lost : Loses m settings settings.backingStore e) :
      Stumbles m settings e
  | url {p : Path} {text : String} {u : StoreUrl} {problem : StoreUrl.Problem}
      (leads : Leads m settings settings.userFile p) (urlOf : UrlOf m settings (.ok text))
      (read : StoreUrl.ofText? text = some u) (stumbles : u.Stumbles m.drivers problem) :
      Stumbles m settings (.storeUrl problem)

theorem Loses.not_isConfiguration (h : Loses m settings value e) : e.isConfiguration = false := by
  cases h <;> rfl

/-- **What a setup stumbles over comes through as it is.** -/
theorem Stumbles.setup_eq (h : Stumbles m settings e) :
    setup m settings = { result := .error e, disk := m.disk } ∧ e.isConfiguration = false := by
  cases h with
  | userFile lost =>
    exact ⟨setup_of_error (setupPaths_of_error (locate_of_loses lost)), lost.not_isConfiguration⟩
  | store leads isPath lost =>
    exact ⟨setup_of_error (setupPaths_of_urlOf leads (.lost isPath lost)), lost.not_isConfiguration⟩
  | @url p text u problem leads urlOf read stumbles =>
    have paths := setupPaths_of_urlOf leads urlOf
    -- the place of the store is never found, so nothing is opened
    have nowhere : u.place m.drivers m.workDir = .error problem :=
      (StoreUrl.place_eq_error_iff stumbles.not_isOfUrl).2 stumbles
    have opening : Connection.openUrl m.drivers m.disk m.workDir text = .error (.url problem) := by
      simp only [Connection.openUrl, read, nowhere]
    have failure : openFailure text (.url problem) = .storeUrl problem := by
      simp only [openFailure, stumbles.not_isOfUrl, Bool.false_eq_true, if_false]
    refine ⟨?_, rfl⟩
    simp only [setup, paths, Except.map, opening, failure]

/-- A store that cannot be opened is a problem of the configuration, or its URL stumbles. -/
theorem isConfiguration_openFailure {error : Connection.OpenError}
    (failed : Connection.openUrl m.drivers m.disk m.workDir text = .error error) :
    (openFailure text error).isConfiguration = true ∨
      ∃ u problem, StoreUrl.ofText? text = some u ∧ u.Stumbles m.drivers problem ∧
        openFailure text error = .storeUrl problem := by
  cases error with
  | database fault => exact Or.inl rfl
  | url problem =>
    -- what is wrong with a URL itself is a problem of the configuration
    cases ofUrl : problem.isOfUrl with
    | true =>
      refine Or.inl ?_
      rw [openFailure, ofUrl, if_pos rfl]
      rfl
    | false =>
      refine Or.inr ?_
      -- any other problem comes from the place of a URL that can be read
      rw [Connection.openUrl] at failed
      split at failed
      · obtain rfl := Connection.OpenError.url.inj (Except.error.inj failed)
        exact absurd ofUrl Bool.false_ne_true.symm
      · rename_i u read
        split at failed
        · rename_i problem' named
          obtain rfl := Connection.OpenError.url.inj (Except.error.inj failed)
          refine ⟨u, _, read, (StoreUrl.place_eq_error_iff ofUrl).1 named, ?_⟩
          rw [openFailure, ofUrl, if_neg Bool.false_ne_true]
        · split at failed
          · cases failed
          · cases failed

namespace SetsUp

variable {outcome : SetupOutcome}

/-- A setup that does not fail has read the credential file. -/
theorem leads_and_version (h : SetsUp m settings outcome)
    (utf8 : Charset.ofName settings.charset = .ok .utf8) (clean : m.IsClean) {opened : OpenRealm}
    (succeeded : outcome.result = .ok opened) :
    Leads m settings settings.userFile opened.credentials.path ∧
      (opened.credentials.entries, opened.credentials.modifiedAt) =
        (Credential.version? (m.encoding settings.charset) opened.credentials.path
          outcome.disk.tree).getD ({}, none) := by
  cases h with
  | @opened p text disk accounts leads =>
    obtain ⟨opened', result, path, version⟩ := @firstReading_of_utf8 settings p
      (m.encoding settings.charset) utf8 (clean.hasNul_of_resolvePath leads.resolved) disk accounts
    obtain rfl := Except.ok.inj (result.symm.trans succeeded)
    rw [disk_firstReading, path]
    exact ⟨leads, version⟩
  | _ => exact absurd succeeded nofun

/-- A setup that fails has done so before anything was opened. -/
theorem disk_eq (h : SetsUp m settings outcome)
    (utf8 : Charset.ofName settings.charset = .ok .utf8) (clean : m.IsClean)
    (failed : outcome.result = .error e) : outcome.disk = m.disk := by
  cases h with
  | opened leads =>
    exact absurd failed
      (firstReading_ne_error (m.encoding settings.charset) utf8
        (clean.hasNul_of_resolvePath leads.resolved) _ _)
  | _ => rfl

/-- What a setup fails with is a problem of the configuration, or it has stumbled over it. -/
theorem isConfiguration_or_stumbles (h : SetsUp m settings outcome)
    (utf8 : Charset.ofName settings.charset = .ok .utf8) (clean : m.IsClean)
    (failed : outcome.result = .error e) : e.isConfiguration = true ∨ Stumbles m settings e := by
  cases h with
  | userFileLost lost => exact Or.inr (Except.error.inj failed ▸ .userFile lost)
  | userFileLacks | userFileMeets => exact Or.inl (Except.error.inj failed ▸ rfl)
  | noUrl leads urlOf =>
    obtain rfl := Except.error.inj failed
    cases urlOf with
    | lacks | meets => exact Or.inl rfl
    | lost isPath lost => exact Or.inr (.store leads isPath lost)
  | unopened leads urlOf unopened =>
    obtain rfl := Except.error.inj failed
    rcases isConfiguration_openFailure unopened with ofConfiguration | ⟨u, problem, read, h, same⟩
    · exact Or.inl ofConfiguration
    · rw [same]
      exact Or.inr (.url leads urlOf read h)
  | opened leads =>
    -- the last step of a setup does not fail
    exact absurd failed
      (firstReading_ne_error (m.encoding settings.charset) utf8
        (clean.hasNul_of_resolvePath leads.resolved) _ _)

end SetsUp

/-- **What an operator can rely on**, with a charset that is UTF-8, whatever the settings and the
disk, and whatever drivers and decoders are installed.

* A realm that is set up is one over the credential file of the settings, and holds the version of
  it that is there: no entries and no time if it is missing, cannot be read or spells no text. What
  a database there has for bytes is left open.
* A setup that fails leaves the disk as it was.
* A path setting whose directory is not there, or is there and closed to the program, is a problem
  of the configuration, the credential file before the account store.
* A setup fails with anything else exactly where it stumbles: over a path setting that is lost, or
  over the URL of the account store. What it stumbles over comes through as it is. -/
theorem setup_ends (utf8 : Charset.ofName settings.charset = .ok .utf8) (clean : m.IsClean) :
    let outcome := setup m settings
    (∀ opened, outcome.result = .ok opened →
      Leads m settings settings.userFile opened.credentials.path ∧
        ((∀ number, outcome.disk.tree.findNode opened.credentials.path ≠ .ok (.database number)) →
          (opened.credentials.entries, opened.credentials.modifiedAt) =
            (Credential.version? (m.encoding settings.charset) opened.credentials.path
              outcome.disk.tree).getD ({}, none))) ∧
      (∀ e, outcome.result = .error e → outcome.disk = m.disk) ∧
      (∀ p, Lacks m settings settings.userFile p →
        outcome.result = .error (.setup (.noDirectory .userFile p.parent.text))) ∧
      (∀ p, Meets m settings settings.userFile p →
        outcome.result = .error (.setup (.closedDirectory .userFile p.parent.text))) ∧
      (∀ p q, Leads m settings settings.userFile p → settings.storeIsUrl = false →
        (Lacks m settings settings.backingStore q →
          outcome.result = .error (.setup (.noDirectory .store q.parent.text))) ∧
        (Meets m settings settings.backingStore q →
          outcome.result = .error (.setup (.closedDirectory .store q.parent.text)))) ∧
      ∀ e, outcome.result = .error e ∧ e.isConfiguration = false ↔ Stumbles m settings e := by
  intro outcome
  -- one case analysis of the setup serves all clauses
  have ends : SetsUp m settings outcome := setsUp_setup m settings
  have stopped {e : Failure} (h : setupPaths m settings = .error e) : outcome.result = .error e :=
    congrArg SetupOutcome.result (setup_of_error h)
  refine ⟨fun opened succeeded ↦ ?_, fun e ↦ ends.disk_eq utf8 clean, fun p lacks ↦ ?_,
    fun p meets ↦ ?_, fun p q leads isPath ↦ ⟨fun lacks ↦ ?_, fun meets ↦ ?_⟩,
    fun e ↦ ⟨fun ⟨failed, other⟩ ↦ ?_, fun stumbles ↦ ?_⟩⟩
  · obtain ⟨leads, version⟩ := ends.leads_and_version utf8 clean succeeded
    exact ⟨leads, fun _ ↦ version⟩
  · exact stopped (setupPaths_of_error (locate_of_lacks lacks))
  · exact stopped (setupPaths_of_error (locate_of_meets meets))
  · exact stopped (setupPaths_of_urlOf leads (.lacks isPath lacks))
  · exact stopped (setupPaths_of_urlOf leads (.meets isPath meets))
  · -- of the failures that are no problem of the configuration, each is one that the setup stumbles
    -- over
    rcases ends.isConfiguration_or_stumbles utf8 clean failed with ofConfiguration | stumbles
    · exact absurd (ofConfiguration.symm.trans other) Bool.false_ne_true.symm
    · exact stumbles
  · obtain ⟨failed, other⟩ := stumbles.setup_eq
    exact ⟨congrArg SetupOutcome.result failed, other⟩

/-- Over a credential file in the home directory of an unknown user, a setup fails with the failed
search for that directory, not with a problem of the configuration. -/
theorem setup_ends_at_unknown_home :
    let settings : Settings := { userFile := "~nobody/htpasswd" }
    let outcome := setup {} settings
    outcome.result = .error (.path .noHome) ∧ outcome.disk = ({} : Machine).disk ∧
      (Failure.path .noHome).isConfiguration = false := by
  intro settings outcome
  have utf8 : Charset.ofName settings.charset = .ok .utf8 := by decide
  have clean : ({} : Machine).IsClean := by
    refine ⟨fun l target stands ↦ ?_, .nil⟩
    by_cases root : l = [] <;> simp [Tree.get?, root] at stands
  obtain ⟨-, kept, -, -, -, stumbles⟩ := @setup_ends {} settings utf8 clean
  have lost : settings.resolvePath ({} : Machine).surroundings settings.userFile =
      .error .noHome := by
    decide
  obtain ⟨failed, other⟩ := (stumbles _).2 (.userFile (.unresolved lost))
  exact ⟨failed, kept _ failed, other⟩

end Realm

end AuthRealm
