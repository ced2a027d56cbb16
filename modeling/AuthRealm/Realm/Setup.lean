import AuthRealm.Account.Database
import AuthRealm.Realm.Authenticate

/-!
# Setting up a realm

From settings to a realm over an account store and a credential file. The directories of both have
to exist and to be open to the program; the account store is opened and given a table if it has
none; the credential file is then read for the first time. A credential file that is missing or
cannot be read does not stop the setup.

The directories are checked before anything is opened, so a setup that stops there leaves the disk
as it was.
-/

namespace AuthRealm

open Account Storage

/-- Where settings are put to work: the disk, what the meaning of paths and stamps depends on, and
the drivers and decoders that are installed. -/
structure Machine where
  disk : Disk := {}
  workDir : Location := []
  environment : List (String × String) := []
  homes : List (String × String) := []
  ownHome : String := "/root"
  now : Timestamp := ⟨2024, 1, 1, 0, 0, 0, 0⟩
  drivers : StoreUrl.Drivers := {}
  decoders : Text.Decoders := {}
  deriving Repr

/-- What the meaning of a path depends on. -/
def Machine.surroundings (m : Machine) : Surroundings :=
  ⟨m.disk.tree, m.workDir, m.environment, m.homes, m.ownHome⟩

/-- The encoding of a name on a machine. -/
def Machine.encoding (m : Machine) (name : String) : Text.Encoding :=
  ⟨name, m.decoders⟩

/-- A realm with its stores. -/
structure OpenRealm where
  realm : Realm
  credentials : Credential.Store
  accounts : Connection
  deriving Repr

/-- The outcome of a setup: the disk after it, what was logged, and the realm with the number of its
credential entries. -/
structure SetupOutcome where
  result : Except Failure OpenRealm
  disk : Disk
  log : List LogRecord := []

namespace Realm

/-- How reports name a realm over a credential store. -/
def describe (credentials : Credential.Store) : String :=
  "HtpasswdRealm(" ++ Text.quoted credentials.path.text ++ ")"

/-- The path that a path setting stands for, once its directory is known to exist and to be open. -/
def locate (m : Machine) (settings : Settings) (value : String) (need : Need) :
    Except Failure Path :=
  match settings.resolvePath m.surroundings value with
  | .error e => .error (.path e)
  | .ok p =>
    match m.disk.tree.isDirectory p.parent with
    | .error fault => .error (.file fault p.parent.text)
    | .ok false => .error (.setup (.noDirectory need p.parent.text))
    | .ok true =>
      if m.disk.tree.isOpenDirectory p.parent then .ok p
      else .error (.setup (.closedDirectory need p.parent.text))

/-- The paths and the URL of a setup, once the directories are known to be there. -/
def setupPaths (m : Machine) (settings : Settings) : Except Failure (Path × String) := do
  let userFile ← locate m settings settings.userFile .userFile
  if settings.storeIsUrl then return (userFile, settings.backingStore)
  let store ← locate m settings settings.backingStore .store
  return (userFile, Settings.urlOfFile store)

/-- The failure of a setup whose account store cannot be opened. -/
def openFailure (url : String) : Connection.OpenError → Failure
  | .url problem =>
    if problem.isOfUrl then .setup (.unusableUrl url problem) else .storeUrl problem
  | .database fault => .setup (.unreachableStore url fault)

/-- The end of a setup: the credential file is read for the first time. -/
def firstReading (settings : Settings) (charset : Text.Encoding) (userFile : Path) (disk : Disk)
    (accounts : Connection) : SetupOutcome :=
  let refresh := Credential.Store.refresh disk.tree { path := userFile, charset := charset }
  let log := .backedBy accounts.describe :: refresh.log
  match refresh.result with
  | .error e => { result := .error e, disk := disk, log := log }
  | .ok report =>
    { result := .ok ⟨{ overrideLocal := settings.overrideLocal }, refresh.store, accounts⟩
      disk := disk
      log := log ++ [.setUp report.size userFile.text report.status.name] }

/-- Sets up a realm. -/
def setup (m : Machine) (settings : Settings) : SetupOutcome :=
  match setupPaths m settings with
  | .error e => { result := .error e, disk := m.disk }
  | .ok (userFile, url) =>
    match Connection.openUrl m.drivers m.disk m.workDir url with
    | .error e => { result := .error (openFailure url e), disk := m.disk }
    | .ok (disk, accounts) =>
      firstReading settings (m.encoding settings.charset) userFile disk accounts

end Realm

/-! ### Running actions -/

/-- The outcome of an action on a machine. -/
structure Run (α : Type) where
  result : Except Failure α
  disk : Disk
  credentials : Credential.Store
  accounts : Connection
  log : List LogRecord

/-- Runs an action over a credential store and an account store. A database that cannot be reached
only matters once the action needs it. -/
def Action.run {α : Type} (m : Machine) (credentials : Credential.Store) (accounts : Connection)
    (action : Scene → Action α) : Run α :=
  match accounts.connect m.disk with
  | .ok (disk, accounts, number) =>
    let outcome := action ⟨disk.tree, m.now, none⟩ ⟨credentials, disk.table number⟩
    { result := outcome.result
      disk := disk.setTable number outcome.state.accounts
      credentials := outcome.state.credentials
      accounts := accounts
      log := outcome.log }
  | .error fault =>
    let outcome := action ⟨m.disk.tree, m.now, some fault⟩ ⟨credentials, {}⟩
    { result := outcome.result
      disk := m.disk
      credentials := outcome.state.credentials
      accounts := accounts
      log := outcome.log }

end AuthRealm
