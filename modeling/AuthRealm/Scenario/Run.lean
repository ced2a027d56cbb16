import AuthRealm.Scenario.State

/-!
# Running a scenario

What each step does to the state, what it answers and what it logs. `step` carries out one step, and
`run` a list of them; a step that fails does not keep the next from being carried out.
-/

namespace AuthRealm.Scenario

open Account Storage

namespace State

/-! ### The machine -/

/-- A path of a step, read from the working directory. -/
def pathOf (s : State) (path : String) : Path :=
  (Path.ofText path).within s.machine.workDir

/-- The state in which one more change is counted. -/
def tick (s : State) : State :=
  { s with ticks := s.ticks + 1 }

/-- The time of a change: the one given, or one that grows with each change. -/
def timeOf (s : State) (time : Option Int) : Int :=
  time.getD ((1700000000 + s.ticks) * 1000000000)

/-- The state with a tree in place of the machine's, unless the change failed. -/
def changeTree (s : State) (path : String) (tree : Except Fault Tree) : Outcome Answer :=
  match tree with
  | .ok tree => (s.withDisk { s.machine.disk with tree := tree }).give (.ok .done)
  | .error fault => s.give (.error (.file fault (s.pathOf path).text))

/-- The environment with a variable set. -/
def setVariable (environment : List (String × String)) (v : String × String) :
    List (String × String) :=
  environment.filter (·.1 != v.1) ++ [v]

/-- Carries out a change of the machine. -/
def machineStep (s : State) : MachineStep → Outcome Answer
  | .write path bytes time =>
    let s := s.tick
    s.changeTree path (s.machine.disk.tree.writeFile (s.pathOf path) bytes (s.timeOf time))
  | .touch path time =>
    let s := s.tick
    s.changeTree path (.ok (s.machine.disk.tree.setTime (s.pathOf path) (s.timeOf time)))
  | .makeDirectory path time =>
    let s := s.tick
    s.changeTree path (s.machine.disk.tree.makeDirectory (s.pathOf path) (s.timeOf time))
  | .remove path => s.changeTree path (.ok (s.machine.disk.tree.remove (s.pathOf path)))
  | .link path target =>
    s.changeTree path (s.machine.disk.tree.makeLink (s.pathOf path) target)
  | .permit path readable searchable =>
    s.changeTree path (s.machine.disk.tree.permit (s.pathOf path) readable searchable)
  | .environment set unset =>
    let environment := set.foldl setVariable s.machine.environment
    let environment := environment.filter fun v ↦ !unset.contains v.1
    State.give { s with machine := { s.machine with environment := environment } } (.ok .done)
  | .clock now => State.give { s with machine := { s.machine with now := now } } (.ok .done)

/-! ### The credential store -/

/-- Looks into the current credential store. -/
def inspect (s : State) (f : Credential.Store → Answer) : Outcome Answer :=
  match s.credentialStore? with
  | none => s.give (.error .notOpen)
  | some (_, store) => s.give (.ok (f store))

/-- Refreshes the current credential store. -/
def refresh (s : State) : Outcome Answer :=
  match s.credentialStore? with
  | none => s.give (.error .notOpen)
  | some (place, store) =>
    let r := store.refresh s.machine.disk.tree
    { result := r.result.map fun report ↦ .refreshed report store.path
      state := { s with credentials := s.credentials.set place r.store }
      log := r.log }

/-- How reports name a credential store. -/
def describeCredentials (store : Credential.Store) : String :=
  "CredentialStore(" ++ Text.quoted store.path.text ++ ")"

/-- Carries out a use of the credential store. -/
def credentialStep (s : State) : CredentialStep → Outcome Answer
  | .openFile path charset =>
    let store : Credential.Store := { path := s.pathOf path, charset := s.machine.encoding charset }
    (s.addCredentials store).give (.ok (.text (describeCredentials store)))
  | .refresh => s.refresh
  | .secret username => s.inspect fun store ↦ .text (store.secret? username)
  | .lists username => s.inspect fun store ↦ .truth (store.lists username)
  | .usernames => s.inspect fun store ↦ .texts store.entries.usernames
  | .entries => s.inspect fun store ↦ .pairs store.entries.size store.entries.sorted
  | .modifiedAt => s.inspect fun store ↦ .number store.modifiedAt

/-! ### The account store -/

/-- The place of the database that stores have unless they are given another. -/
def usualDatabase (s : State) : Path :=
  s.pathOf "users.db"

/-- Opens an account store. -/
def openAccounts (s : State) (url : String) : Outcome Answer :=
  match Connection.openUrl s.machine.drivers s.machine.disk s.machine.workDir url with
  | .error (.url problem) => s.give (.error (.storeUrl problem))
  | .error (.database fault) => s.give (.error (.database fault))
  | .ok (disk, store) =>
    ((s.withDisk disk).addAccounts store).give (.ok (.text store.describe))

/-- Runs an action for a draft, once it is known which account it describes. -/
def withDraft (s : State) (draft : Draft) (action : Record → Scene → Action Answer) :
    Outcome Answer :=
  match draft.resolve with
  | .error e => s.give (.error e)
  | .ok record => s.runAccounts (action record)

/-- Gives up the connection of the current account store, if there is one. -/
def disconnectCurrent (s : State) : State :=
  match s.currentAccounts with
  | some place => s.disconnect place
  | none => s

/-- Puts a directory in the place of the usual database, so that it cannot be opened any more. -/
def destroyDatabase (s : State) : Outcome Answer :=
  let s := s.disconnectCurrent
  let tree := s.machine.disk.tree.remove s.usualDatabase
  match tree.makeDirectories none [] s.usualDatabase.names with
  | .ok tree => (s.withDisk { s.machine.disk with tree := tree }).give (.ok .done)
  | .error fault => s.give (.error (.file fault s.usualDatabase.text))

/-- Carries out a use of the account store. -/
def accountStep (s : State) : AccountStep → Outcome Answer
  | .openUrl url => s.openAccounts (url.getD ("sqlite:///" ++ s.usualDatabase.text))
  | .create draft => s.withDraft draft fun record scene ↦ do
      return .number (some (← Store.create scene record))
  | .update draft => s.withDraft draft fun record scene ↦ do
      return .written (← Store.update scene record)
  | .find username => s.runAccounts fun scene ↦ do
      return .record ((← Store.find? scene username).map Row.record)
  | .findByCookie cookie => s.runAccounts fun scene ↦ do
      return .record ((← Store.findByCookie? scene cookie).map Row.record)
  | .list => s.runAccounts fun scene ↦ do
      return .records ((← Store.list scene).map Row.record)
  | .hasUsers => s.runAccounts fun scene ↦ do return .truth (← Store.hasUsers scene)
  | .delete username => s.runAccounts fun scene ↦ do return .truth (← Store.delete scene username)
  | .isLocal username => s.runAccounts fun scene ↦ do
      return .truth (← Store.isLocal scene username)
  | .authenticate username password => s.runAccounts fun scene ↦ do
      return .record (← Store.authenticate scene username password)
  | .stampLogin username => s.runAccounts fun scene ↦ do
      Store.stampLogin scene username
      return .done
  | .close => s.disconnectCurrent.give (.ok .done)
  | .destroy => s.destroyDatabase

/-! ### The realm -/

/-- Opens a realm over the current stores. -/
def openRealm (s : State) (realm : Realm) : Outcome Answer :=
  match s.credentialStore?, s.accountStore? with
  | some (i, credentials), some (j, _) =>
    State.give { s with realm := some (realm, ⟨i, j⟩) }
      (.ok (.text (some (Realm.describe credentials))))
  | _, _ => s.give (.error .notOpen)

/-- Sets up a realm from settings. -/
def setupRealm (s : State) (settings : Settings) : Outcome (OpenRealm × Stores) :=
  let setup := Realm.setup s.machine settings
  let s := s.withDisk setup.disk
  match setup.result with
  | .error e => { result := .error e, state := s, log := setup.log }
  | .ok opened =>
    let (s, stores) := s.addRealm opened
    { result := .ok (opened, stores), state := s, log := setup.log }

/-- What a setup answers. -/
def setupAnswer (opened : OpenRealm) : Answer :=
  .opened (Realm.describe opened.credentials) opened.accounts.describe
    opened.credentials.entries.size opened.realm.overrideLocal

/-- Runs an action of the realm. -/
def runRealm (s : State) (action : Realm → Scene → Action Answer) : Outcome Answer :=
  match s.realm with
  | none => s.give (.error .notOpen)
  | some (realm, stores) => s.runAt stores (action realm)

/-- Looks at the credential store of the realm. -/
def inspectRealm (s : State) (f : Credential.Store → Except Failure Answer) : Outcome Answer :=
  match s.realm.bind fun r ↦ s.storesAt? r.2 with
  | none => s.give (.error .notOpen)
  | some (credentials, _) => s.give (f credentials)

/-- Carries out a use of the realm. -/
def realmStep (s : State) : RealmStep → Outcome Answer
  | .openOver realm => s.openRealm realm
  | .setup arguments =>
    match Settings.load s.machine.surroundings arguments with
    | .error e => s.give (.error (.settings e))
    | .ok settings => (s.setupRealm settings).map fun r ↦ setupAnswer r.1
  | .isLocal username => s.runRealm fun realm scene ↦ do
      return .truth (← realm.isLocal scene username)
  | .authenticate username password => s.runRealm fun realm scene ↦ do
      return .record (← realm.authenticate scene username password)
  | .authenticateCookie cookie => s.runRealm fun _ scene ↦ do
      return .record (← Realm.authenticateCookie scene cookie)
  | .changePassword => s.inspectRealm fun store ↦ .error (.readOnly store.path.text)
  | .info => s.inspectRealm fun store ↦ .ok (.info (Realm.describe store) store.entries.size)
  | .close =>
    match s.realm with
    | none => s.give (.error .notOpen)
    | some (_, stores) => (s.disconnect stores.accounts).give (.ok .done)

/-! ### Commands and the service -/

/-- Runs a request of a command line with the settings that its options leave. -/
def runRequest (s : State) (i : Command.Invocation) (request : Command.Request)
    (password : String) : Outcome Answer :=
  let loaded := s.loadSettings
  match loaded.result with
  | .error e => { result := .error e, state := loaded.state, log := loaded.log }
  | .ok settings =>
    let finished := request.run s.machine (i.override settings) password
    { result := finished.result.map .command
      state := loaded.state.withDisk finished.disk
      log := loaded.log ++ finished.log }

/-- Runs a command line. -/
def runCommand (s : State) (arguments : List String) (password : String) : Outcome Answer :=
  match Command.parse arguments with
  | .error stop => s.give (.ok (.command stop.report))
  | .ok i =>
    match i.request with
    | none => s.give (.ok (.command (Command.Stop.report (.help .program))))
    | some request => s.runRequest i request password

/-- Starts the service: over settings that are loaded if they are not yet, with a realm that is set
up for it, and with no request counted. -/
def startService (s : State) : Outcome Answer :=
  let loaded := s.loadSettings
  match loaded.result with
  | .error e => { result := .error e, state := loaded.state, log := loaded.log }
  | .ok settings =>
    if settings.allowedHosts.all Http.Host.isPattern then
      let opened := loaded.state.setupRealm settings
      match opened.result with
      | .error e => { result := .error e, state := opened.state, log := loaded.log ++ opened.log }
      | .ok (realm, stores) =>
        { result := .ok .done
          state := { opened.state with
            service := some (Http.Service.ofSettings settings realm.realm, stores) }
          log := loaded.log ++ opened.log }
    else { result := .error .hostPattern, state := loaded.state, log := loaded.log }

/-- Sends a request to the service. -/
def sendRequest (s : State) (request : Http.Request) : Outcome Answer :=
  match s.service with
  | none => s.give (.error .notOpen)
  | some (service, stores) =>
    let sent := s.runAt stores fun scene ↦ service.respond scene request
    match sent.result with
    | .error e => { result := .error e, state := sent.state, log := sent.log }
    | .ok (service, response) =>
      { result := .ok (.response response)
        state := { sent.state with service := some (service, stores) }
        log := sent.log }

/-! ### Whole scenarios -/

/-- Carries out a step. -/
def step (s : State) : Step → Outcome Answer
  | .machine m => s.machineStep m
  | .settings => s.loadSettings.map .settings
  | .credentials c => s.credentialStep c
  | .accounts a => s.accountStep a
  | .realm r => s.realmStep r
  | .command arguments password => s.runCommand arguments password
  | .startService => s.startService
  | .request r => s.sendRequest r

/-- Carries out steps, each in the state that the one before it leaves. -/
def run (s : State) : List Step → List (Except Failure Answer × List LogRecord)
  | [] => []
  | x :: xs =>
    let o := s.step x
    (o.result, o.log) :: run o.state xs

end State

end AuthRealm.Scenario
