import AuthRealm.Command.Arguments
import AuthRealm.Realm.Setup

/-!
# Running a command

What the commands print. `users` lists the user names of the credential file with the scheme that
each secret claims, and never a secret; `check` asks for a password and tries a login in a realm
that is set up for it. Neither needs a service that is running.

Options that are given, and not empty, take the place of settings; they are taken as they stand.
-/

namespace AuthRealm.Command

open Storage Text

/-- What a command leaves on the terminal. -/
structure Report where
  exitCode : Nat
  output : String := ""
  errors : String := ""
  prompts : List String := []
  deriving DecidableEq, Repr

/-- The outcome of a command: its report, or the failure that ended it. -/
structure Finished where
  result : Except Failure Report
  disk : Account.Disk
  log : List LogRecord := []

/-- A line with a complaint. -/
def complaint (text : String) : String :=
  "  [!] " ++ text ++ "\n"

/-- Settings with the options of an invocation in place of what they override. -/
def Invocation.override (i : Invocation) (settings : Settings) : Settings :=
  let folder := i.baseFolder.getD ""
  let file := i.userFile.getD ""
  { settings with
    baseFolder := if folder = "" then settings.baseFolder else Path.ofText folder
    userFile := if file = "" then settings.userFile else file }

/-! ### Listing the users -/

/-- What the listing says of a secret. Traditional secrets and cleartext look alike. -/
def secretLabel (secret : String) : String :=
  let scheme := Secret.identify secret
  if scheme = .crypt && secret.toList.head? != some '$' then "crypt/plain" else scheme.name

/-- A text with blanks behind it up to a width. -/
def padded (width : Nat) (s : String) : String :=
  s ++ String.ofList (List.replicate (width - s.length) ' ')

/-- The line of a user. -/
def userLine (username secret : String) : String :=
  "  " ++ padded 24 username ++ " " ++ secretLabel secret ++ "\n"

/-- The listing of a credential store. -/
def listing (store : Credential.Store) : String :=
  "\n" ++ store.path.text ++ " -- " ++ toString store.entries.size ++ " user(s)\n" ++
    String.ofList (List.replicate 40 '─') ++ "\n" ++
    String.join (store.entries.sorted.map fun e ↦ userLine e.1 e.2) ++ "\n"

/-- The report of a refreshed store. -/
def usersReport (store : Credential.Store) (status : Credential.Status) : Report :=
  match status with
  | .missing => ⟨1, complaint ("htpasswd file not found: " ++ store.path.text), "", []⟩
  | .failed reason =>
    ⟨1, complaint (Credential.readErrorMessage store.path.text reason), "", []⟩
  | _ => ⟨0, listing store, "", []⟩

/-- Lists the users of the credential file. -/
def listUsers (m : Machine) (settings : Settings) : Finished :=
  match settings.userFilePath m.surroundings with
  | .error e => { result := .error (.path e), disk := m.disk }
  | .ok path =>
    let refresh := Credential.Store.refresh m.disk.tree
      { path := path, charset := m.encoding settings.charset }
    { result := refresh.result.map fun r ↦ usersReport refresh.store r.status
      disk := m.disk
      log := refresh.log }

/-! ### Trying a login -/

/-- What is asked of the user. -/
def passwordPrompt (username : String) : String :=
  "Password for " ++ username ++ ": "

/-- Whether a user name is local, and the outcome of a login. -/
def tryLogin (realm : Realm) (username password : String) (scene : Scene) :
    Action (Bool × Option Account.Record) := do
  let isLocal ← realm.isLocal scene username
  let record ← realm.authenticate scene username password
  return (isLocal, record)

/-- The report of a login. -/
def checkReport (username : String) : Bool × Option Account.Record → Report
  | (_, none) =>
    ⟨1, "  [x] Authentication failed for '" ++ username ++ "'.\n", "", [passwordPrompt username]⟩
  | (isLocal, some record) =>
    let source := if isLocal then "backing store" else "htpasswd file"
    ⟨0, "  [ok] '" ++ record.username ++ "' authenticated via " ++ source ++ " (" ++
      record.kind.text ++ " account).\n", "", [passwordPrompt username]⟩

/-- Tries a login. A realm that cannot be set up is a complaint, and no password is asked for. -/
def checkLogin (m : Machine) (settings : Settings) (username password : String) : Finished :=
  let setup := Realm.setup m settings
  match setup.result with
  | .error (.setup problem) =>
    { result := .ok ⟨2, complaint problem.message, "", []⟩, disk := setup.disk, log := setup.log }
  | .error e => { result := .error e, disk := setup.disk, log := setup.log }
  | .ok opened =>
    let run := Action.run { m with disk := setup.disk } opened.credentials opened.accounts
      (tryLogin opened.realm username password)
    { result := run.result.map (checkReport username)
      disk := run.disk
      log := setup.log ++ run.log }

/-! ### Whole command lines -/

/-- The report of a command line that leads to no command. -/
def Stop.report : Stop → Report
  | .help topic => ⟨0, topic.help, "", []⟩
  | .misuse topic problem => ⟨2, "", problem.report topic, []⟩

/-- Runs a request. The password is what the user would enter. -/
def Request.run (r : Request) (m : Machine) (settings : Settings) (password : String) : Finished :=
  match r with
  | .users => listUsers m settings
  | .check username => checkLogin m settings username password

end AuthRealm.Command
