import AuthRealm.Scenario.Step

/-!
# The state of a scenario

A machine, and what is open on it: credential stores and account stores, each known by its place in
a list that only grows, a realm over two of them, and a service over a realm of its own. At most one
of each is current. A store that is opened becomes the current one; a realm that is already open
stays over the stores it was opened over.

Settings are loaded once and then kept.
-/

namespace AuthRealm.Scenario

open Account

/-- The stores that a realm is over, by their places. -/
structure Stores where
  credentials : Nat
  accounts : Nat
  deriving DecidableEq, Repr

/-- A machine and what is open on it. -/
structure State where
  machine : Machine
  ticks : Nat := 0
  settings : Option Settings := none
  credentials : List Credential.Store := []
  accounts : List Connection := []
  currentCredentials : Option Nat := none
  currentAccounts : Option Nat := none
  realm : Option (Realm × Stores) := none
  service : Option (Http.Service × Stores) := none

/-- What a step leaves behind. -/
structure Outcome (α : Type) where
  result : Except Failure α
  state : State
  log : List LogRecord := []

namespace Outcome

/-- Turns the answer into another. -/
def map {α β : Type} (f : α → β) (o : Outcome α) : Outcome β :=
  { result := o.result.map f, state := o.state, log := o.log }

end Outcome

namespace State

/-- A step that changes nothing. -/
def give {α : Type} (s : State) (result : Except Failure α) : Outcome α :=
  { result := result, state := s }

/-- The state with a disk in place of the machine's. -/
def withDisk (s : State) (disk : Disk) : State :=
  { s with machine := { s.machine with disk := disk } }

/-! ### Stores -/

/-- Opens a credential store, which becomes the current one. -/
def addCredentials (s : State) (store : Credential.Store) : State :=
  { s with
    credentials := s.credentials ++ [store]
    currentCredentials := some s.credentials.length }

/-- Opens an account store, which becomes the current one. -/
def addAccounts (s : State) (store : Connection) : State :=
  { s with
    accounts := s.accounts ++ [store]
    currentAccounts := some s.accounts.length }

/-- The current credential store with its place. -/
def credentialStore? (s : State) : Option (Nat × Credential.Store) := do
  let place ← s.currentCredentials
  return (place, ← s.credentials[place]?)

/-- The current account store with its place. -/
def accountStore? (s : State) : Option (Nat × Connection) := do
  let place ← s.currentAccounts
  return (place, ← s.accounts[place]?)

/-- The stores at two places. -/
def storesAt? (s : State) (stores : Stores) : Option (Credential.Store × Connection) := do
  return (← s.credentials[stores.credentials]?, ← s.accounts[stores.accounts]?)

/-- Opens the stores of a realm. Gives their places too. -/
def addRealm (s : State) (opened : OpenRealm) : State × Stores :=
  let s := (s.addCredentials opened.credentials).addAccounts opened.accounts
  let stores : Stores := ⟨s.credentials.length - 1, s.accounts.length - 1⟩
  ({ s with realm := some (opened.realm, stores) }, stores)

/-! ### Running actions -/

/-- Runs an action over the stores at two places. -/
def runAt {α : Type} (s : State) (stores : Stores) (action : Scene → Action α) : Outcome α :=
  match s.storesAt? stores with
  | none => s.give (.error .notOpen)
  | some (credentials, accounts) =>
    let run := Action.run s.machine credentials accounts action
    let s := s.withDisk run.disk
    { result := run.result
      state := { s with
        credentials := s.credentials.set stores.credentials run.credentials
        accounts := s.accounts.set stores.accounts run.accounts }
      log := run.log }

/-- Runs an action that is about accounts alone over the current account store. -/
def runAccounts {α : Type} (s : State) (action : Scene → Action α) : Outcome α :=
  match s.accountStore? with
  | none => s.give (.error .notOpen)
  | some (place, accounts) =>
    let run := Action.run s.machine { path := {} } accounts action
    let s := s.withDisk run.disk
    { result := run.result
      state := { s with accounts := s.accounts.set place run.accounts }
      log := run.log }

/-- Gives up the connection of an account store. -/
def disconnect (s : State) (place : Nat) : State :=
  { s with accounts := s.accounts.modify place Connection.close }

/-! ### Settings -/

/-- The settings, loaded if they are not yet. -/
def loadSettings (s : State) : Outcome Settings :=
  match s.settings with
  | some settings => s.give (.ok settings)
  | none =>
    match Settings.load s.machine.surroundings [] with
    | .error e => s.give (.error (.settings e))
    | .ok settings =>
      { result := .ok settings
        state := { s with settings := some settings }
        log := [.settingsLoaded settings.baseFolder.text] }

end State

end AuthRealm.Scenario
