import AuthRealm.Credential.Store
import AuthRealm.Timestamp

/-!
# Actions of a realm

What a realm does to its state, with what it logs and how it may fail. The state is exactly what an
operation can change, the credential store and the table of accounts; the file tree, the time and
the condition of the database stand still while an operation runs and are handed in as a `Scene`.

An action that fails keeps what it has done: whoever refreshed the credential store before the
database turned out to be unreachable has refreshed it. That is why the state is part of the outcome
of a failure too.
-/

namespace AuthRealm

open Storage

/-- What stands still while an operation of a realm runs. -/
structure Scene where
  tree : Tree
  now : Timestamp
  databaseFault : Option DatabaseFault := none

/-- What an operation of a realm can change. -/
structure RealmState where
  credentials : Credential.Store
  accounts : Account.Table

/-- What an action leaves behind. -/
structure Outcome (α : Type) where
  result : Except Failure α
  state : RealmState
  log : List LogRecord := []

/-- A step in the work of a realm. -/
def Action (α : Type) : Type := RealmState → Outcome α

namespace Action

/-- Answers and does nothing. -/
protected def pure {α : Type} (a : α) : Action α :=
  fun s ↦ { result := .ok a, state := s }

/-- One action and then another, unless the first fails. -/
protected def bind {α β : Type} (x : Action α) (f : α → Action β) : Action β :=
  fun s ↦
    let first := x s
    match first.result with
    | .error e => { result := .error e, state := first.state, log := first.log }
    | .ok a =>
      let second := f a first.state
      { second with log := first.log ++ second.log }

instance : Monad Action where
  pure := Action.pure
  bind := Action.bind

/-- Fails. -/
def fail {α : Type} (e : Failure) : Action α :=
  fun s ↦ { result := .error e, state := s }

/-- Does what an action does, and hands back its result whether or not it failed. -/
def attempt {α : Type} (x : Action α) : Action (Except Failure α) :=
  fun s ↦
    let outcome := x s
    { result := .ok outcome.result, state := outcome.state, log := outcome.log }

/-- Logs a record. -/
def log (r : LogRecord) : Action Unit :=
  fun s ↦ { result := .ok (), state := s, log := [r] }

/-- The credential store as it is. -/
def credentials : Action Credential.Store :=
  fun s ↦ { result := .ok s.credentials, state := s }

/-- Refreshes the credential store. -/
def refresh (scene : Scene) : Action Credential.Report :=
  fun s ↦
    let r := s.credentials.refresh scene.tree
    { result := r.result, state := { s with credentials := r.store }, log := r.log }

/-- The table of accounts, if the database can be used. -/
def accounts (scene : Scene) : Action Account.Table :=
  fun s ↦
    match scene.databaseFault with
    | some fault => { result := .error (.database fault), state := s }
    | none => { result := .ok s.accounts, state := s }

/-- Puts a table in place of the accounts. -/
def setAccounts (t : Account.Table) : Action Unit :=
  fun s ↦ { result := .ok (), state := { s with accounts := t } }

/-! ### What each action leaves behind -/

@[simp] theorem pure_apply {α : Type} (a : α) (s : RealmState) :
    (pure a : Action α) s = { result := .ok a, state := s } := rfl

theorem bind_apply {α β : Type} (x : Action α) (f : α → Action β) (s : RealmState) :
    (x >>= f) s =
      match (x s).result with
      | .error e => { result := .error e, state := (x s).state, log := (x s).log }
      | .ok a => { f a (x s).state with log := (x s).log ++ (f a (x s).state).log } := rfl

@[simp] theorem fail_apply {α : Type} (e : Failure) (s : RealmState) :
    (fail e : Action α) s = { result := .error e, state := s } := rfl

@[simp] theorem attempt_apply {α : Type} (x : Action α) (s : RealmState) :
    attempt x s = { result := .ok (x s).result, state := (x s).state, log := (x s).log } := rfl

@[simp] theorem log_apply (r : LogRecord) (s : RealmState) :
    log r s = { result := .ok (), state := s, log := [r] } := rfl

@[simp] theorem credentials_apply (s : RealmState) :
    credentials s = { result := .ok s.credentials, state := s } := rfl

@[simp] theorem setAccounts_apply (t : Account.Table) (s : RealmState) :
    setAccounts t s = { result := .ok (), state := { s with accounts := t } } := rfl

@[simp] theorem refresh_accounts (scene : Scene) (s : RealmState) :
    (refresh scene s).state.accounts = s.accounts := rfl

end Action

end AuthRealm
