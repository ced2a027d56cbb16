import AuthRealm.Account.Store
import AuthRealm.Proofs.Account.Table

/-!
# What the operations of an account store leave behind

An action is read through two lemmas, one for each way its first part can end (`Action.bind_of_ok`,
`Action.bind_of_error`). With them each operation of the account store has one equation for its
whole outcome in a scene whose database can be used, and one for a scene whose database cannot:
there every operation fails at once and leaves the state as it is.

`KeepsAccounts` says of an action that it never changes the table, whatever the scene. It is closed
under putting actions together, so for an operation that only asks it is proved part by part,
without a look at what the parts answer.
-/

namespace AuthRealm

open Account Storage

namespace Action

variable {α β : Type} {scene : Scene} {s : RealmState}

theorem bind_of_ok {x : Action α} {f : α → Action β} {a : α} (h : (x s).result = .ok a) :
    (x >>= f) s = { f a (x s).state with log := (x s).log ++ (f a (x s).state).log } := by
  rw [bind_apply, h]

theorem bind_of_error {x : Action α} {f : α → Action β} {e : Failure}
    (h : (x s).result = .error e) :
    (x >>= f) s = { result := .error e, state := (x s).state, log := (x s).log } := by
  rw [bind_apply, h]

theorem refresh_apply (scene : Scene) (s : RealmState) :
    refresh scene s =
      { result := (s.credentials.refresh scene.tree).result
        state := { s with credentials := (s.credentials.refresh scene.tree).store }
        log := (s.credentials.refresh scene.tree).log } := rfl

theorem accounts_of_usable (usable : scene.databaseFault = none) :
    accounts scene s = { result := .ok s.accounts, state := s } := by
  rw [accounts, usable]

theorem accounts_of_fault {fault : DatabaseFault} (broken : scene.databaseFault = some fault) :
    accounts scene s = { result := .error (.database fault), state := s } := by
  rw [accounts, broken]

/-! ### Actions that only ask -/

/-- An action that never changes the table of accounts. -/
def KeepsAccounts (x : Action α) : Prop :=
  ∀ s, (x s).state.accounts = s.accounts

theorem keepsAccounts_pure (a : α) : KeepsAccounts (pure a : Action α) :=
  fun _ ↦ rfl

theorem keepsAccounts_credentials : KeepsAccounts credentials :=
  fun _ ↦ rfl

theorem keepsAccounts_refresh (scene : Scene) : KeepsAccounts (refresh scene) :=
  fun _ ↦ rfl

theorem keepsAccounts_log (r : LogRecord) : KeepsAccounts (log r) :=
  fun _ ↦ rfl

theorem keepsAccounts_accounts (scene : Scene) : KeepsAccounts (accounts scene) := by
  intro s
  cases h : scene.databaseFault with
  | none => rw [accounts_of_usable h]
  | some fault => rw [accounts_of_fault h]

/-- What two actions never change of a state, the one and then the other does not change. -/
theorem view_bind {γ : Type} (view : RealmState → γ) {x : Action α} {f : α → Action β}
    (hx : ∀ s, view (x s).state = view s) (hf : ∀ a s, view (f a s).state = view s)
    (s : RealmState) : view ((x >>= f) s).state = view s := by
  cases h : (x s).result with
  | error e =>
    rw [bind_of_error h]
    exact hx s
  | ok a =>
    rw [bind_of_ok h]
    exact (hf a _).trans (hx s)

theorem KeepsAccounts.bind {x : Action α} {f : α → Action β} (hx : KeepsAccounts x)
    (hf : ∀ a, KeepsAccounts (f a)) : KeepsAccounts (x >>= f) :=
  view_bind RealmState.accounts hx hf

end Action

namespace Account.Store

variable {scene : Scene} {s : RealmState}

/-! ### With a database that can be used -/

section usable

variable (usable : scene.databaseFault = none)

include usable

theorem find?_apply (u : String) :
    find? scene u s = { result := .ok (s.accounts.find? u), state := s } := by
  simp [find?, Action.bind_apply, Action.accounts_of_usable usable]

theorem findByCookie?_apply (cookie : String) :
    findByCookie? scene cookie s =
      { result := .ok (s.accounts.findByCookie? cookie), state := s } := by
  by_cases h : cookie = ""
  · simp [findByCookie?, h, Table.findByCookie?]
  · simp [findByCookie?, h, Action.bind_apply, Action.accounts_of_usable usable]

theorem isLocal_apply (u : String) :
    isLocal scene u s = { result := .ok (s.accounts.isLocal u), state := s } := by
  simp [isLocal, Action.bind_apply, Action.accounts_of_usable usable]

end usable

/-- The row with which a name and a password log in: that of the name, if the password is the row's
own and the account is active. -/
def login? (t : Table) (u p : String) : Option Row :=
  (t.find? u).filter fun row ↦ passwordMatches row p && row.isActive

theorem login?_eq_some_iff {t : Table} {u p : String} {row : Row} :
    login? t u p = some row ↔
      t.find? u = some row ∧ passwordMatches row p = true ∧ row.isActive = true := by
  rw [login?, Option.filter_eq_some_iff, Bool.and_eq_true]

/-- The password of an account is checked against a hash that is there and is not the sentinel. -/
theorem passwordMatches_eq_true_iff {row : Row} {p : String} :
    passwordMatches row p = true ↔ ∃ hash, row.hashedPassword = some hash ∧ hash ≠ "" ∧
      hash ≠ externalSentinel ∧ Password.verify p hash = true := by
  cases h : row.hashedPassword <;> simp [passwordMatches, h, and_assoc]

theorem authenticate_apply (usable : scene.databaseFault = none) (u p : String) :
    authenticate scene u p s =
      match login? s.accounts u p with
      | none => { result := .ok none, state := s }
      | some row =>
        { result := .ok (some row.record)
          state := { s with accounts := s.accounts.stampLogin scene.now.text u }
          log := [.localLogin u] } := by
  cases hf : s.accounts.find? u with
  | none => simp [authenticate, login?, hf, Action.bind_apply, Action.accounts_of_usable usable]
  | some row =>
    by_cases hm : passwordMatches row p = true ∧ row.isActive = true
    · simp [authenticate, login?, hf, hm, Action.bind_apply, Action.accounts_of_usable usable,
        stampLogin, Option.filter]
    · simp [authenticate, login?, hf, hm, Action.bind_apply, Action.accounts_of_usable usable,
        Option.filter]

/-- What the table accepts is written, be it a new account, -/
theorem create_apply (usable : scene.databaseFault = none) {record : Record} {t : Table} {id : Nat}
    (accepted : s.accounts.create scene.now.text record = .ok (t, id)) :
    create scene record s = { result := .ok id, state := { s with accounts := t } } := by
  simp [create, Action.bind_apply, Action.accounts_of_usable usable, accepted]

/-- or one that may be there already. -/
theorem update_apply (usable : scene.databaseFault = none) {record written : Record} {t : Table}
    (accepted : s.accounts.upsert scene.now.text record = .ok (t, written)) :
    update scene record s = { result := .ok written, state := { s with accounts := t } } := by
  simp [update, Action.bind_apply, Action.accounts_of_usable usable, accepted]

/-- What the table refuses changes nothing, be it a new account, -/
theorem create_refused (usable : scene.databaseFault = none) {record : Record} {refusal : Refusal}
    (refused : s.accounts.create scene.now.text record = .error refusal) :
    create scene record s = { result := .error (.refusedWrite refusal), state := s } := by
  simp [create, Action.bind_apply, Action.accounts_of_usable usable, refused]

/-- or one that may be there already; that is tried twice. -/
theorem update_refused (usable : scene.databaseFault = none) {record : Record} {refusal : Refusal}
    (refused : s.accounts.upsert scene.now.text record = .error refusal) :
    update scene record s =
      { result := .error (.refusedWrite refusal), state := s
        log := [.retriedWrite record.username] } := by
  simp [update, Action.bind_apply, Action.accounts_of_usable usable, refused]

/-! ### With a database that cannot -/

section broken

variable {fault : DatabaseFault} (broken : scene.databaseFault = some fault)

include broken

theorem find?_of_fault (u : String) :
    find? scene u s = { result := .error (.database fault), state := s } := by
  simp [find?, Action.bind_apply, Action.accounts_of_fault broken]

theorem isLocal_of_fault (u : String) :
    isLocal scene u s = { result := .error (.database fault), state := s } := by
  simp [isLocal, Action.bind_apply, Action.accounts_of_fault broken]

/-- An empty cookie is not looked up, so it finds nothing without a database too. -/
theorem findByCookie?_of_fault (cookie : String) (row : Row) :
    (findByCookie? scene cookie s).result ≠ .ok (some row) := by
  by_cases h : cookie = "" <;>
    simp [findByCookie?, h, Action.bind_apply, Action.accounts_of_fault broken]

end broken

/-- Looking for a cookie changes nothing and logs nothing, in any scene. -/
theorem findByCookie?_eq (scene : Scene) (cookie : String) (s : RealmState) :
    findByCookie? scene cookie s =
      { result := (findByCookie? scene cookie s).result, state := s, log := [] } := by
  by_cases h : cookie = ""
  · simp [findByCookie?, h]
  · cases fault : scene.databaseFault with
    | none => simp [findByCookie?, h, Action.bind_apply, Action.accounts_of_usable fault]
    | some broken => simp [findByCookie?, h, Action.bind_apply, Action.accounts_of_fault fault]

/-- The row that is found is one of the table. -/
theorem mem_of_findByCookie? {cookie : String} {row : Row}
    (found : (findByCookie? scene cookie s).result = .ok (some row)) : row ∈ s.accounts.rows := by
  cases fault : scene.databaseFault with
  | some broken => exact absurd found (findByCookie?_of_fault fault cookie row)
  | none =>
    rw [findByCookie?_apply fault] at found
    exact (Table.mem_of_findByCookie? (Except.ok.inj found)).1

/-! ### Questions leave the table alone -/

theorem keepsAccounts_isLocal (scene : Scene) (u : String) :
    Action.KeepsAccounts (isLocal scene u) :=
  (Action.keepsAccounts_accounts scene).bind fun _ ↦ Action.keepsAccounts_pure _

theorem keepsAccounts_findByCookie? (scene : Scene) (cookie : String) :
    Action.KeepsAccounts (findByCookie? scene cookie) := by
  by_cases h : cookie = ""
  · simp only [findByCookie?, h, if_true]
    exact Action.keepsAccounts_pure _
  · simp only [findByCookie?, h, if_false]
    exact (Action.keepsAccounts_accounts scene).bind fun _ ↦ Action.keepsAccounts_pure _

end Account.Store

end AuthRealm
