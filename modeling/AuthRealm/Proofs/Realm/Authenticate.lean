import AuthRealm.Proofs.Account.Store
import AuthRealm.Proofs.Credential.Refresh
import AuthRealm.Realm.Authenticate

/-!
# What a login leaves behind

A login asks twice: whether the name is local, and then whoever is in charge of it. Each of the two
may refresh the credential store, so a login may read the credential file twice. Since the second
refresh finds nothing new, both questions are answered from one store, the one that a single refresh
leaves (`RealmState.refreshed`), and a login comes down to a choice between two tables of cases:

* the name is **taken as local** (`takesLocal`): the account store decides, and a success notes the
  time of the login (`authenticate_of_local`);
* it is not: the credential file decides, and a success writes one record back
  (`authenticate_of_external`, with `externalLogin` for the table and the record).

Both hold where the database can be used and, if the file is looked at at all, reading it gives a
report (`readsFile`). Elsewhere a login hands back no record and leaves the table alone. `Ends`
puts the three together for every scene (`ends_authenticate`): a login that succeeds does so in one
of two ways, each with the whole state that it leaves (`Entry`). `Login` is **everything a login can
do** to the table. A cookie is simpler, since nothing is ever written for it
(`eq_some_of_authenticateCookie`).
-/

namespace AuthRealm

open Account Storage

/-- The state after the credential store has been refreshed. -/
def RealmState.refreshed (s : RealmState) (tree : Tree) : RealmState :=
  { s with credentials := (s.credentials.refresh tree).store }

@[simp] theorem RealmState.accounts_refreshed (s : RealmState) (tree : Tree) :
    (s.refreshed tree).accounts = s.accounts := rfl

@[simp] theorem RealmState.refreshed_refreshed (s : RealmState) (tree : Tree) :
    (s.refreshed tree).refreshed tree = s.refreshed tree := by
  simp only [refreshed, Credential.Store.refresh_refresh_store]

namespace Realm

variable {realm : Realm} {scene : Scene} {s : RealmState} {u p : String}

/-! ### Who is in charge of a name -/

/-- Whether a name is taken as local, with a credential store that is up to date. -/
def takesLocal (realm : Realm) (credentials : Credential.Store) (accounts : Table)
    (u : String) : Bool :=
  !(realm.overrideLocal && credentials.lists u) && accounts.isLocal u

/-- Whether a login of a name looks at the credential file. -/
def readsFile (realm : Realm) (accounts : Table) (u : String) : Bool :=
  realm.overrideLocal || !accounts.isLocal u

/-- The state once it is known whether a name is local. -/
def located (realm : Realm) (scene : Scene) (s : RealmState) : RealmState :=
  if realm.overrideLocal then s.refreshed scene.tree else s

@[simp] theorem accounts_located : (realm.located scene s).accounts = s.accounts := by
  unfold located
  split <;> rfl

@[simp] theorem refreshed_located :
    (realm.located scene s).refreshed scene.tree = s.refreshed scene.tree := by
  unfold located
  split
  · exact s.refreshed_refreshed scene.tree
  · rfl

theorem takesLocal_eq_true_iff {credentials : Credential.Store} {accounts : Table} :
    realm.takesLocal credentials accounts u = true ↔
      accounts.isLocal u = true ∧ (realm.overrideLocal = false ∨ credentials.lists u = false) := by
  simp [takesLocal, and_comm]

theorem takesLocal_eq_false_iff {credentials : Credential.Store} {accounts : Table} :
    realm.takesLocal credentials accounts u = false ↔
      (realm.overrideLocal = true ∧ credentials.lists u = true) ∨ accounts.isLocal u = false := by
  rw [← Bool.not_eq_true, takesLocal_eq_true_iff]
  cases realm.overrideLocal <;> cases credentials.lists u <;> cases accounts.isLocal u <;> decide

theorem isLocal_apply (usable : scene.databaseFault = none)
    (reads : realm.overrideLocal = true →
      (s.credentials.refresh scene.tree).isReport = true) :
    realm.isLocal scene u s =
      { result := .ok (realm.takesLocal (s.refreshed scene.tree).credentials s.accounts u)
        state := realm.located scene s
        log := if realm.overrideLocal then (s.credentials.refresh scene.tree).log else [] } := by
  cases ho : realm.overrideLocal with
  | false => simp [isLocal, ho, located, takesLocal, Store.isLocal_apply usable]
  | true =>
    obtain ⟨report, hr⟩ := Credential.Refresh.isReport_iff.1 (reads ho)
    cases hl : (s.credentials.refresh scene.tree).store.lists u <;>
      simp [isLocal, ho, located, takesLocal, Store.isLocal_apply usable, Action.bind_apply,
        Action.refresh_apply, hr, RealmState.refreshed, hl]

theorem isLocal_of_stopped {e : Failure} (overrides : realm.overrideLocal = true)
    (stopped : (s.credentials.refresh scene.tree).result = .error e) :
    (realm.isLocal scene u s).result = .error e := by
  simp [isLocal, overrides, Action.bind_apply, Action.refresh_apply, stopped]

/-- Without a database no name is found to be local. -/
theorem isLocal_of_fault {fault : DatabaseFault} (broken : scene.databaseFault = some fault) :
    (realm.isLocal scene u s).result ≠ .ok true := by
  cases ho : realm.overrideLocal with
  | false => simp [isLocal, ho, Store.isLocal_of_fault broken]
  | true =>
    cases hr : (s.credentials.refresh scene.tree).result with
    | error e => simp [isLocal_of_stopped ho hr]
    | ok report =>
      cases hl : (s.credentials.refresh scene.tree).store.lists u <;>
        simp [isLocal, ho, Store.isLocal_of_fault broken, Action.bind_apply,
          Action.refresh_apply, hr, hl]

/-- A name that is found to be local has a local account, in any scene. -/
theorem isLocal_accounts_of_isLocal (h : (realm.isLocal scene u s).result = .ok true) :
    s.accounts.isLocal u = true := by
  -- the answer is yes, so neither the database nor the file has failed
  have usable : scene.databaseFault = none := by
    cases fault : scene.databaseFault with
    | none => rfl
    | some fault' => exact absurd h (isLocal_of_fault fault)
  have reads : realm.overrideLocal = true →
      (s.credentials.refresh scene.tree).isReport = true := by
    intro overrides
    cases hr : (s.credentials.refresh scene.tree).result with
    | ok report => exact Credential.Refresh.isReport_iff.2 ⟨report, hr⟩
    | error e => exact absurd ((isLocal_of_stopped overrides hr).symm.trans h) nofun
  rw [isLocal_apply usable reads] at h
  exact (takesLocal_eq_true_iff.1 (Except.ok.inj h)).1

theorem keepsAccounts_isLocal (realm : Realm) (scene : Scene) (u : String) :
    Action.KeepsAccounts (realm.isLocal scene u) := by
  have asked := Store.keepsAccounts_isLocal scene u
  cases ho : realm.overrideLocal with
  | false =>
    simp only [isLocal, ho, Bool.false_eq_true, if_false]
    exact asked
  | true =>
    simp only [isLocal, ho, if_true]
    refine (Action.keepsAccounts_refresh scene).bind fun _ ↦
      Action.keepsAccounts_credentials.bind fun credentials ↦ ?_
    cases credentials.lists u
    · exact asked
    · exact Action.keepsAccounts_pure false

/-- The question leaves the same state in every scene, however it is answered. -/
theorem state_isLocal : (realm.isLocal scene u s).state = realm.located scene s := by
  -- the store only answers; what changes the state is the refresh before the question
  have asked : ∀ s : RealmState, (Store.isLocal scene u s).state = s := by
    intro s
    cases fault : scene.databaseFault with
    | none => rw [Store.isLocal_apply fault]
    | some broken => rw [Store.isLocal_of_fault fault]
  cases ho : realm.overrideLocal with
  | false =>
    simp only [isLocal, located, ho, Bool.false_eq_true, if_false]
    exact asked s
  | true =>
    simp only [isLocal, located, ho, if_true]
    cases hr : (Action.refresh scene s).result with
    | error e => rw [Action.bind_of_error hr]; rfl
    | ok report =>
      rw [Action.bind_of_ok hr, Action.bind_of_ok (x := Action.credentials) rfl]
      split
      · rfl
      · exact asked _

/-! ### Logins against the credential file -/

/-- The record that an external login starts from: that of the row of the name, or a new one. -/
def recordOf (t : Table) (u : String) : Record :=
  match t.find? u with
  | some row => row.record
  | none => { username := u }

@[simp] theorem username_recordOf (t : Table) (u : String) : (recordOf t u).username = u := by
  cases hf : t.find? u with
  | none => simp [recordOf, hf]
  | some row =>
    have hu : row.username = u := Table.username_of_find? hf
    simpa [recordOf, hf, Row.record] using hu

/-- A record that comes from a table has a role, so no write of it is refused. -/
theorem exists_role_externalRecord (t : Table) (u p : String) :
    ∃ role, (externalRecord (recordOf t u) p).role = some role := by
  cases hf : t.find? u with
  | none => exact ⟨"user", by simp [externalRecord, recordOf, hf]⟩
  | some row => exact ⟨row.role, by simp [externalRecord, recordOf, hf, Row.record]⟩

/-- The table and the record after a record is kept. -/
def kept (realm : Realm) (t : Table) (now : String) (record : Record) : Table × Record :=
  if realm.refusing then (t, record)
  else
    match t.upsert now record with
    | .ok written => written
    | .error _ => (t, record)

/-- Keeping a record leaves alone what it says about its user. -/
theorem toProfile_kept (realm : Realm) (t : Table) (now : String) (record : Record) :
    (realm.kept t now record).2.toProfile = record.toProfile := by
  unfold kept
  -- what the record says of an account is written as it is, on whichever branch
  split
  · rfl
  · cases hrole : record.role with
    | none => rw [Table.upsert_of_no_role hrole]
    | some role =>
      cases hf : t.find? record.username with
      | none =>
        rw [Table.upsert_of_absent hrole hf]
        rfl
      | some old =>
        rw [Table.upsert_of_present hrole hf]
        rfl

/-- Keeping a record brings in no row but its own. -/
theorem mem_of_kept {t : Table} {now : String} {record : Record} {row : Row}
    (h : row ∈ (realm.kept t now record).1.rows) :
    row ∈ t.rows ∨ row.toProfile = record.toProfile := by
  unfold kept at h
  split at h
  · exact Or.inl h
  · cases hu : t.upsert now record with
    | error refusal =>
      rw [hu] at h
      exact Or.inl h
    | ok written =>
      rw [hu] at h
      exact Table.mem_of_upsert hu h

theorem keep_apply (usable : scene.databaseFault = none) {record : Record} {role : String}
    (hrole : record.role = some role) :
    realm.keep scene record s =
      { result := .ok (realm.kept s.accounts scene.now.text record).2
        state := { s with accounts := (realm.kept s.accounts scene.now.text record).1 }
        log := if realm.refusing then [.notPersisted record.username] else [] } := by
  -- with a role the table accepts the record, so only the kind of realm decides
  by_cases hr : realm.refusing = true
  · simp [keep, kept, hr, Action.bind_apply]
  · cases hf : s.accounts.find? record.username with
    | none =>
      have accepted : s.accounts.upsert scene.now.text record = _ :=
        Table.upsert_of_absent hrole hf
      simp [keep, kept, hr, Store.update_apply usable accepted, accepted]
    | some old =>
      have accepted : s.accounts.upsert scene.now.text record = _ :=
        Table.upsert_of_present hrole hf
      simp [keep, kept, hr, Store.update_apply usable accepted, accepted]

/-- The table and the record that an external login leaves. -/
def externalLogin (realm : Realm) (t : Table) (now u p : String) : Table × Record :=
  realm.kept t now (externalRecord (recordOf t u) p)

theorem toProfile_externalLogin (realm : Realm) (t : Table) (now u p : String) :
    (realm.externalLogin t now u p).2.toProfile = (externalRecord (recordOf t u) p).toProfile :=
  realm.toProfile_kept t now _

theorem username_externalLogin (realm : Realm) (t : Table) (now u p : String) :
    (realm.externalLogin t now u p).2.username = u :=
  (congrArg Profile.username (realm.toProfile_externalLogin t now u p)).trans
    (username_recordOf t u)

/-- The scheme in which a password matches the secret of a name. -/
def scheme? (credentials : Credential.Store) (u p : String) : Option Secret.Scheme :=
  (credentials.secret? u).bind fun secret ↦ Secret.check secret p

theorem scheme?_eq_none_of_not_lists {credentials : Credential.Store}
    (unlisted : credentials.lists u = false) : scheme? credentials u p = none := by
  have hs : credentials.secret? u = none := by
    simpa [Credential.Store.secret?, Credential.Store.lists, Credential.Entries.contains]
      using unlisted
  rw [scheme?, hs, Option.bind_none]

theorem lists_of_scheme? {credentials : Credential.Store}
    (matched : (scheme? credentials u p).isSome = true) : credentials.lists u = true := by
  cases unlisted : credentials.lists u with
  | true => rfl
  | false =>
    rw [scheme?_eq_none_of_not_lists unlisted] at matched
    exact absurd matched nofun

/-- The rest of an external login, once the password has matched in a scheme. -/
def welcome (realm : Realm) (scene : Scene) (u p : String) (scheme : Secret.Scheme) :
    Action (Option Record) := do
  Action.log (.secretMatched scheme u)
  let row ← Store.find? scene u
  let record : Record := match row with
    | some row => row.record
    | none => { username := u }
  return some (← realm.keep scene (externalRecord record p))

/-- An external login goes by the scheme in which the password matches, if in any. -/
theorem authenticateExternal_eq (realm : Realm) (scene : Scene) (u p : String) :
    realm.authenticateExternal scene u p = (do
      let _ ← Action.refresh scene
      let credentials ← Action.credentials
      (scheme? credentials u p).elim (return none) (realm.welcome scene u p)) := by
  refine congrArg (Action.refresh scene >>= ·) (funext fun _ ↦
    congrArg (Action.credentials >>= ·) (funext fun credentials ↦ ?_))
  rw [scheme?]
  cases credentials.secret? u with
  | none => rfl
  | some secret =>
    dsimp only [Option.bind_some]
    cases Secret.check secret p with
    | none => rfl
    | some scheme => rfl

theorem authenticateExternal_apply (usable : scene.databaseFault = none)
    (reads : (s.credentials.refresh scene.tree).isReport = true) :
    realm.authenticateExternal scene u p s =
      match scheme? (s.refreshed scene.tree).credentials u p with
      | none =>
        { result := .ok none
          state := s.refreshed scene.tree
          log := (s.credentials.refresh scene.tree).log }
      | some scheme =>
        { result := .ok (some (realm.externalLogin s.accounts scene.now.text u p).2)
          state := { s.refreshed scene.tree with
            accounts := (realm.externalLogin s.accounts scene.now.text u p).1 }
          log := (s.credentials.refresh scene.tree).log ++ .secretMatched scheme u ::
            if realm.refusing then [.notPersisted u] else [] } := by
  obtain ⟨report, hr⟩ := Credential.Refresh.isReport_iff.1 reads
  -- the record has the role of its row or that of a new account, so the write is not refused
  obtain ⟨role, hrole⟩ := exists_role_externalRecord s.accounts u p
  cases hs : (s.credentials.refresh scene.tree).store.secret? u with
  | none =>
    simp [authenticateExternal, scheme?, RealmState.refreshed, hs, hr, Action.bind_apply,
      Action.refresh_apply]
  | some secret =>
    cases hc : Secret.check secret p with
    | none =>
      simp [authenticateExternal, scheme?, RealmState.refreshed, hs, hr, hc, Action.bind_apply,
        Action.refresh_apply]
    | some scheme =>
      have hk : realm.keep scene _ (s.refreshed scene.tree) = _ := keep_apply usable hrole
      have hu : (externalRecord (recordOf s.accounts u) p).username = u := username_recordOf _ _
      rw [hu] at hk
      cases hf : s.accounts.find? u <;>
        simp only [RealmState.refreshed, recordOf, hf] at hk <;>
        simp [authenticateExternal, scheme?, RealmState.refreshed, hs, hr, hc, Action.bind_apply,
          Action.refresh_apply, Store.find?_apply usable, externalLogin, recordOf, hf, hk]

theorem authenticateExternal_of_stopped {e : Failure}
    (stopped : (s.credentials.refresh scene.tree).result = .error e) :
    realm.authenticateExternal scene u p s =
      { result := .error e
        state := s.refreshed scene.tree
        log := (s.credentials.refresh scene.tree).log } :=
  Action.bind_of_error stopped

/-- A password that does not match is turned away without a look at the database. -/
theorem authenticateExternal_of_unmatched
    (reads : (s.credentials.refresh scene.tree).isReport = true)
    (unmatched : scheme? (s.refreshed scene.tree).credentials u p = none) :
    (realm.authenticateExternal scene u p s).result = .ok none := by
  obtain ⟨report, hr⟩ := Credential.Refresh.isReport_iff.1 reads
  cases hs : (s.credentials.refresh scene.tree).store.secret? u with
  | none =>
    simp [authenticateExternal, hs, hr, Action.bind_apply, Action.refresh_apply]
  | some secret =>
    have hc : Secret.check secret p = none := by
      simpa [scheme?, RealmState.refreshed, hs] using unmatched
    simp [authenticateExternal, hs, hr, hc, Action.bind_apply, Action.refresh_apply]

/-- Without a database nobody logs in against the credential file, and nothing is written. -/
theorem authenticateExternal_of_fault {fault : DatabaseFault}
    (broken : scene.databaseFault = some fault) :
    (∀ record, (realm.authenticateExternal scene u p s).result ≠ .ok (some record)) ∧
      (realm.authenticateExternal scene u p s).state = s.refreshed scene.tree := by
  cases hr : (s.credentials.refresh scene.tree).result with
  | error e => simp [authenticateExternal_of_stopped hr]
  | ok report =>
    cases hs : (s.credentials.refresh scene.tree).store.secret? u with
    | none =>
      simp [authenticateExternal, RealmState.refreshed, hs, hr, Action.bind_apply,
        Action.refresh_apply]
    | some secret =>
      cases hc : Secret.check secret p <;>
        simp [authenticateExternal, RealmState.refreshed, hs, hr, hc, Action.bind_apply,
          Action.refresh_apply, Store.find?_of_fault broken]

/-! ### Logins -/

/-- Reading the file for the second time gives a report where the first time did. -/
theorem isReport_located (reads : (s.credentials.refresh scene.tree).isReport = true) :
    ((realm.located scene s).credentials.refresh scene.tree).isReport = true := by
  unfold located
  split
  · exact Credential.Store.refresh_refresh_isReport reads
  · exact reads

/-- **A login of a name taken as local.** The credential file has no say in whether it succeeds. -/
theorem authenticate_of_local (usable : scene.databaseFault = none)
    (reads : realm.overrideLocal = true → (s.credentials.refresh scene.tree).isReport = true)
    (taken : realm.takesLocal (s.refreshed scene.tree).credentials s.accounts u = true) :
    (realm.authenticate scene u p s).result =
        .ok ((Store.login? s.accounts u p).map Row.record) ∧
      (realm.authenticate scene u p s).state =
        match Store.login? s.accounts u p with
        | none => realm.located scene s
        | some _ =>
          { realm.located scene s with
            accounts := s.accounts.stampLogin scene.now.text u } := by
  have asked : realm.isLocal scene u s = _ := isLocal_apply usable reads
  rw [taken] at asked
  have decided : (realm.isLocal scene u s).result = .ok true := by rw [asked]
  rw [authenticate, Action.bind_of_ok decided, if_pos rfl, asked]
  simp only [Store.authenticate_apply usable, accounts_located]
  cases Store.login? s.accounts u p <;> exact ⟨rfl, rfl⟩

/-- **A login of a name not taken as local.** The row of the name has no say in whether it succeeds.
-/
theorem authenticate_of_external (usable : scene.databaseFault = none)
    (reads : (s.credentials.refresh scene.tree).isReport = true)
    (taken : realm.takesLocal (s.refreshed scene.tree).credentials s.accounts u = false) :
    (realm.authenticate scene u p s).result =
        .ok ((scheme? (s.refreshed scene.tree).credentials u p).map fun _ ↦
          (realm.externalLogin s.accounts scene.now.text u p).2) ∧
      (realm.authenticate scene u p s).state =
        match scheme? (s.refreshed scene.tree).credentials u p with
        | none => s.refreshed scene.tree
        | some _ =>
          { s.refreshed scene.tree with
            accounts := (realm.externalLogin s.accounts scene.now.text u p).1 } := by
  have asked : realm.isLocal scene u s = _ := isLocal_apply usable fun _ ↦ reads
  rw [taken] at asked
  have decided : (realm.isLocal scene u s).result = .ok false := by rw [asked]
  rw [authenticate, Action.bind_of_ok decided, if_neg Bool.false_ne_true, asked]
  -- the file is read again over the store that the first question left, to no other effect
  simp only [authenticateExternal_apply usable (isReport_located reads), refreshed_located,
    accounts_located]
  cases scheme? (s.refreshed scene.tree).credentials u p <;> exact ⟨rfl, rfl⟩

/-- A name that is not taken as local is looked up in the credential file. -/
theorem readsFile_of_not_takesLocal {credentials : Credential.Store} {accounts : Table}
    (taken : realm.takesLocal credentials accounts u = false) :
    realm.readsFile accounts u = true := by
  cases ho : realm.overrideLocal <;> cases hl : accounts.isLocal u <;>
    simp_all [takesLocal, readsFile]

/-- The answer of the authority in charge. -/
def answer? (realm : Realm) (credentials : Credential.Store) (accounts : Table)
    (now u p : String) : Option Record :=
  if realm.takesLocal credentials accounts u then (Store.login? accounts u p).map Row.record
  else (scheme? credentials u p).map fun _ ↦ (realm.externalLogin accounts now u p).2

/-- **A login is answered by the authority in charge.** -/
theorem result_authenticate (usable : scene.databaseFault = none)
    (reads : realm.readsFile s.accounts u = true →
      (s.credentials.refresh scene.tree).isReport = true) :
    (realm.authenticate scene u p s).result =
      .ok (realm.answer? (s.refreshed scene.tree).credentials s.accounts scene.now.text u p) := by
  unfold answer?
  cases taken : realm.takesLocal (s.refreshed scene.tree).credentials s.accounts u with
  | true =>
    have reads' : realm.overrideLocal = true → _ := fun overrides ↦
      reads (by rw [readsFile, overrides, Bool.true_or])
    exact (authenticate_of_local usable reads' taken).1
  | false =>
    exact (authenticate_of_external usable (reads (readsFile_of_not_takesLocal taken)) taken).1

/-- **A login that lets nobody in** leaves the table as it is, and a realm that overrides local
accounts has read the file for it, whatever the reason was. -/
theorem authenticate_of_refused (usable : scene.databaseFault = none)
    (reads : (s.credentials.refresh scene.tree).isReport = true)
    (refused : ∀ record, (realm.authenticate scene u p s).result ≠ .ok (some record)) :
    (realm.authenticate scene u p s).result = .ok none ∧
      (realm.authenticate scene u p s).state.accounts = s.accounts ∧
      (realm.overrideLocal = true →
        (realm.authenticate scene u p s).state = s.refreshed scene.tree) := by
  -- one authority decides, and its refusal is no record in either case
  cases taken : realm.takesLocal (s.refreshed scene.tree).credentials s.accounts u with
  | true =>
    obtain ⟨result, state⟩ := authenticate_of_local (p := p) usable (fun _ ↦ reads) taken
    rw [result] at refused
    rw [result, state]
    cases found : Store.login? s.accounts u p with
    | some row => exact absurd (by rw [found]; rfl) (refused row.record)
    | none => exact ⟨rfl, accounts_located, fun overrides ↦ if_pos overrides⟩
  | false =>
    obtain ⟨result, state⟩ := authenticate_of_external (p := p) usable reads taken
    rw [result] at refused
    rw [result, state]
    cases matched : scheme? (s.refreshed scene.tree).credentials u p with
    | some scheme =>
      exact absurd (by rw [matched]; rfl)
        (refused (realm.externalLogin s.accounts scene.now.text u p).2)
    | none => exact ⟨rfl, rfl, fun _ ↦ rfl⟩

/-- **A login that succeeds**, with the record that it hands out and the state that it leaves: one
case for each of the two authorities. -/
inductive Entry (realm : Realm) (scene : Scene) (u p : String) (s : RealmState) :
    Record → RealmState → Prop where
  /-- The account store has checked the password. -/
  | localAccount (row : Row) (asked : (realm.isLocal scene u s).result = .ok true)
      (taken : realm.takesLocal (s.refreshed scene.tree).credentials s.accounts u = true)
      (found : Store.login? s.accounts u p = some row) :
      Entry realm scene u p s row.record
        { realm.located scene s with accounts := s.accounts.stampLogin scene.now.text u }
  /-- The password has been checked against the credential file. -/
  | external (scheme : Secret.Scheme) (asked : (realm.isLocal scene u s).result = .ok false)
      (reads : (s.credentials.refresh scene.tree).isReport = true)
      (taken : realm.takesLocal (s.refreshed scene.tree).credentials s.accounts u = false)
      (matched : scheme? (s.refreshed scene.tree).credentials u p = some scheme) :
      Entry realm scene u p s (realm.externalLogin s.accounts scene.now.text u p).2
        { s.refreshed scene.tree with
          accounts := (realm.externalLogin s.accounts scene.now.text u p).1 }

/-- What a login may come to: it succeeds in one of the two ways, or it hands out nothing and leaves
the table alone. -/
def Ends (realm : Realm) (scene : Scene) (u p : String) (s : RealmState) : Prop :=
  (∃ record, (realm.authenticate scene u p s).result = .ok (some record) ∧
      Entry realm scene u p s record (realm.authenticate scene u p s).state) ∨
    ((∀ record, (realm.authenticate scene u p s).result ≠ .ok (some record)) ∧
      (realm.authenticate scene u p s).state.accounts = s.accounts)

/-- Without a database nobody logs in. -/
theorem refused_of_fault {fault : DatabaseFault} (broken : scene.databaseFault = some fault) :
    (∀ record, (realm.authenticate scene u p s).result ≠ .ok (some record)) ∧
      (realm.authenticate scene u p s).state.accounts = s.accounts := by
  have kept := keepsAccounts_isLocal realm scene u s
  -- without a database nobody is found to be local, so what is left is the file
  cases decided : (realm.isLocal scene u s).result with
  | error e =>
    rw [authenticate, Action.bind_of_error decided]
    exact ⟨fun _ ↦ nofun, kept⟩
  | ok b =>
    cases b with
    | true => exact absurd decided (isLocal_of_fault broken)
    | false =>
      rw [authenticate, Action.bind_of_ok decided, if_neg Bool.false_ne_true]
      refine ⟨(authenticateExternal_of_fault broken).1, ?_⟩
      show (realm.authenticateExternal scene u p _).state.accounts = s.accounts
      rw [(authenticateExternal_of_fault broken).2]
      exact kept

/-- Whether a realm turns a name away without a look at its database: it overrides local accounts,
the file can be read or gone without, and the file lists the name. -/
def turnsAwayAlone (realm : Realm) (scene : Scene) (s : RealmState) (u : String) : Bool :=
  realm.overrideLocal && (s.credentials.refresh scene.tree).isReport &&
    (s.refreshed scene.tree).credentials.lists u

theorem turnsAwayAlone_eq_true_iff : realm.turnsAwayAlone scene s u = true ↔
    realm.overrideLocal = true ∧ (s.credentials.refresh scene.tree).isReport = true ∧
      (s.refreshed scene.tree).credentials.lists u = true := by
  rw [turnsAwayAlone, Bool.and_eq_true, Bool.and_eq_true, and_assoc]

/-- Without a database, a name that the realm does not turn away by itself cannot be told. -/
theorem isLocal_of_outage {fault : DatabaseFault} (broken : scene.databaseFault = some fault)
    (asks : realm.turnsAwayAlone scene s u = false) :
    ∃ e, (realm.isLocal scene u s).result = .error e := by
  cases ho : realm.overrideLocal with
  | false => exact ⟨.database fault, by simp [isLocal, ho, Store.isLocal_of_fault broken]⟩
  | true =>
    cases hr : (s.credentials.refresh scene.tree).result with
    | error e => exact ⟨e, isLocal_of_stopped ho hr⟩
    | ok report =>
      have reads := Credential.Refresh.isReport_iff.2 ⟨report, hr⟩
      have unlisted : (s.credentials.refresh scene.tree).store.lists u = false := by
        simpa [turnsAwayAlone, ho, reads, RealmState.refreshed] using asks
      exact ⟨.database fault, by simp [isLocal, ho, Store.isLocal_of_fault broken,
        Action.bind_apply, Action.refresh_apply, hr, unlisted]⟩

/-- **Without a database, a password that does not match is turned away only under a listed name**,
and under any other the login fails. -/
theorem authenticate_of_outage {fault : DatabaseFault} (broken : scene.databaseFault = some fault)
    (unmatched : scheme? (s.refreshed scene.tree).credentials u p = none) :
    if realm.turnsAwayAlone scene s u then (realm.authenticate scene u p s).result = .ok none
    else ∃ e, (realm.authenticate scene u p s).result = .error e := by
  cases alone : realm.turnsAwayAlone scene s u with
  | false =>
    obtain ⟨e, asked⟩ := isLocal_of_outage broken alone
    exact ⟨e, by rw [authenticate, Action.bind_of_error asked]⟩
  | true =>
    obtain ⟨overrides, reads, listed⟩ := turnsAwayAlone_eq_true_iff.1 alone
    obtain ⟨report, hr⟩ := Credential.Refresh.isReport_iff.1 reads
    have asked : (realm.isLocal scene u s).result = .ok false ∧
        (realm.isLocal scene u s).state = s.refreshed scene.tree := by
      rw [RealmState.refreshed] at listed
      simp [isLocal, overrides, Action.bind_apply, Action.refresh_apply, hr, listed,
        RealmState.refreshed]
    -- the file is read again, over the store that the question has left
    have again : ((s.refreshed scene.tree).credentials.refresh scene.tree).isReport = true :=
      Credential.Store.refresh_refresh_isReport reads
    rw [← s.refreshed_refreshed scene.tree] at unmatched
    have handed : (realm.authenticate scene u p s).result =
        (realm.authenticateExternal scene u p (realm.isLocal scene u s).state).result := by
      rw [authenticate, Action.bind_of_ok asked.1, if_neg Bool.false_ne_true]
    rw [if_pos rfl, handed, asked.2]
    exact authenticateExternal_of_unmatched again unmatched

theorem ends_of_local (usable : scene.databaseFault = none)
    (reads : realm.overrideLocal = true → (s.credentials.refresh scene.tree).isReport = true)
    (taken : realm.takesLocal (s.refreshed scene.tree).credentials s.accounts u = true) :
    realm.Ends scene u p s := by
  have asked : realm.isLocal scene u s = _ := isLocal_apply usable reads
  obtain ⟨hresult, hstate⟩ := authenticate_of_local (p := p) usable reads taken
  rw [Ends, hresult, hstate]
  cases hl : Store.login? s.accounts u p with
  | none => exact Or.inr ⟨by simp, accounts_located⟩
  | some row =>
    exact Or.inl ⟨row.record, rfl, .localAccount row (by rw [asked, taken]) taken hl⟩

theorem ends_of_external (usable : scene.databaseFault = none)
    (reads : (s.credentials.refresh scene.tree).isReport = true)
    (taken : realm.takesLocal (s.refreshed scene.tree).credentials s.accounts u = false) :
    realm.Ends scene u p s := by
  have asked : realm.isLocal scene u s = _ := isLocal_apply usable fun _ ↦ reads
  obtain ⟨hresult, hstate⟩ := authenticate_of_external (p := p) usable reads taken
  rw [Ends, hresult, hstate]
  cases hm : scheme? (s.refreshed scene.tree).credentials u p with
  | none => exact Or.inr ⟨by simp, rfl⟩
  | some scheme =>
    refine Or.inl ⟨(realm.externalLogin s.accounts scene.now.text u p).2, rfl, ?_⟩
    exact .external scheme (by rw [asked, taken]) reads taken hm

/-- A login that looks at a file which cannot be read to the end stops there. A realm that does not
override local accounts looks at it only after it has found that the name is not local. -/
theorem authenticate_of_stopped {e : Failure} (usable : scene.databaseFault = none)
    (looks : realm.readsFile s.accounts u = true)
    (stopped : (s.credentials.refresh scene.tree).result = .error e) :
    (realm.authenticate scene u p s).result = .error e ∧
      (realm.authenticate scene u p s).state.accounts = s.accounts := by
  -- with override the file is read for the question who is in charge, otherwise for the answer
  by_cases overrides : realm.overrideLocal = true
  · rw [authenticate, Action.bind_of_error (isLocal_of_stopped overrides stopped)]
    exact ⟨rfl, keepsAccounts_isLocal realm scene u s⟩
  · have notLocal : s.accounts.isLocal u = false := by simpa [readsFile, overrides] using looks
    have taken : realm.takesLocal (s.refreshed scene.tree).credentials s.accounts u = false :=
      takesLocal_eq_false_iff.2 (Or.inr notLocal)
    have asked : realm.isLocal scene u s = _ :=
      isLocal_apply usable fun overrides' ↦ absurd overrides' overrides
    have decided : (realm.isLocal scene u s).result = .ok false := by rw [asked, taken]
    have hlocated : realm.located scene s = s := if_neg overrides
    rw [authenticate, Action.bind_of_ok decided, if_neg Bool.false_ne_true, asked, hlocated,
      authenticateExternal_of_stopped stopped]
    exact ⟨rfl, rfl⟩

theorem ends_of_usable (usable : scene.databaseFault = none) : realm.Ends scene u p s := by
  cases hr : (s.credentials.refresh scene.tree).result with
  | ok report =>
    have reads := Credential.Refresh.isReport_iff.2 ⟨report, hr⟩
    cases taken : realm.takesLocal (s.refreshed scene.tree).credentials s.accounts u with
    | true => exact ends_of_local usable (fun _ ↦ reads) taken
    | false => exact ends_of_external usable reads taken
  | error e =>
    cases looks : realm.readsFile s.accounts u with
    | true =>
      obtain ⟨failed, kept⟩ := authenticate_of_stopped (p := p) usable looks hr
      exact Or.inr ⟨fun record ↦ by simp [failed], kept⟩
    | false =>
      -- the account store checks its own without the file
      obtain ⟨off, isLocal⟩ : realm.overrideLocal = false ∧ s.accounts.isLocal u = true := by
        simpa [readsFile] using looks
      exact ends_of_local usable (fun overrides ↦ absurd (off.symm.trans overrides) nofun)
        (takesLocal_eq_true_iff.2 ⟨isLocal, Or.inl off⟩)

/-- **Every login ends so**, in any scene. -/
theorem ends_authenticate (realm : Realm) (scene : Scene) (u p : String) (s : RealmState) :
    realm.Ends scene u p s := by
  cases fault : scene.databaseFault with
  | none => exact ends_of_usable fault
  | some fault' => exact Or.inr (refused_of_fault fault)

/-- **Who logs in, does so in one of the two ways.** -/
theorem entry_of_authenticate {record : Record}
    (h : (realm.authenticate scene u p s).result = .ok (some record)) :
    Entry realm scene u p s record (realm.authenticate scene u p s).state := by
  rcases realm.ends_authenticate scene u p s with ⟨record', h', entry⟩ | ⟨refused, -⟩
  · obtain rfl : record = record' := Option.some.inj (Except.ok.inj (h.symm.trans h'))
    exact entry
  · exact absurd h (refused record)

/-- **Everything a login can do**, in any scene: hand back nothing and leave the table alone, or log
in with one of the two authorities. -/
inductive Login (realm : Realm) (scene : Scene) (u p : String) (s : RealmState) :
    Outcome (Option Record) → Prop where
  /-- No record, whatever the reason. -/
  | nobody (o : Outcome (Option Record)) (refused : ∀ record, o.result ≠ .ok (some record))
      (kept : o.state.accounts = s.accounts) : Login realm scene u p s o
  /-- The account store has checked the password. -/
  | localAccount (o : Outcome (Option Record)) (row : Row)
      (taken : (realm.isLocal scene u s).result = .ok true)
      (found : Store.login? s.accounts u p = some row)
      (answer : o.result = .ok (some row.record))
      (written : o.state.accounts = s.accounts.stampLogin scene.now.text u) :
      Login realm scene u p s o
  /-- The password has been checked against the credential file. -/
  | external (o : Outcome (Option Record)) (scheme : Secret.Scheme)
      (taken : (realm.isLocal scene u s).result = .ok false)
      (matched : scheme? (s.refreshed scene.tree).credentials u p = some scheme)
      (answer : o.result = .ok (some (realm.externalLogin s.accounts scene.now.text u p).2))
      (written : o.state.accounts = (realm.externalLogin s.accounts scene.now.text u p).1) :
      Login realm scene u p s o

/-- **Every login is one of the three.** -/
theorem login_authenticate (realm : Realm) (scene : Scene) (u p : String) (s : RealmState) :
    Login realm scene u p s (realm.authenticate scene u p s) := by
  rcases realm.ends_authenticate scene u p s with ⟨record, answer, entry⟩ | ⟨refused, kept⟩
  · generalize realm.authenticate scene u p s = o at answer entry
    obtain ⟨result, state, log⟩ := o
    cases entry with
    | localAccount row asked taken found => exact .localAccount _ row asked found answer rfl
    | external scheme asked reads taken matched =>
      exact .external _ scheme asked matched answer rfl
  · exact .nobody _ refused kept

/-! ### Cookies -/

/-- No cookie lets anybody in without a database. -/
theorem authenticateCookie_of_fault {fault : DatabaseFault} {cookie : String}
    (broken : scene.databaseFault = some fault) (record : Record) :
    (authenticateCookie scene cookie s).result ≠ .ok (some record) := by
  cases hf : (Store.findByCookie? scene cookie s).result with
  | error e => simp [authenticateCookie, Action.bind_of_error hf]
  | ok found =>
    cases found with
    | none => simp [authenticateCookie, Action.bind_of_ok hf]
    | some row => exact absurd hf (Store.findByCookie?_of_fault broken cookie row)

theorem result_authenticateCookie (usable : scene.databaseFault = none) {cookie : String}
    {row : Row} (found : s.accounts.findByCookie? cookie = some row) :
    (authenticateCookie scene cookie s).result =
      if row.isLocal then .ok (some row.record)
      else (s.credentials.refresh scene.tree).result.map fun _ ↦
        if (s.refreshed scene.tree).credentials.lists row.username then some row.record
        else none := by
  have asked : Store.findByCookie? scene cookie s = _ := Store.findByCookie?_apply usable cookie
  by_cases hlocal : row.isLocal = true
  · simp [authenticateCookie, Action.bind_apply, asked, found, hlocal]
  · cases hr : (s.credentials.refresh scene.tree).result with
    | error e =>
      simp [authenticateCookie, Action.bind_apply, asked, found, hlocal, Action.refresh_apply, hr,
        Except.map]
    | ok report =>
      cases hl : (s.credentials.refresh scene.tree).store.lists row.username <;>
        simp [authenticateCookie, Action.bind_apply, asked, found, hlocal, Action.refresh_apply, hr,
          RealmState.refreshed, hl, Except.map]

/-- A cookie lets in the account that it finds, if that is local, or if the credential file can be
read or gone without and lists it. -/
theorem authenticateCookie_of_found (usable : scene.databaseFault = none) {cookie : String}
    {row : Row} (found : s.accounts.findByCookie? cookie = some row)
    (admitted : row.isLocal = true ∨ ((s.credentials.refresh scene.tree).isReport = true ∧
      (s.refreshed scene.tree).credentials.lists row.username = true)) :
    (authenticateCookie scene cookie s).result = .ok (some row.record) := by
  rw [result_authenticateCookie usable found]
  split
  · rfl
  · rename_i notLocal
    obtain ⟨reads, listed⟩ := admitted.resolve_left notLocal
    obtain ⟨report, hr⟩ := Credential.Refresh.isReport_iff.1 reads
    rw [hr, listed]
    rfl

/-- Where the file can be read or gone without, every cookie is answered. -/
theorem exists_answer_authenticateCookie (usable : scene.databaseFault = none)
    (reads : (s.credentials.refresh scene.tree).isReport = true) (cookie : String) :
    ∃ answer, (authenticateCookie scene cookie s).result = .ok answer := by
  obtain ⟨report, hr⟩ := Credential.Refresh.isReport_iff.1 reads
  cases hf : s.accounts.findByCookie? cookie with
  | none =>
    exact ⟨none, by simp [authenticateCookie, Action.bind_apply,
      Store.findByCookie?_apply usable, hf]⟩
  | some row =>
    rw [result_authenticateCookie usable hf, hr]
    split
    · exact ⟨_, rfl⟩
    · exact ⟨_, rfl⟩

/-- **A cookie lets in only** the active account that bears it, and an external account only while
the credential file lists it. -/
theorem eq_some_of_authenticateCookie {cookie : String} {record : Record}
    (h : (authenticateCookie scene cookie s).result = .ok (some record)) :
    ∃ row ∈ s.accounts.rows, row.cookie = some cookie ∧ row.isActive = true ∧
      record = row.record ∧
      (row.isLocal = true ∨ (s.refreshed scene.tree).credentials.lists row.username = true) := by
  cases fault : scene.databaseFault with
  | some fault' => exact absurd h (authenticateCookie_of_fault fault record)
  | none =>
    cases hf : s.accounts.findByCookie? cookie with
    | none => simp [authenticateCookie, Action.bind_apply, Store.findByCookie?_apply fault, hf] at h
    | some row =>
      obtain ⟨hmem, hcookie, hactive⟩ := Table.mem_of_findByCookie? hf
      refine ⟨row, hmem, hcookie, hactive, ?_⟩
      -- the record is that of the row, once its kind and the file have been asked
      rw [result_authenticateCookie fault hf] at h
      split at h
      · rename_i hlocal
        exact ⟨(Option.some.inj (Except.ok.inj h)).symm, Or.inl hlocal⟩
      · cases hr : (s.credentials.refresh scene.tree).result with
        | error e => simp [hr, Except.map] at h
        | ok report =>
          cases hl : (s.refreshed scene.tree).credentials.lists row.username with
          | false => simp [hr, hl, Except.map] at h
          | true =>
            simp only [hr, hl, Except.map, if_true, Except.ok.injEq, Option.some.injEq] at h
            exact ⟨h.symm, Or.inr rfl⟩

theorem keepsAccounts_authenticateCookie (scene : Scene) (cookie : String) :
    Action.KeepsAccounts (authenticateCookie scene cookie) := by
  refine (Store.keepsAccounts_findByCookie? scene cookie).bind fun row ↦ ?_
  cases row with
  | none => exact Action.keepsAccounts_pure none
  | some row =>
    by_cases hl : row.isLocal = true
    · simp only [hl, if_true]
      exact Action.keepsAccounts_pure (some row.record)
    · simp only [hl]
      refine (Action.keepsAccounts_refresh scene).bind fun _ ↦
        Action.keepsAccounts_credentials.bind fun credentials ↦ ?_
      cases credentials.lists row.username
      · exact (Action.keepsAccounts_log _).bind fun _ ↦ Action.keepsAccounts_pure none
      · exact Action.keepsAccounts_pure (some row.record)

end Realm

end AuthRealm
