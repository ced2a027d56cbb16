import AuthRealm.Proofs.Realm.Authenticate

/-!
# Who authenticates

Two authorities can let a name in: the credential file (`FileAdmits`) and the account store
(`StoreAdmits`). Each of the two says when it is in charge of the name and what it then asks of the
password. They are never in charge together (`FileAdmits.not_storeAdmits`), so no password that one
of them knows opens an account of the other.

**A login succeeds exactly when the authority in charge admits the password**, in every state, with
either value of the override, whether or not the file has changed, is missing or cannot be read. The
entries meant are those after a refresh. A login refreshes twice, but it is answered from one
reading.

What the password is compared with belongs to one authority alone. Where the file is in charge
because the realm overrides local accounts, success is the same over every table; where the store is
in charge, the whole answer is the same over every credential file that leaves it in charge.
-/

namespace AuthRealm.Realm

open Account Storage

/-- **The credential file admits** a password for a name: it is in charge, since the realm overrides
local accounts and it lists the name, or since the name has no local account; and it has a secret
for the name, which the password matches. -/
structure FileAdmits (realm : Realm) (file : Credential.Store) (accounts : Table)
    (u p : String) : Prop where
  inCharge : (realm.overrideLocal = true ∧ file.lists u = true) ∨ accounts.isLocal u = false
  known : ∃ secret scheme, file.secret? u = some secret ∧ Secret.check secret p = some scheme

/-- **The account store admits** a password for a name: it is in charge, since the name has a local
account and the realm does not override it or the file does not list it; and the account is active
and has a hash, neither empty nor the sentinel, that is one of the password. -/
structure StoreAdmits (realm : Realm) (file : Credential.Store) (accounts : Table)
    (u p : String) : Prop where
  inCharge : realm.overrideLocal = false ∨ file.lists u = false
  known : ∃ row hash, accounts.find? u = some row ∧ row.isLocal = true ∧ row.isActive = true ∧
    row.hashedPassword = some hash ∧ hash ≠ "" ∧ hash ≠ externalSentinel ∧
    Password.verify p hash = true

variable {realm : Realm} {file : Credential.Store} {accounts : Table} {u p : String}

/-! ### One authority at a time -/

theorem StoreAdmits.isLocal (h : StoreAdmits realm file accounts u p) :
    accounts.isLocal u = true := by
  obtain ⟨row, hash, found, isLocal, -⟩ := h.known
  exact Table.isLocal_eq_true_iff.2 ⟨row, found, isLocal⟩

/-- **The two are never in charge together.** -/
theorem FileAdmits.not_storeAdmits (h : FileAdmits realm file accounts u p) :
    ¬ StoreAdmits realm file accounts u p := by
  intro h'
  rcases h.inCharge with ⟨overrides, listed⟩ | notLocal
  · rcases h'.inCharge with off | unlisted
    · exact absurd (overrides.symm.trans off) nofun
    · exact absurd (listed.symm.trans unlisted) nofun
  · exact absurd (h'.isLocal.symm.trans notLocal) nofun

theorem isSome_scheme?_iff :
    (scheme? file u p).isSome = true ↔
      ∃ secret scheme, file.secret? u = some secret ∧ Secret.check secret p = some scheme := by
  cases hs : file.secret? u with
  | none => simp [scheme?, hs]
  | some secret => simp [scheme?, hs, Option.isSome_iff_exists]

theorem fileAdmits_iff :
    FileAdmits realm file accounts u p ↔
      realm.takesLocal file accounts u = false ∧ (scheme? file u p).isSome = true := by
  rw [takesLocal_eq_false_iff, isSome_scheme?_iff]
  exact ⟨fun h ↦ ⟨h.inCharge, h.known⟩, fun h ↦ ⟨h.1, h.2⟩⟩

theorem storeAdmits_iff :
    StoreAdmits realm file accounts u p ↔
      realm.takesLocal file accounts u = true ∧ (Store.login? accounts u p).isSome = true := by
  rw [takesLocal_eq_true_iff, Table.isLocal_eq_true_iff]
  constructor
  · rintro ⟨inCharge, row, hash, found, isLocal, active, hh, nonempty, real, verified⟩
    refine ⟨⟨⟨row, found, isLocal⟩, inCharge⟩, Option.isSome_iff_exists.2 ⟨row, ?_⟩⟩
    exact Store.login?_eq_some_iff.2
      ⟨found, Store.passwordMatches_eq_true_iff.2 ⟨hash, hh, nonempty, real, verified⟩, active⟩
  · rintro ⟨⟨⟨row, found, isLocal⟩, inCharge⟩, admitted⟩
    -- both sides speak of the one row of the name
    obtain ⟨row', hlogin⟩ := Option.isSome_iff_exists.1 admitted
    obtain ⟨found', hm, active⟩ := Store.login?_eq_some_iff.1 hlogin
    obtain rfl : row = row' := Option.some.inj (found.symm.trans found')
    obtain ⟨hash, hh, nonempty, real, verified⟩ := Store.passwordMatches_eq_true_iff.1 hm
    exact ⟨inCharge, row, hash, found, isLocal, active, hh, nonempty, real, verified⟩

/-! ### What a login rests on -/

theorem isSome_answer?_iff (now : String) :
    (realm.answer? file accounts now u p).isSome = true ↔
      FileAdmits realm file accounts u p ∨ StoreAdmits realm file accounts u p := by
  rw [fileAdmits_iff, storeAdmits_iff, answer?]
  cases realm.takesLocal file accounts u <;> simp

/-- Whoever logs in, logs in under the name that was asked for. -/
theorem username_of_answer? {now : String} {record : Record}
    (h : realm.answer? file accounts now u p = some record) : record.username = u := by
  unfold answer? at h
  split at h
  · obtain ⟨row, hlogin, rfl⟩ := Option.map_eq_some_iff.1 h
    exact Table.username_of_find? (Store.login?_eq_some_iff.1 hlogin).1
  · obtain ⟨scheme, -, rfl⟩ := Option.map_eq_some_iff.1 h
    exact username_externalLogin realm accounts now u p

/-- Where the realm overrides local accounts and the file lists the name, success is the same over
every table. -/
theorem isSome_answer?_of_listed (overrides : realm.overrideLocal = true)
    (listed : file.lists u = true) (now : String) (t : Table) :
    (realm.answer? file t now u p).isSome = (scheme? file u p).isSome := by
  have taken : realm.takesLocal file t u = false :=
    takesLocal_eq_false_iff.2 (Or.inl ⟨overrides, listed⟩)
  rw [answer?, taken, if_neg Bool.false_ne_true, Option.isSome_map]

/-- Where the account store is in charge, the answer is the same over every credential file that
leaves it in charge. -/
theorem answer?_of_local (isLocal : accounts.isLocal u = true)
    (inCharge : realm.overrideLocal = false ∨ file.lists u = false) (now : String) :
    realm.answer? file accounts now u p = (Store.login? accounts u p).map Row.record := by
  have taken : realm.takesLocal file accounts u = true :=
    takesLocal_eq_true_iff.2 ⟨isLocal, inCharge⟩
  rw [answer?, if_pos taken]

/-- **A login succeeds exactly when the authority in charge admits the password.** In every state
over a usable database, for every name and password for which looking at the file, if the file is
looked at, ends with a report: there is an answer, and

* it is a record exactly when the file or the store admits the password;
* the record has the name that was asked for;
* where the realm overrides local accounts and the file lists the name, it is a record over one
  table exactly when it is one over any other, whatever row the name has there or none;
* where the account store is in charge, it is the same answer over every other file and every other
  tree that leave the store in charge. -/
theorem authenticate_succeeds_iff (realm : Realm) (tree : Tree) (now : Timestamp) (s : RealmState)
    (u p : String)
    (reads : realm.readsFile s.accounts u = true →
      ∃ report, (s.credentials.refresh tree).result = .ok report) :
    let file := (s.credentials.refresh tree).store
    ∃ answer, (realm.authenticate ⟨tree, now, none⟩ u p s).result = .ok answer ∧
      (answer.isSome = true ↔
        FileAdmits realm file s.accounts u p ∨ StoreAdmits realm file s.accounts u p) ∧
      (∀ record, answer = some record → record.username = u) ∧
      (realm.overrideLocal = true → file.lists u = true → ∀ t : Table, ∃ other,
        (realm.authenticate ⟨tree, now, none⟩ u p ⟨s.credentials, t⟩).result = .ok other ∧
          other.isSome = answer.isSome) ∧
      (s.accounts.isLocal u = true → (realm.overrideLocal = false ∨ file.lists u = false) →
        ∀ (tree' : Tree) (store : Credential.Store),
          (realm.overrideLocal = true →
            (∃ report, (store.refresh tree').result = .ok report) ∧
              (store.refresh tree').store.lists u = false) →
          (realm.authenticate ⟨tree', now, none⟩ u p ⟨store, s.accounts⟩).result = .ok answer) := by
  intro file
  -- every one of these logins is answered by `answer?`
  have answers : ∀ (tree' : Tree) (store : Credential.Store) (t : Table),
      (realm.readsFile t u = true → ∃ report, (store.refresh tree').result = .ok report) →
      (realm.authenticate ⟨tree', now, none⟩ u p ⟨store, t⟩).result =
        .ok (realm.answer? (store.refresh tree').store t now.text u p) :=
    fun tree' store t reads' ↦
      result_authenticate rfl fun looks ↦ Credential.Refresh.isReport_iff.2 (reads' looks)
  refine ⟨_, answers tree s.credentials s.accounts reads, isSome_answer?_iff now.text,
    fun record ↦ username_of_answer?, ?_, ?_⟩
  · intro overrides listed t
    have looks : ∀ t : Table, realm.readsFile t u = true := fun t ↦ by
      rw [readsFile, overrides, Bool.true_or]
    refine ⟨_, answers tree s.credentials t fun _ ↦ reads (looks s.accounts), ?_⟩
    rw [isSome_answer?_of_listed overrides listed, isSome_answer?_of_listed overrides listed]
  · intro isLocal inCharge tree' store other
    have inCharge' : realm.overrideLocal = false ∨ (store.refresh tree').store.lists u = false := by
      cases ho : realm.overrideLocal with
      | false => exact Or.inl rfl
      | true => exact Or.inr (other ho).2
    have reads' : realm.readsFile s.accounts u = true →
        ∃ report, (store.refresh tree').result = .ok report := by
      intro looks
      rw [readsFile, isLocal, Bool.not_true, Bool.or_false] at looks
      exact (other looks).1
    rw [answers tree' store s.accounts reads', answer?_of_local isLocal inCharge',
      answer?_of_local isLocal inCharge]

/-- A file that lists a name lets it in under an overriding realm, although the name has a local
account with a hash of its own. -/
theorem authenticate_succeeds_over_local_account :
    let row : Row := ⟨{ username := "ada", hashedPassword := some "h" }, 1, "user", ""⟩
    let s : RealmState := ⟨{ path := ⟨"/", ["htpasswd"]⟩ }, ⟨[row]⟩⟩
    let scene : Scene :=
      ⟨Credential.lone [97, 100, 97, 58, 120] 1, ⟨2024, 1, 1, 0, 0, 0, 0⟩, none⟩
    ∃ answer, (authenticate {} scene "ada" "x" s).result = .ok answer ∧ answer.isSome = true := by
  intro row s scene
  have spelt : Credential.spell? {} [97, 100, 97, 58, 120] =
      some ['a', 'd', 'a', ':', 'x'] := by decide
  have read : s.credentials.refresh scene.tree = _ :=
    Credential.Store.refresh_lone rfl nofun spelt
  obtain ⟨answer, hresult, hiff, -⟩ := authenticate_succeeds_iff {} scene.tree scene.now s "ada" "x"
    fun _ ↦ ⟨_, congrArg Credential.Refresh.result read⟩
  refine ⟨answer, hresult, hiff.2 (Or.inl ?_)⟩
  rw [read]
  exact ⟨Or.inl ⟨rfl, by decide⟩, "x", .plain, by decide, by decide⟩

end AuthRealm.Realm
