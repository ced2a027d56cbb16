import AuthRealm.Proofs.Account.Edit
import AuthRealm.Proofs.Realm.Frame
import AuthRealm.Proofs.Realm.SideBySide

/-!
# Logins of two names

Two logins share a credential store, which the first may find stale and the second not, and a table,
in which both may write. Neither lets the second see the first:

* a login of a name answers alike from any two states that are **the same for the name**
  (`RealmState.SameFor`): their stores are refreshed to the same store, and they have the same row
  of the name. This is proved by going through both logins in step (`matches_authenticate`);
* what it writes is then the same edit of the two tables (`exists_edit`), which concerns no other
  name, and edits for two names commute;
* the store that it leaves is the one it found or that store refreshed, and which of the two does
  not depend on the other name either (`credentials_authenticate`).

**So logins of two names commute** (`logins_commute`). The one trace of their order is in the
numbers of rows that both add.
-/

namespace AuthRealm

open Account Storage

/-! ### The same for a name -/

/-- A record without its number. -/
def Account.Record.unnumbered (r : Record) : Record :=
  { r with id := none }

/-- Two records are the same, or the same but for the number if the name had no row. -/
structure Account.Record.SameAs (row? : Option Row) (r r' : Record) : Prop where
  shown : r.unnumbered = r'.unnumbered
  known : row?.isSome = true → r = r'

theorem Account.Record.SameAs.refl (row? : Option Row) (r : Record) : r.SameAs row? r :=
  ⟨rfl, fun _ ↦ rfl⟩

namespace RealmState

/-- Two states read the same in the credential file. -/
def SameFile (tree : Tree) (s s' : RealmState) : Prop :=
  (s.refreshed tree).credentials = (s'.refreshed tree).credentials

/-- Two states are the same for a name: they read the same in the credential file, and have the same
row of the name, or none. -/
structure SameFor (tree : Tree) (u : String) (row? : Option Row) (s s' : RealmState) : Prop where
  file : SameFile tree s s'
  row : s.accounts.find? u = row?
  row' : s'.accounts.find? u = row?

variable {tree : Tree} {u : String} {row? : Option Row} {s s' : RealmState}

theorem SameFile.refreshed (h : SameFile tree s s') :
    SameFile tree (s.refreshed tree) (s'.refreshed tree) := by
  rw [SameFile, refreshed_refreshed, refreshed_refreshed]
  exact h

theorem SameFor.refreshed (h : SameFor tree u row? s s') :
    SameFor tree u row? (s.refreshed tree) (s'.refreshed tree) :=
  ⟨h.file.refreshed, h.row, h.row'⟩

theorem SameFor.isLocal (h : SameFor tree u row? s s') :
    s.accounts.isLocal u = s'.accounts.isLocal u := by
  rw [Table.isLocal, Table.isLocal, h.row, h.row']

theorem SameFor.login? (h : SameFor tree u row? s s') (p : String) :
    Store.login? s.accounts u p = Store.login? s'.accounts u p := by
  rw [Store.login?, Store.login?, h.row, h.row']

end RealmState

/-! ### In step -/

namespace RealmState.SameFor

variable {realm : Realm} {scene : Scene} {s s' : RealmState} {u p : String} {row? : Option Row}

open Outcome Realm

/-- Reading the credential file leaves the same store on both sides, or ends both with the same
failure. -/
theorem matches_refresh (same : SameFor scene.tree u row? s s') :
    Matches LogRecord.hidden (SameFor scene.tree u row?) (fun _ _ ↦ True)
      (Action.refresh scene s) (Action.refresh scene s') := by
  refine ⟨?_, same.refreshed, by rw [LogRecord.filter_hidden, LogRecord.filter_hidden]⟩
  -- the stores are the same but for what the other name has, which a refresh does not look at
  cases hr : (Action.refresh scene s).result with
  | error e =>
    have hr' : (Action.refresh scene s').result = .error e :=
      Credential.Store.result_of_same_store same.file hr
    rw [hr']
    exact .failures e
  | ok report =>
    cases hr' : (Action.refresh scene s').result with
    | error e =>
      exact absurd (hr.symm.trans (Credential.Store.result_of_same_store same.file.symm hr')) nofun
    | ok report' => exact .answers trivial

theorem matches_isLocal (same : SameFor scene.tree u row? s s') (realm : Realm) :
    Matches LogRecord.hidden (SameFor scene.tree u row?) Eq (realm.isLocal scene u s)
      (realm.isLocal scene u s') :=
  .isLocal realm rfl same.matches_refresh (fun _ ↦ congrArg (·.lists u) same.file) same same.isLocal

/-- What is written for a name is the same on both sides. -/
theorem writtenAlike_upsert {R : Table → Table → Prop} {t t' : Table} {now : String}
    {record : Record} (tables : ∀ t t', R t t') (row : t.find? record.username = row?)
    (row' : t'.find? record.username = row?) :
    Matches.WrittenAlike R (Record.SameAs row?) (t.upsert now record) (t'.upsert now record) := by
  cases hrole : record.role with
  | none =>
    rw [Table.upsert_of_no_role hrole, Table.upsert_of_no_role hrole]
    exact .refused _
  | some role =>
    -- the tables have the same row of the name, so both writes take the same branch
    cases row? with
    | none =>
      rw [Table.upsert_of_absent hrole row, Table.upsert_of_absent hrole row']
      exact .written (tables _ _) ⟨rfl, nofun⟩
    | some old =>
      rw [Table.upsert_of_present hrole row, Table.upsert_of_present hrole row']
      exact .written (tables _ _) (.refl _ _)

theorem matches_keep {record : Record} (same : SameFor scene.tree u row? s s')
    (named : record.username = u) :
    Matches LogRecord.hidden (SameFile scene.tree) (Record.SameAs row?) (realm.keep scene record s)
      (realm.keep scene record s') := by
  subst named
  exact .keep realm rfl same.file rfl (.refl _ _)
    (writtenAlike_upsert (fun _ _ ↦ same.file) same.row same.row')

theorem matches_authenticateExternal (same : SameFor scene.tree u row? s s') :
    Matches LogRecord.hidden (SameFile scene.tree) (Option.Rel (Record.SameAs row?))
      (realm.authenticateExternal scene u p s) (realm.authenticateExternal scene u p s') := by
  have checks : scheme? (s.refreshed scene.tree).credentials u p =
      scheme? (s'.refreshed scene.tree).credentials u p := congrArg (scheme? · u p) same.file
  have records : recordOf s.accounts u = recordOf s'.accounts u := by
    rw [recordOf, recordOf, same.row, same.row']
  refine .authenticateExternal rfl same.matches_refresh (fun _ _ h ↦ h.file) checks fun reached ↦ ?_
  rw [← records]
  -- the record that is kept starts from that of the row, and so has its name
  exact reached.matches_keep (username_recordOf s.accounts u)

/-- **A login answers alike** from states that are the same for its name. -/
theorem matches_authenticate (same : SameFor scene.tree u row? s s') (realm : Realm) (p : String) :
    Matches LogRecord.hidden (SameFile scene.tree) (Option.Rel (Record.SameAs row?))
      (realm.authenticate scene u p s) (realm.authenticate scene u p s') := by
  refine (same.matches_isLocal realm).bind (fun _ _ h ↦ h.file) fun b b' _ _ hb reached ↦ ?_
  subst hb
  cases b with
  | false => exact reached.matches_authenticateExternal
  | true =>
    refine .authenticate_store rfl reached.file ?_ reached.file
    rw [reached.login?]
    cases Store.login? _ u p with
    | none => exact .none
    | some row => exact .some (.refl _ _)

end RealmState.SameFor

/-! ### What a login writes -/

namespace Realm

variable {realm : Realm} {scene : Scene} {s s' : RealmState} {u v p q : String}
  {row? : Option Row}

open RealmState

/-- What an external login writes for a name with a row or without. -/
def externalEdit (realm : Realm) (row? : Option Row) (now u p : String) : Table.Edit :=
  if realm.refusing then .keep
  else
    match row? with
    | none => .add (firstRow {} now u p)
    | some old => .change fun _ ↦ externalRow old p

/-- What a login writes, if it is known whether the name is local and how the login ends. -/
def edit (realm : Realm) (row? : Option Row) (now u p : String) :
    Except Failure Bool → Except Failure (Option Record) → Table.Edit
  | .ok true, .ok (some _) => .change fun row ↦ { row with lastLogin := some now }
  | .ok false, .ok (some _) => realm.externalEdit row? now u p
  | _, _ => .keep

variable {t : Table} {now : String}

theorem externalLogin_eq_apply (h : t.WellFormed) (row : t.find? u = row?) :
    (realm.externalLogin t now u p).1 = (realm.externalEdit row? now u p).apply u t := by
  cases writes : realm.refusing with
  | true => simp [externalLogin, kept, externalEdit, writes, Table.Edit.apply]
  | false =>
    cases row? with
    | none => simp only [externalLogin_of_absent writes row, externalEdit, writes]; rfl
    | some old => simp only [externalLogin_of_present writes h row, externalEdit, writes]; rfl

theorem fits_edit (h : t.WellFormed) (row : t.find? u = row?) (asked : Except Failure Bool)
    (answer : Except Failure (Option Record)) :
    (realm.edit row? now u p asked answer).Fits u t := by
  -- an external login adds the row of the name, or changes it under its own name and number
  have external : (realm.externalEdit row? now u p).Fits u t := by
    unfold externalEdit
    split
    · exact .keep
    · cases hrow : row? with
      | none => exact .add rfl (row.trans hrow)
      | some old =>
        have found := row.trans hrow
        have named : old.username = u := Table.username_of_find? found
        refine .change (fun _ _ ↦ named) fun r hr hu ↦ ?_
        rw [h.eq_of_username hr (Table.mem_of_find? found) (hu.trans named.symm)]
        rfl
  unfold edit
  split
  · exact .change (fun _ hu ↦ hu) fun _ _ _ ↦ rfl
  · exact external
  · exact .keep

/-- **A login writes its edit**, and nothing else. -/
theorem accounts_authenticate (h : s.accounts.WellFormed) (row : s.accounts.find? u = row?) :
    (realm.authenticate scene u p s).state.accounts =
      (realm.edit row? scene.now.text u p (realm.isLocal scene u s).result
        (realm.authenticate scene u p s).result).apply u s.accounts := by
  -- who is let in, and by whom, determines the edit of the table
  cases login_authenticate realm scene u p s with
  | nobody refused kept =>
    unfold edit
    split
    · rename_i record _ hr
      exact absurd hr (refused _)
    · rename_i record _ hr
      exact absurd hr (refused _)
    · exact kept
  | localAccount row taken found answer written =>
    rw [written, answer, taken]
    rfl
  | external scheme taken matched answer written =>
    rw [written, answer, taken]
    exact externalLogin_eq_apply h row

/-- The edit does not depend on which of two states that are the same for the name is found. -/
theorem edit_eq (realm : Realm) (now p : String) (same : SameFor scene.tree u row? s s') :
    realm.edit row? now u p (realm.isLocal scene u s').result
        (realm.authenticate scene u p s').result =
      realm.edit row? now u p (realm.isLocal scene u s).result
        (realm.authenticate scene u p s).result := by
  have asked := (same.matches_isLocal realm).result
  have ends := (same.matches_authenticate realm p).result
  -- of the two runs only the answers count, and these are alike
  generalize (realm.isLocal scene u s).result = a at asked
  generalize (realm.isLocal scene u s').result = a' at asked
  generalize (realm.authenticate scene u p s).result = r at ends
  generalize (realm.authenticate scene u p s').result = r' at ends
  cases asked with
  | failures e => rfl
  | answers same =>
    subst same
    cases ends with
    | failures e => rfl
    | answers related =>
      cases related with
      | none => rfl
      | some related => rename_i b _ _; cases b <;> rfl

/-- **A login makes the same edit** of two tables, from states that are the same for its name. -/
theorem exists_edit (realm : Realm) (p : String) (same : SameFor scene.tree u row? s s')
    (h : s.accounts.WellFormed) (h' : s'.accounts.WellFormed) :
    ∃ e : Table.Edit, e.Fits u s.accounts ∧
      (realm.authenticate scene u p s).state.accounts = e.apply u s.accounts ∧
      (realm.authenticate scene u p s').state.accounts = e.apply u s'.accounts := by
  refine ⟨_, fits_edit h same.row _ _, accounts_authenticate h same.row, ?_⟩
  rw [accounts_authenticate h' same.row', edit_eq realm scene.now.text p same]

/-! ### The store that a login leaves -/

/-- Whether a login reads the credential file, also where the database is out of reach. -/
def looksUp (realm : Realm) (scene : Scene) (accounts : Table) (u : String) : Bool :=
  realm.overrideLocal || (scene.databaseFault.isNone && !accounts.isLocal u)

theorem credentials_storeAuthenticate :
    (Store.authenticate scene u p s).state.credentials = s.credentials := by
  cases fault : scene.databaseFault with
  | none =>
    rw [Store.authenticate_apply fault]
    cases Store.login? s.accounts u p <;> rfl
  | some broken => rw [Store.authenticate, Action.bind_apply, Action.accounts_of_fault fault]

theorem credentials_authenticateExternal :
    (realm.authenticateExternal scene u p s).state.credentials =
      (s.refreshed scene.tree).credentials := by
  cases fault : scene.databaseFault with
  | some broken => rw [(authenticateExternal_of_fault fault).2]
  | none =>
    cases hr : (s.credentials.refresh scene.tree).result with
    | error e => rw [authenticateExternal_of_stopped hr]
    | ok report =>
      rw [authenticateExternal_apply fault (Credential.Refresh.isReport_iff.2 ⟨report, hr⟩)]
      cases scheme? (s.refreshed scene.tree).credentials u p <;> rfl

/-- What a login leaves is what the authority in charge leaves, -/
theorem credentials_authenticate_of_ok {b : Bool}
    (asked : (realm.isLocal scene u s).result = .ok b) :
    (realm.authenticate scene u p s).state.credentials =
      if b then (realm.located scene s).credentials else (s.refreshed scene.tree).credentials := by
  rw [authenticate, Action.bind_of_ok asked, state_isLocal]
  cases b with
  | true => exact credentials_storeAuthenticate
  | false => exact credentials_authenticateExternal.trans (congrArg _ refreshed_located)

/-- or what the question leaves, if nobody is. -/
theorem state_authenticate_of_error {e : Failure}
    (asked : (realm.isLocal scene u s).result = .error e) :
    (realm.authenticate scene u p s).state = realm.located scene s := by
  rw [authenticate, Action.bind_of_error asked, state_isLocal]

/-- **A login leaves the store refreshed or as it was**, by whether it looks the name up. -/
theorem credentials_authenticate (realm : Realm) (scene : Scene) (u p : String) (s : RealmState) :
    (realm.authenticate scene u p s).state.credentials =
      if realm.looksUp scene s.accounts u then (s.refreshed scene.tree).credentials
      else s.credentials := by
  -- with override the file is always read, otherwise once the name is known not to be local
  cases ho : realm.overrideLocal with
  | true =>
    have fresh : realm.located scene s = s.refreshed scene.tree := by rw [located, ho, if_pos rfl]
    rw [looksUp, ho, Bool.true_or, if_pos rfl]
    cases asked : (realm.isLocal scene u s).result with
    | error e => rw [state_authenticate_of_error asked, fresh]
    | ok b => rw [credentials_authenticate_of_ok asked, fresh, ite_self]
  | false =>
    have same : realm.located scene s = s := by rw [located, ho, if_neg Bool.false_ne_true]
    have asks : realm.isLocal scene u = Store.isLocal scene u := by simp [isLocal, ho]
    rw [looksUp, ho, Bool.false_or]
    cases fault : scene.databaseFault with
    | some broken =>
      have asked : (realm.isLocal scene u s).result = .error (.database broken) := by
        rw [asks, Store.isLocal_of_fault fault]
      rw [state_authenticate_of_error asked, same]
      rfl
    | none =>
      have asked : (realm.isLocal scene u s).result = .ok (s.accounts.isLocal u) := by
        rw [asks, Store.isLocal_apply fault]
      rw [credentials_authenticate_of_ok asked, same]
      cases s.accounts.isLocal u <;> rfl

/-! ### Both logins -/

theorem sameFile_authenticate (realm : Realm) (scene : Scene) (u p : String) (s : RealmState) :
    SameFile scene.tree s (realm.authenticate scene u p s).state := by
  show _ = ((realm.authenticate scene u p s).state.credentials.refresh scene.tree).store
  rw [credentials_authenticate]
  split
  · exact Credential.Store.refresh_refresh_store.symm
  · rfl

/-- **A login is nothing to another name**: the state that it leaves is the same for that name. -/
theorem sameFor_authenticate (h : s.accounts.WellFormed) (other : v ≠ u) (p : String) :
    SameFor scene.tree v (s.accounts.find? v) s (realm.authenticate scene u p s).state := by
  refine ⟨realm.sameFile_authenticate scene u p s, rfl, ?_⟩
  rw [accounts_authenticate h rfl]
  exact Table.Edit.find?_apply_of_ne (fits_edit h rfl _ _) other

/-- Two logins leave the store refreshed if one of them looks its name up. -/
theorem credentials_authenticate_twice (h : s.accounts.WellFormed) (other : v ≠ u)
    (p q : String) :
    (realm.authenticate scene v q (realm.authenticate scene u p s).state).state.credentials =
      if realm.looksUp scene s.accounts u || realm.looksUp scene s.accounts v then
        (s.refreshed scene.tree).credentials
      else s.credentials := by
  have same : SameFor scene.tree v (s.accounts.find? v) s (realm.authenticate scene u p s).state :=
    sameFor_authenticate h other p
  have looks : realm.looksUp scene (realm.authenticate scene u p s).state.accounts v =
      realm.looksUp scene s.accounts v := by
    rw [looksUp, looksUp, same.isLocal]
  rw [credentials_authenticate, looks, ← same.file, credentials_authenticate]
  cases realm.looksUp scene s.accounts u <;> cases realm.looksUp scene s.accounts v <;> rfl

/-- **Logins of two names commute.** For every realm, in every scene, also without a database, from
every state with a table that keeps its constraints, two logins of different names one after the
other, in either order,

* end alike, each with its own failure, with nothing or with a record; the record is the same, but
  for the number where the name had no row;
* leave the same credential store;
* leave the same table, but for the numbers of two rows that are added for the two names.

In particular whether a login succeeds does not depend on a login of another name before it. -/
theorem logins_commute (realm : Realm) (scene : Scene) {s : RealmState}
    (h : s.accounts.WellFormed) {u v : String} (distinct : u ≠ v) (p q : String) :
    let first := realm.authenticate scene u p s
    let second := realm.authenticate scene v q first.state
    let second' := realm.authenticate scene v q s
    let first' := realm.authenticate scene u p second'.state
    EndsAlike (Option.Rel (Record.SameAs (s.accounts.find? u))) first.result first'.result ∧
      EndsAlike (Option.Rel (Record.SameAs (s.accounts.find? v))) second'.result second.result ∧
      second.state.credentials = first'.state.credentials ∧
      Table.Edit.SameButNew s.accounts u v second.state.accounts first'.state.accounts ∧
      ((∃ record, first.result = .ok (some record)) ↔
        ∃ record, first'.result = .ok (some record)) := by
  intro first second second' first'
  -- the login of the other name leaves everything that a login of this name reads
  have sameU : SameFor scene.tree u (s.accounts.find? u) s second'.state :=
    sameFor_authenticate h distinct q
  have sameV : SameFor scene.tree v (s.accounts.find? v) s first.state :=
    sameFor_authenticate h distinct.symm p
  have ends := (sameU.matches_authenticate realm p).result
  refine ⟨ends, (sameV.matches_authenticate realm q).result, ?_, ?_, ends.exists_some_iff⟩
  · rw [credentials_authenticate_twice h distinct.symm, credentials_authenticate_twice h distinct,
      Bool.or_comm]
  · -- each of the two makes the same edit, whether it comes first or second
    obtain ⟨e, fits, alone, behind⟩ :=
      exists_edit realm p sameU h (realm.wellFormed_after scene s (.authenticate v q) h)
    obtain ⟨e', fits', alone', behind'⟩ :=
      exists_edit realm q sameV h (realm.wellFormed_after scene s (.authenticate u p) h)
    rw [behind, behind', alone, alone']
    exact Table.Edit.apply_comm fits fits' distinct

/-- Two names log in for the first time, in either order. -/
theorem first_logins_commute :
    let scene : Scene :=
      ⟨Credential.lone [97, 58, 120, 10, 98, 58, 121] 1, ⟨2024, 1, 1, 0, 0, 0, 0⟩, none⟩
    let s : RealmState := ⟨{ path := ⟨"/", ["htpasswd"]⟩ }, {}⟩
    let second := authenticate {} scene "b" "y" (authenticate {} scene "a" "x" s).state
    let first' := authenticate {} scene "a" "x" (authenticate {} scene "b" "y" s).state
    Table.Edit.SameButNew s.accounts "a" "b" second.state.accounts first'.state.accounts ∧
      ∃ record, first'.result = .ok (some record) := by
  intro scene s second first'
  have spelt : Credential.spell? {} [97, 58, 120, 10, 98, 58, 121] =
      some ['a', ':', 'x', '\n', 'b', ':', 'y'] := by decide
  have unread : s.credentials.modifiedAt ≠ some 1 := (Option.some_ne_none 1).symm
  have read : s.credentials.refresh scene.tree = _ :=
    Credential.Store.refresh_lone rfl unread spelt
  have reads : (s.credentials.refresh scene.tree).isReport = true :=
    Credential.Store.isReport_refresh_lone rfl unread spelt
  have external : takesLocal {} (s.refreshed scene.tree).credentials s.accounts "a" = false := by
    rw [RealmState.refreshed, read]
    decide
  have matched : scheme? (s.refreshed scene.tree).credentials "a" "x" = some .plain := by
    rw [RealmState.refreshed, read]
    decide
  have alone := (authenticate_of_external (p := "x") rfl reads external).1
  rw [matched, Option.map_some] at alone
  obtain ⟨-, -, -, tables, succeeds⟩ :=
    logins_commute {} scene (s := s) Table.wellFormed_empty (by decide : "a" ≠ "b") "x" "y"
  -- the abbreviations are opened, so that no login is computed to compare the two
  simp only [second, first']
  exact ⟨tables, succeeds.1 ⟨_, alone⟩⟩

end Realm

end AuthRealm
