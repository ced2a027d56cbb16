import AuthRealm.Proofs.Realm.Frame

/-!
# Sessions

A login hands out a record with a cookie, and the cookie is to let in the same user later. What a
login hands out is what the row of its name then says, but for the time of the login
(`Entry.leaves`): the account store hands out the row as it was before it noted the login, and the
credential file the row that it has just written. So **the cookie of a login resumes it**
(`cookie_resumes_login`) if it is the row of its name that bears it alone, and if the account is
active.

An external account has to be listed still. The login has just looked, so it is enough that the
store of the credentials stays as it is (`Steady`): on the same tree, or on any tree on which a
refresh reports something else than a reload, be the file missing or not to be read.
-/

namespace AuthRealm

open Account Storage

namespace Credential.Store

variable {s : Store} {tree : Tree}

/-- A refresh on a tree reports and leaves the store as it is. -/
structure Steady (s : Store) (tree : Tree) : Prop where
  reports : (s.refresh tree).isReport = true
  same : (s.refresh tree).store = s

/-- A store that has just been refreshed is steady on the same tree. -/
theorem steady_refresh (reads : (s.refresh tree).isReport = true) :
    Steady (s.refresh tree).store tree :=
  ⟨refresh_refresh_isReport reads, refresh_refresh_store⟩

/-- So is any store where the refresh does not reload. -/
theorem steady_of_reports {status : Status} (reported : (s.refresh tree).reports status = true)
    (other : status ≠ .reloaded) : Steady s tree where
  reports := by
    rw [Refresh.reports, beq_iff_eq] at reported
    rw [Refresh.isReport]
    cases hr : (s.refresh tree).result with
    | error e => simp [hr, Except.toOption] at reported
    | ok report => rfl
  same := (refreshes_refresh tree s).store_eq (Refresh.reports_eq_false reported other.symm)

end Credential.Store

namespace Realm

variable {realm : Realm} {scene : Scene} {s after : RealmState} {u p : String} {record : Record}

/-! ### The row that a login leaves -/

/-- A row is let in by the cookie that it bears: its account is local, or the credential file lists
it, with a store that has been refreshed on the tree of the login. -/
def Listed (scene : Scene) (s after : RealmState) (row : Row) : Prop :=
  row.isLocal = true ∨ ((s.credentials.refresh scene.tree).isReport = true ∧
    after.credentials = (s.credentials.refresh scene.tree).store ∧
      after.credentials.lists row.username = true)

/-- **A login hands out what the row of its name then says**, but for the time of the login. -/
theorem Entry.leaves (writes : realm.refusing = false) (h : s.accounts.WellFormed)
    (entry : Entry realm scene u p s record after) :
    ∃ row, after.accounts.find? u = some row ∧
      record = { row.record with lastLogin := record.lastLogin } ∧ Listed scene s after row := by
  -- the row that a login leaves is the one that it has handed out, stamped or written
  cases entry with
  | localAccount old asked taken found =>
    have present : s.accounts.find? u = some old := (Store.login?_eq_some_iff.1 found).1
    obtain ⟨row, found', isLocal⟩ :=
      Table.isLocal_eq_true_iff.1 (takesLocal_eq_true_iff.1 taken).1
    obtain rfl : old = row := Option.some.inj (present.symm.trans found')
    refine ⟨{ old with lastLogin := some scene.now.text }, ?_, rfl, Or.inl isLocal⟩
    exact Table.find?_modify_self (fun row ↦ { row with lastLogin := some scene.now.text })
      (fun _ hr ↦ hr) present
  | external scheme asked reads taken matched =>
    have listed : (s.credentials.refresh scene.tree).store.lists u = true :=
      lists_of_scheme? (Option.isSome_iff_exists.2 ⟨scheme, matched⟩)
    cases hf : s.accounts.find? u with
    | none =>
      rw [externalLogin_of_absent writes hf]
      refine ⟨firstRow s.accounts scene.now.text u p, ?_, rfl, Or.inr ⟨reads, rfl, listed⟩⟩
      exact Table.find?_append_self hf rfl
    | some old =>
      have hu : old.username = u := Table.username_of_find? hf
      rw [externalLogin_of_present writes h hf]
      refine ⟨externalRow old p, ?_, rfl, Or.inr ⟨reads, rfl, ?_⟩⟩
      · exact Table.find?_modify_self (fun _ ↦ externalRow old p) (fun _ _ ↦ hu) hf
      · show (s.credentials.refresh scene.tree).store.lists old.username = true
        rw [hu]
        exact listed

/-! ### The cookie of a login -/

/-- Where the store of the credentials is steady, the row that a cookie finds is let in. -/
theorem authenticateCookie_of_listed {scene' : Scene} {row : Row} {c : String}
    (usable : scene'.databaseFault = none) (found : after.accounts.findByCookie? c = some row)
    (listed : Listed scene s after row)
    (steady : row.isLocal = true ∨ after.credentials.Steady scene'.tree) :
    (authenticateCookie scene' c after).result = .ok (some row.record) := by
  refine authenticateCookie_of_found usable found ?_
  rcases listed with isLocal | ⟨-, -, lists⟩
  · exact Or.inl isLocal
  · refine steady.imp_right fun steady ↦ ⟨steady.reports, ?_⟩
    show (after.credentials.refresh scene'.tree).store.lists row.username = true
    rw [steady.same]
    exact lists

/-- **The cookie of a login resumes it.** After a login that handed out a record with a cookie, over
an account store that writes: if the row of the name is then active, and no other row bears the
cookie, then the cookie is answered with the same record but for the time of the login, on the tree
of the login and on every tree on which a refresh does not reload. -/
theorem cookie_resumes_login (writes : realm.refusing = false) (h : s.accounts.WellFormed)
    (answer : (realm.authenticate scene u p s).result = .ok (some record)) {c : String}
    (bears : record.cookie = some c) (given : c ≠ "") {row : Row}
    (present : (realm.authenticate scene u p s).state.accounts.find? u = some row)
    (active : row.isActive = true)
    (alone : ∀ other ∈ (realm.authenticate scene u p s).state.accounts.rows,
      other.cookie = row.cookie → other = row)
    {scene' : Scene} (usable : scene'.databaseFault = none)
    (still : scene'.tree = scene.tree ∨
      (realm.authenticate scene u p s).state.credentials.Steady scene'.tree) :
    ∃ found, (authenticateCookie scene' c (realm.authenticate scene u p s).state).result =
        .ok (some found) ∧ record = { found with lastLogin := record.lastLogin } := by
  have entry := entry_of_authenticate answer
  generalize (realm.authenticate scene u p s).state = after at *
  obtain ⟨row', present', same, listed⟩ := entry.leaves writes h
  obtain rfl : row = row' := Option.some.inj (present.symm.trans present')
  have bears' : row.cookie = some c := by
    rw [same] at bears
    exact bears
  -- no other row has the cookie, so it is this one that the cookie finds
  rw [bears'] at alone
  have found : after.accounts.findByCookie? c = some row :=
    Table.findByCookie?_of_only given (Table.mem_of_find? present) bears' active alone
  refine ⟨row.record, authenticateCookie_of_listed usable found listed ?_, same⟩
  -- the file is asked again for an external account: over the same tree it says the same
  rcases listed with isLocal | ⟨reads, refreshed, -⟩
  · exact Or.inl isLocal
  · refine Or.inr ?_
    rcases still with sameTree | steady
    · rw [refreshed, sameTree]
      exact Credential.Store.steady_refresh reads
    · exact steady

end Realm

end AuthRealm
