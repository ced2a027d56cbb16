import AuthRealm.Proofs.Realm.Authority
import AuthRealm.Proofs.Realm.Run

/-!
# Deactivated accounts

An account may be deactivated. The account store asks for it: neither a password of its own nor a
cookie lets in an account that is not active. The credential file is not asked, and does not ask:
an external login starts from the row of the name and hands it out as it stands.

So **a deactivated account is let in by its line in the credential file and by nothing else**
(`deactivated_account_is_let_in_by_file_only`). Which row is that of a name is not in doubt, since
names do not repeat in a reachable table.
-/

namespace AuthRealm

open Account Storage

namespace Realm

variable {realm : Realm} {scene : Scene} {s : RealmState} {u p : String}

/-- An external login hands out the activity of the row of its name, or that of a new account. -/
theorem isActive_externalLogin (realm : Realm) (t : Table) (now u p : String) :
    (realm.externalLogin t now u p).2.isActive = (recordOf t u).isActive := by
  have same := congrArg Profile.isActive (realm.toProfile_externalLogin t now u p)
  exact same

/-- A record of an active account: it says so itself, and so does every row of its name. -/
def OfActive (t : Table) (record : Record) : Prop :=
  record.isActive = true ∧ ∀ row ∈ t.rows, row.username = record.username → row.isActive = true

theorem ofActive_of_mem {t : Table} (h : t.WellFormed) {row : Row} (hrow : row ∈ t.rows)
    (active : row.isActive = true) : OfActive t row.record := by
  refine ⟨active, fun row' hrow' same ↦ ?_⟩
  rw [h.eq_of_username hrow' hrow same]
  exact active

/-- What an external login hands out is of an active account, or there is a row of the name that is
not active. -/
theorem ofActive_externalLogin {t : Table} (h : t.WellFormed) (realm : Realm) (now u p : String) :
    OfActive t (realm.externalLogin t now u p).2 ∨
      ((realm.externalLogin t now u p).2.isActive = false ∧
        ∃ row, t.find? u = some row ∧ row.isActive = false) := by
  cases hf : t.find? u with
  | none =>
    refine Or.inl ⟨?_, fun row hrow same ↦ ?_⟩
    · rw [isActive_externalLogin, recordOf, hf]
    · rw [username_externalLogin] at same
      exact absurd same (Table.find?_eq_none_iff.1 hf row hrow)
  | some row =>
    -- an external login takes over whether the account is active, and looks no further
    have handed : (realm.externalLogin t now u p).2.isActive = row.isActive := by
      rw [isActive_externalLogin, recordOf, hf]
      rfl
    cases active : row.isActive with
    | false => exact Or.inr ⟨handed.trans active, row, rfl, active⟩
    | true =>
      refine Or.inl ⟨handed.trans active, fun row' hrow' same ↦ ?_⟩
      rw [username_externalLogin, ← Table.username_of_find? hf] at same
      rw [h.eq_of_username hrow' (Table.mem_of_find? hf) same]
      exact active

/-- **A deactivated account is let in by its line in the credential file and by nothing else.** In
every reachable state, in any scene and under every kind of realm:

* a record that a call hands out is of an active account, unless the call is a login of a
  deactivated one with a password that the credential file admits, and then the record says that the
  account is not active;
* and every password that the credential file admits for a deactivated account does let it in, over
  a database that can be used and a file that can be read or gone without. -/
theorem deactivated_account_is_let_in_by_file_only {s : RealmState} (h : Reachable s)
    (realm : Realm) (scene : Scene) :
    (∀ call record, realm.handsOut scene s call = some record →
      (record.isActive = true ∧
          ∀ row ∈ s.accounts.rows, row.username = record.username → row.isActive = true) ∨
        (record.isActive = false ∧ ∃ u p, call = .authenticate u p ∧ record.username = u ∧
          (∃ row ∈ s.accounts.rows, row.username = u ∧ row.isActive = false) ∧
          FileAdmits realm (s.credentials.refresh scene.tree).store s.accounts u p)) ∧
      (scene.databaseFault = none →
        (∃ report, (s.credentials.refresh scene.tree).result = .ok report) →
        ∀ row ∈ s.accounts.rows, row.isActive = false → ∀ p,
          FileAdmits realm (s.credentials.refresh scene.tree).store s.accounts row.username p →
          ∃ record, realm.handsOut scene s (.authenticate row.username p) = some record ∧
            record.username = row.username ∧ record.isActive = false) := by
  refine ⟨fun call record handed ↦ ?_, fun usable reads row hrow inactive p admitted ↦ ?_⟩
  · cases call with
    | isLocal u => exact absurd handed nofun
    | authenticateCookie c =>
      obtain ⟨row, hrow, -, active, rfl, -⟩ :=
        eq_some_of_authenticateCookie (join_toOption_eq_some_iff.1 handed)
      exact Or.inl (ofActive_of_mem h.wellFormed hrow active)
    | authenticate u p =>
      -- who is let in has come by an account of the store, or by an entry of the file
      have entry := entry_of_authenticate (join_toOption_eq_some_iff.1 handed)
      generalize (realm.authenticate scene u p s).state = after at entry
      cases entry with
      | localAccount row asked taken found =>
        obtain ⟨present, -, active⟩ := Store.login?_eq_some_iff.1 found
        exact Or.inl (ofActive_of_mem h.wellFormed (Table.mem_of_find? present) active)
      | external scheme asked reads taken matched =>
        have admitted : FileAdmits realm (s.refreshed scene.tree).credentials s.accounts u p :=
          fileAdmits_iff.2 ⟨taken, Option.isSome_iff_exists.2 ⟨scheme, matched⟩⟩
        refine (ofActive_externalLogin h.wellFormed realm scene.now.text u p).imp_right ?_
        rintro ⟨inactive, row, found, hrow⟩
        exact ⟨inactive, u, p, rfl, username_externalLogin _ _ _ _ _,
          ⟨row, Table.mem_of_find? found, Table.username_of_find? found, hrow⟩, admitted⟩
  · -- conversely, nothing on the way of an external login asks whether the account is active
    obtain ⟨taken, matched⟩ := fileAdmits_iff.1 admitted
    obtain ⟨scheme, hm⟩ := Option.isSome_iff_exists.1 matched
    have result := (authenticate_of_external (p := p) usable
      (Credential.Refresh.isReport_iff.2 reads) taken).1
    rw [show scheme? (s.refreshed scene.tree).credentials row.username p = _ from hm] at result
    refine ⟨_, join_toOption_eq_some_iff.2 result, username_externalLogin _ _ _ _ _, ?_⟩
    rw [isActive_externalLogin, recordOf, h.wellFormed.find?_of_mem hrow]
    exact inactive

/-- An account that was created deactivated logs in with the password of its line in the file; its
cookie does not let it in. -/
theorem deactivated_account_logs_in :
    let scene : Scene :=
      ⟨Credential.lone [97, 100, 97, 58, 120] 1, ⟨2024, 1, 1, 0, 0, 0, 0⟩, none⟩
    let record : Record := { username := "ada", cookie := some "c", isActive := false }
    let s := (Write.create record).after scene ⟨{ path := ⟨"/", ["htpasswd"]⟩ }, {}⟩
    (∃ found, handsOut {} scene s (.authenticate "ada" "x") = some found ∧
        found.username = "ada" ∧ found.isActive = false) ∧
      ∀ found, handsOut {} scene s (.authenticateCookie "c") = some found →
        found.isActive = true := by
  intro scene record s
  have hs : Reachable s := .write scene (.create record) (.start _ _)
  obtain ⟨only, lets⟩ := deactivated_account_is_let_in_by_file_only hs {} scene
  have spelt : Credential.spell? {} [97, 100, 97, 58, 120] =
      some ['a', 'd', 'a', ':', 'x'] := by decide
  have read : s.credentials.refresh scene.tree = _ :=
    Credential.Store.refresh_lone rfl nofun spelt
  have reads : ∃ report, (s.credentials.refresh scene.tree).result = .ok report :=
    ⟨_, congrArg Credential.Refresh.result read⟩
  have admitted : FileAdmits {} (s.credentials.refresh scene.tree).store s.accounts "ada" "x" := by
    rw [read]
    exact ⟨Or.inl ⟨rfl, by decide⟩, "x", .plain, by decide, by decide⟩
  refine ⟨lets rfl reads _ List.mem_cons_self rfl "x" admitted, fun found handed ↦ ?_⟩
  -- the other way in is a login with a password, and a cookie is none
  rcases only _ found handed with ⟨active, -⟩ | ⟨-, u, p, call, -⟩
  · exact active
  · exact absurd call nofun

end Realm

end AuthRealm
