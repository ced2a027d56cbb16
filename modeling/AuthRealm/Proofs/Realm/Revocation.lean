import AuthRealm.Proofs.Realm.Run

/-!
# Revocation

Striking a name from the credential file takes back every access that the file has ever given: the
password, and the cookies of earlier logins, whose rows stay in the table. **A name that the file
does not list, and that has no local account, is let in by nothing** (`handsOut_of_unlisted`), under
either value of the override, over any table and in any scene, since every way in asks the
credential store again after refreshing it.

That the name has no local account is kept by every call (`withoutLocal_after`). An external login
leaves an external row, and no other call brings in a row. So a run hands out no record of the name
for as long as the file does not list it (`run_hands_out_nobody`).
-/

namespace AuthRealm

open Account Storage

/-- No row of a name is a local account. The name may have other rows, or none. -/
def Account.Table.WithoutLocal (t : Table) (u : String) : Prop :=
  ∀ row ∈ t.rows, row.username = u → row.isLocal = false

namespace Realm

variable {realm : Realm} {scene : Scene} {s : RealmState} {u : String}

theorem isLocal_of_withoutLocal {t : Table} (h : t.WithoutLocal u) : t.isLocal u = false := by
  rw [← Bool.not_eq_true, Table.isLocal_eq_true_iff]
  rintro ⟨row, found, isLocal⟩
  rw [h row (Table.mem_of_find? found) (Table.username_of_find? found)] at isLocal
  exact Bool.false_ne_true isLocal

theorem answer?_of_unlisted {credentials : Credential.Store} {t : Table}
    (notLocal : t.isLocal u = false) (unlisted : credentials.lists u = false) (now p : String) :
    realm.answer? credentials t now u p = none := by
  have taken : realm.takesLocal credentials t u = false :=
    takesLocal_eq_false_iff.2 (Or.inr notLocal)
  rw [answer?, taken, if_neg Bool.false_ne_true, scheme?_eq_none_of_not_lists unlisted,
    Option.map_none]

/-! ### One call -/

/-- **A name that is not listed and has no local account is let in by no call.** -/
theorem handsOut_of_unlisted (h : s.accounts.WithoutLocal u)
    (unlisted : (s.refreshed scene.tree).credentials.lists u = false) {call : Call}
    {record : Record} (handed : realm.handsOut scene s call = some record) :
    record.username ≠ u := by
  rintro rfl
  cases call with
  | isLocal v => exact absurd handed nofun
  | authenticate v p =>
    have handed' := join_toOption_eq_some_iff.1 handed
    cases login_authenticate realm scene v p s with
    | nobody refused kept => exact refused record handed'
    | localAccount row taken found answer written =>
      have hv : row.username = v := Table.username_of_find? (Store.login?_eq_some_iff.1 found).1
      obtain rfl : row.record = record := by simpa [answer] using handed'
      -- who is found to be local has a local account, and this name has none
      have isLocal := isLocal_accounts_of_isLocal taken
      rw [← hv] at isLocal
      exact absurd ((isLocal_of_withoutLocal h).symm.trans isLocal) nofun
    | external scheme taken matched answer written =>
      obtain rfl : (realm.externalLogin s.accounts scene.now.text v p).2 = record := by
        simpa [answer] using handed'
      rw [username_externalLogin] at unlisted
      exact absurd ((scheme?_eq_none_of_not_lists unlisted).symm.trans matched) nofun
  | authenticateCookie cookie =>
    have handed' := join_toOption_eq_some_iff.1 handed
    obtain ⟨row, hrow, hcookie, active, rfl, listed⟩ := eq_some_of_authenticateCookie handed'
    -- the row may still bear the cookie; the store is asked for its name after the refresh
    rcases listed with isLocal | listed
    · exact absurd ((h row hrow rfl).symm.trans isLocal) nofun
    · exact absurd (unlisted.symm.trans listed) nofun

/-- **What striking a name from the credential file does**, in every state over a usable database,
with either value of the override: once a refresh has a report and the file does not list the name,
and there is no local account of the name, no password logs in, whatever rows earlier logins have
left. A cookie lets in nobody under that name, whether or not the database can be used. -/
theorem unlisted_name_is_shut_out (realm : Realm) (tree : Tree) (now : Timestamp) (s : RealmState)
    (u : String) (reads : ∃ report, (s.credentials.refresh tree).result = .ok report)
    (unlisted : (s.credentials.refresh tree).store.lists u = false)
    (noLocal : ∀ row ∈ s.accounts.rows, row.username = u → row.isLocal = false) :
    (∀ p, (realm.authenticate ⟨tree, now, none⟩ u p s).result = .ok none) ∧
      ∀ (fault : Option DatabaseFault) (cookie : String) (record : Record),
        (authenticateCookie ⟨tree, now, fault⟩ cookie s).result = .ok (some record) →
          record.username ≠ u := by
  refine ⟨fun p ↦ ?_, fun fault cookie record answer ↦ ?_⟩
  · have answered : (realm.authenticate ⟨tree, now, none⟩ u p s).result = _ :=
      result_authenticate rfl fun _ ↦ Credential.Refresh.isReport_iff.2 reads
    exact answered.trans
      (congrArg Except.ok (answer?_of_unlisted (isLocal_of_withoutLocal noLocal) unlisted _ p))
  · have handed :
        realm.handsOut ⟨tree, now, fault⟩ s (.authenticateCookie cookie) = some record := by
      rw [handsOut, join_toOption_eq_some_iff]
      exact answer
    refine handsOut_of_unlisted noLocal ?_ handed
    exact unlisted

/-- The row that an external login has left lets nobody in once the file lists another name only. -/
theorem unlisted_name_is_shut_out_of_external_row :
    let row : Row :=
      ⟨{ username := "a", hashedPassword := some externalSentinel, cookie := some "c",
         kind := .external }, 1, "user", ""⟩
    let s : RealmState := ⟨{ path := ⟨"/", ["htpasswd"]⟩ }, ⟨[row]⟩⟩
    let scene : Scene := ⟨Credential.lone [98, 58, 120] 1, ⟨2024, 1, 1, 0, 0, 0, 0⟩, none⟩
    (authenticate {} scene "a" "x" s).result = .ok none ∧
      ∀ record, (authenticateCookie scene "c" s).result = .ok (some record) →
        record.username ≠ "a" := by
  intro row s scene
  have spelt : Credential.spell? {} [98, 58, 120] = some ['b', ':', 'x'] := by decide
  have read : s.credentials.refresh scene.tree = _ :=
    Credential.Store.refresh_lone rfl nofun spelt
  have unlisted : (s.credentials.refresh scene.tree).store.lists "a" = false := by
    rw [read]
    decide
  -- the theorem at the file without the name; the row may be what it is
  have shut := unlisted_name_is_shut_out {} scene.tree scene.now s "a"
    ⟨_, congrArg Credential.Refresh.result read⟩ unlisted (by decide)
  exact ⟨shut.1 "x", shut.2 none "c"⟩

/-! ### Runs of calls -/

/-- **No call makes a local account.** -/
theorem withoutLocal_after (realm : Realm) (u : String) (scene : Scene) (s : RealmState)
    (call : Call) (h : s.accounts.WithoutLocal u) :
    (realm.after scene s call).accounts.WithoutLocal u := by
  cases call with
  | isLocal v => exact keepsAccounts_isLocal realm scene v s ▸ h
  | authenticateCookie cookie => exact keepsAccounts_authenticateCookie scene cookie s ▸ h
  | authenticate v p =>
    show (realm.authenticate scene v p s).state.accounts.WithoutLocal u
    cases login_authenticate realm scene v p s with
    | nobody refused kept => exact kept ▸ h
    | localAccount row taken found answer written =>
      rw [written]
      intro row' hrow' hu
      obtain ⟨old, hold, rfl⟩ := List.mem_map.1 hrow'
      -- noting a login changes neither kind nor hash, whosever it was
      by_cases hv : old.username = v
      · simp only [hv, if_true] at hu ⊢
        exact h old hold (hv.trans hu)
      · simp only [hv, if_false] at hu ⊢
        exact h old hold hu
    | external scheme taken matched answer written =>
      rw [written]
      intro row hrow hu
      rcases mem_of_kept hrow with hold | hnew
      · exact h row hold hu
      · rw [hnew]
        rfl

/-- **A run hands out no record of a name** that has no local account at its start, as long as no
call of the run finds the name in the credential file. -/
theorem run_hands_out_nobody (realm : Realm) {s : RealmState} {u : String}
    (h : s.accounts.WithoutLocal u) (calls : List (Scene × Call))
    (unlisted : ∀ m ∈ realm.moments s calls,
      (m.before.refreshed m.scene.tree).credentials.lists u = false) :
    ∀ m ∈ realm.moments s calls, ∀ record, m.handsOut realm = some record →
      record.username ≠ u := by
  intro m hm record handed
  have found := (run_induction (realm.withoutLocal_after u) h calls).2 m hm
  exact handsOut_of_unlisted found (unlisted m hm) handed

end Realm

end AuthRealm
