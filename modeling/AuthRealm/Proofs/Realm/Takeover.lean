import AuthRealm.Proofs.Realm.Frame

/-!
# Accounts taken over by the credential file

A login that the credential file lets in leaves the sentinel in place of the account's hash and
marks the account external. The account may have been local before, with a hash of its own.

**A takeover is for good** (`takeover_is_permanent`): whatever calls, refreshes and restarts follow
it, under either value of the override, the account is never local again, the account store lets it
in with no password, and every record of it that a realm hands out says that it is external.

What carries this through a run is a property of one row (`Table.TakenOver`). It is kept by every
change that `Table.Evolves` allows, since that lets hash and kind move to the sentinel and
`external` only; that all calls keep within these bounds is what `Moment.framed` says.
-/

namespace AuthRealm

open Account Storage

namespace Account.Table

variable {byStore byFile : String → Prop} {t t' : Table} {u q : String}

/-- **A name has been taken over**: it has a row, which is external and has the sentinel for a hash.
-/
def TakenOver (t : Table) (u : String) : Prop :=
  ∃ row, t.find? u = some row ∧ row.kind = .external ∧ row.hashedPassword = some externalSentinel

/-- Rows that become what they may become do not come back from a takeover. -/
theorem TakenOver.evolves (h : t.TakenOver u) (wellFormed : t'.WellFormed)
    (evolves : Evolves byStore byFile t t') : t'.TakenOver u := by
  obtain ⟨old, found, kind, secret⟩ := h
  obtain ⟨new, hnew, becomes⟩ := evolves old (mem_of_find? found)
  have hu : new.username = u := becomes.username.trans (username_of_find? found)
  refine ⟨new, hu ▸ wellFormed.find?_of_mem hnew, ?_⟩
  rcases becomes.secret with ⟨hash', kind'⟩ | ⟨-, hash', kind'⟩
  · exact ⟨kind'.trans kind, hash'.trans secret⟩
  · exact ⟨kind', hash'⟩

theorem TakenOver.not_isLocal (h : t.TakenOver u) : t.isLocal u = false := by
  obtain ⟨row, found, kind, -⟩ := h
  rw [isLocal, found]
  simp [Profile.isLocal, kind]

/-- No password logs in with the sentinel, be it the sentinel itself. -/
theorem TakenOver.login?_eq_none (h : t.TakenOver u) : Store.login? t u q = none := by
  obtain ⟨row, found, -, secret⟩ := h
  rw [Option.eq_none_iff_forall_ne_some]
  intro row' login
  obtain ⟨found', matched, -⟩ := Store.login?_eq_some_iff.1 login
  obtain rfl : row = row' := Option.some.inj (found.symm.trans found')
  obtain ⟨hash, hh, -, other, -⟩ := Store.passwordMatches_eq_true_iff.1 matched
  exact other (Option.some.inj (hh.symm.trans secret))

end Account.Table

/-! ### The login that takes an account over -/

namespace Moment

variable {realm : Realm} {m : Moment} {u : String}

/-- **A login that the credential file lets in takes the account over**, whether or not it had a row
before. -/
theorem ExternalLogin.takenOver (writes : realm.refusing = false)
    (h : m.before.accounts.WellFormed) (login : m.ExternalLogin realm u) :
    (m.after realm).accounts.TakenOver u := by
  obtain ⟨scene, call, s⟩ := m
  obtain ⟨⟨p, rfl⟩, handed, asked⟩ := login
  show (realm.authenticate scene u p s).state.accounts.TakenOver u
  -- the outcome was a record from the file, so the login has written the row of an external account
  cases Realm.login_authenticate realm scene u p s with
  | nobody refused kept =>
    obtain ⟨record, handed⟩ := Option.isSome_iff_exists.1 handed
    exact absurd (Realm.join_toOption_eq_some_iff.1 handed) (refused record)
  | localAccount row taken found answer written =>
    exact absurd (taken.symm.trans asked) nofun
  | external scheme taken matched answer written =>
    rw [written]
    cases hf : s.accounts.find? u with
    | none =>
      rw [Realm.externalLogin_of_absent writes hf]
      exact ⟨_, Table.find?_append_self hf rfl, rfl, rfl⟩
    | some old =>
      have hu : old.username = u := Table.username_of_find? hf
      rw [Realm.externalLogin_of_present writes h hf]
      have found := Table.find?_modify_self (fun _ ↦ Realm.externalRow old p) (fun _ _ ↦ hu) hf
      exact ⟨_, found, rfl, rfl⟩

end Moment

/-! ### What follows -/

/-- **The states that follow another** without a write from outside: what calls make of it, under
either value of the override, over an account store that writes, each in a scene of its own; and
refreshes, and restarts over the table as it stands. -/
inductive Follows (s : RealmState) : RealmState → Prop where
  | refl : Follows s s
  | call {s' : RealmState} (override : Bool) (scene : Scene) (call : Call) (h : Follows s s') :
      Follows s (Realm.after { overrideLocal := override } scene s' call)
  | refresh {s' : RealmState} (tree : Tree) (h : Follows s s') : Follows s (s'.refreshed tree)
  | restart {s' : RealmState} (path : Path) (charset : Text.Encoding) (h : Follows s s') :
      Follows s ⟨{ path := path, charset := charset }, s'.accounts⟩

namespace Follows

variable {s s' : RealmState} {u : String}

theorem reachable (h : Reachable s) (follows : Follows s s') : Reachable s' := by
  induction follows with
  | refl => exact h
  | call override scene call follows ih => exact .call _ scene call ih
  | refresh tree follows ih => exact .refresh tree ih
  | restart path charset follows ih => exact .restart path charset ih

/-- **Nothing that follows undoes a takeover.** -/
theorem takenOver (h : Reachable s) (taken : s.accounts.TakenOver u) (follows : Follows s s') :
    s'.accounts.TakenOver u := by
  induction follows with
  | refl => exact taken
  | call override scene call follows ih =>
    have before := (follows.reachable h).wellFormed
    exact ih.evolves (Realm.wellFormed_after _ scene _ call before)
      (Moment.framed rfl ⟨scene, call, _⟩ before).rows
  | refresh tree follows ih => exact ih
  | restart path charset follows ih => exact ih

end Follows

/-! ### What a taken-over account is good for -/

namespace Realm

variable {realm : Realm} {scene : Scene} {s : RealmState} {u : String}

/-- **A name belongs to the credential file**: the account store has no say in it any more. -/
structure BelongsToFile (s : RealmState) (u : String) : Prop where
  /-- The row of the name is external and has the sentinel for a hash. -/
  takenOver : s.accounts.TakenOver u
  /-- No realm finds the name to be local, -/
  never : ∀ (realm : Realm) (scene : Scene), (realm.isLocal scene u s).result ≠ .ok true
  /-- and over a database that can be used it says so, once it has read the file if it has to. -/
  external : ∀ (realm : Realm) (scene : Scene), scene.databaseFault = none →
    (realm.overrideLocal = true →
      ∃ report, (s.credentials.refresh scene.tree).result = .ok report) →
    (realm.isLocal scene u s).result = .ok false
  /-- The account store lets nobody in under the name, -/
  refuses : ∀ (scene : Scene) (q : String) (record : Record),
    (Store.authenticate scene u q s).result ≠ .ok (some record)
  /-- and over a database that can be used it says so. -/
  nobody : ∀ (scene : Scene) (q : String), scene.databaseFault = none →
    (Store.authenticate scene u q s).result = .ok none
  /-- Every record of the name that a realm hands out is external, with the sentinel for a hash. -/
  record : ∀ (realm : Realm) (scene : Scene) (call : Call) (record : Record),
    realm.handsOut scene s call = some record → record.username = u →
      record.kind = .external ∧ record.hashedPassword = some externalSentinel

theorem isLocal_ne_of_takenOver (taken : s.accounts.TakenOver u) :
    (realm.isLocal scene u s).result ≠ .ok true :=
  fun isLocal ↦ absurd (taken.not_isLocal.symm.trans (isLocal_accounts_of_isLocal isLocal)) nofun

theorem authenticate_of_takenOver (taken : s.accounts.TakenOver u)
    (usable : scene.databaseFault = none) (q : String) :
    (Store.authenticate scene u q s).result = .ok none := by
  rw [Store.authenticate_apply usable, taken.login?_eq_none]

/-- A record of a taken-over name is external, whichever way it is handed out. -/
theorem handsOut_of_takenOver (h : s.accounts.WellFormed) (taken : s.accounts.TakenOver u)
    {call : Call} {record : Record} (handed : realm.handsOut scene s call = some record)
    (hu : record.username = u) :
    record.kind = .external ∧ record.hashedPassword = some externalSentinel := by
  cases call with
  | isLocal v => exact absurd handed nofun
  | authenticate v p =>
    have handed' := join_toOption_eq_some_iff.1 handed
    cases login_authenticate realm scene v p s with
    | nobody refused kept => exact absurd handed' (refused record)
    | localAccount row asked found answer written =>
      obtain rfl : row.record = record := by simpa [answer] using handed'
      have hv : row.username = v := Table.username_of_find? (Store.login?_eq_some_iff.1 found).1
      obtain rfl : v = u := hv.symm.trans hu
      exact absurd asked (isLocal_ne_of_takenOver taken)
    | external scheme asked matched answer written =>
      obtain rfl : (realm.externalLogin s.accounts scene.now.text v p).2 = record := by
        simpa [answer] using handed'
      have same := realm.toProfile_externalLogin s.accounts scene.now.text v p
      exact ⟨congrArg Profile.kind same, congrArg Profile.hashedPassword same⟩
  | authenticateCookie cookie =>
    obtain ⟨row, hrow, -, -, rfl, -⟩ :=
      eq_some_of_authenticateCookie (join_toOption_eq_some_iff.1 handed)
    obtain ⟨row', found, kind, secret⟩ := taken
    -- the cookie has found the one row of the name
    have found' := h.find?_of_mem hrow
    rw [show row.username = u from hu, found] at found'
    obtain rfl : row' = row := Option.some.inj found'
    exact ⟨kind, secret⟩

theorem belongsToFile (h : s.accounts.WellFormed) (taken : s.accounts.TakenOver u) :
    BelongsToFile s u where
  takenOver := taken
  never := fun _ _ ↦ isLocal_ne_of_takenOver taken
  -- a row that is taken over is not local, whoever asks and however
  external := by
    intro realm scene usable reads
    have reads' := fun overrides ↦ Credential.Refresh.isReport_iff.2 (reads overrides)
    rw [isLocal_apply usable reads', takesLocal_eq_false_iff.2 (Or.inr taken.not_isLocal)]
  refuses := by
    intro scene q record
    cases fault : scene.databaseFault with
    | none => simp [authenticate_of_takenOver taken fault q]
    | some fault' =>
      simp [Store.authenticate, Action.bind_apply, Action.accounts_of_fault fault]
  nobody := fun _ q usable ↦ authenticate_of_takenOver taken usable q
  record := fun _ _ _ _ handed hu ↦ handsOut_of_takenOver h taken handed hu

/-- **A takeover is for good.** Take any reachable state and any call there that was a login of a
name which the credential file let in, over an account store that writes, under either value of the
override. In every state that follows, the name belongs to the credential file: no realm finds it to
be local, the account store lets nobody in under it, with any password, and every record of it that
is handed out, by whatever call, says that it is external and has the sentinel for a hash. -/
theorem takeover_is_permanent (override : Bool) {m : Moment} {u : String}
    (h : Reachable m.before) (login : m.ExternalLogin { overrideLocal := override } u)
    {s : RealmState} (follows : Follows (m.after { overrideLocal := override }) s) :
    BelongsToFile s u := by
  have after : Reachable (m.after { overrideLocal := override }) := .call _ m.scene m.call h
  have taken := login.takenOver rfl h.wellFormed
  exact belongsToFile (follows.reachable after).wellFormed (follows.takenOver after taken)

/-- An account that was created with a hash of its own is taken over by a login with its line in the
file. Afterwards the file is gone, the realm has started again and does not override local accounts,
and the account store is asked with the text of the sentinel. -/
theorem takeover_of_local_account_is_permanent :
    let scene : Scene :=
      ⟨Credential.lone [97, 100, 97, 58, 120] 1, ⟨2024, 1, 1, 0, 0, 0, 0⟩, none⟩
    let gone : Scene := ⟨⟨[]⟩, ⟨2024, 1, 2, 0, 0, 0, 0⟩, none⟩
    let record : Record := { username := "ada", hashedPassword := some "$2b$04$abc" }
    let s := (Write.create record).after scene ⟨{ path := ⟨"/", ["htpasswd"]⟩ }, {}⟩
    let taken := after {} scene s (.authenticate "ada" "x")
    let later := after { overrideLocal := false } gone
      ⟨{ path := ⟨"/", ["htpasswd"]⟩ }, taken.accounts⟩ (.authenticate "ada" "x")
    s.accounts.isLocal "ada" = true ∧
      (isLocal { overrideLocal := false } gone "ada" later).result = .ok false ∧
      (Store.authenticate gone "ada" externalSentinel later).result = .ok none := by
  intro scene gone record s taken later
  have hs : Reachable s := .write scene (.create record) (.start _ _)
  have spelt : Credential.spell? {} [97, 100, 97, 58, 120] =
      some ['a', 'd', 'a', ':', 'x'] := by decide
  have read : s.credentials.refresh scene.tree = _ :=
    Credential.Store.refresh_lone rfl nofun spelt
  have reads : (s.credentials.refresh scene.tree).isReport = true :=
    Credential.Store.isReport_refresh_lone rfl nofun spelt
  have external : takesLocal {} (s.refreshed scene.tree).credentials s.accounts "ada" = false := by
    rw [RealmState.refreshed, read]
    decide
  have matched : scheme? (s.refreshed scene.tree).credentials "ada" "x" = some .plain := by
    rw [RealmState.refreshed, read]
    decide
  have answer := (authenticate_of_external (p := "x") rfl reads external).1
  have asked : isLocal {} scene "ada" s = _ := isLocal_apply rfl fun _ ↦ reads
  have login : Moment.ExternalLogin ⟨scene, .authenticate "ada" "x", s⟩ {} "ada" := by
    refine ⟨⟨"x", rfl⟩, ?_, ?_⟩
    · rw [Moment.handsOut, handsOut, answer, matched]
      rfl
    · rw [asked, external]
  -- afterwards the process is started anew, without the file and without override
  have follows : Follows taken later :=
    .call false gone (.authenticate "ada" "x") (.restart _ _ .refl)
  have belongs := takeover_is_permanent true hs login follows
  have external' := belongs.external { overrideLocal := false } gone rfl
    fun overrides ↦ absurd overrides Bool.false_ne_true
  exact ⟨by decide, external', belongs.nobody gone _ rfl⟩

end Realm

end AuthRealm
