import AuthRealm.Proofs.Realm.Run
import AuthRealm.Proofs.Realm.SideBySide

/-!
# Logins over an account store that does not write

A realm may be given an account store that answers every question and refuses every write. **It lets
in whom the same realm lets in over a store that writes** (`refused_writes_let_in_alike`): the two
logins of a name and a password end alike in every state and every scene.

* Who is in charge of a name is asked of the table and of the credential file, and what is asked of
  the password too. Only the last step of an external login writes, when all is decided; what it
  would write is handed out whether or not it is written (`externalLogin_refusing`). So two records
  differ at most in the number and the time that a new row is given.
* Without a database nothing is ever decided for a name that would be written, so the two logins are
  one and the same (`authenticate_refusing_of_fault`).

Nothing is left of a login that is not written, and yet **the same login again gets the same
cookie**: the cookie is made of name and password, so a store that lacks it has it made once more.
What a login needs of a state for this (`Welcomes`) is there after it, written or not.
-/

namespace AuthRealm

open Account Storage

/-- A record as it is before a row has given it a number and a time. -/
def Account.Record.undated (r : Record) : Record :=
  { r with id := none, createdAt := none }

/-- Two records of one name, of which the second has been written: they are the same, but for the
number and the time of creation if the name had no row. -/
structure Account.Record.SameOnceWritten (row? : Option Row) (r r' : Record) : Prop where
  shown : r.undated = r'.undated
  known : row?.isSome = true → r = r'

theorem Account.Record.SameOnceWritten.refl (row? : Option Row) (r : Record) :
    r.SameOnceWritten row? r :=
  ⟨rfl, fun _ ↦ rfl⟩

/-- What a table finds once the row of a name has been overwritten, by the number of the row. -/
theorem Account.Table.find?_overwrite_self {t : Table} {u : String} {old row : Row}
    (found : t.find? u = some old) (hid : row.id = old.id) (hname : row.username = u) :
    (t.overwrite row).find? u = some row := by
  obtain ⟨rows⟩ := t
  -- the row of the number is the row of the name, so no row before it has the name
  induction rows with
  | nil => exact absurd found nofun
  | cons r rest ih =>
    simp only [find?, overwrite, List.map_cons] at found ih ⊢
    by_cases same : r.id = row.id
    · simp [same, hname]
    · have other : r.username ≠ u := by
        intro hr
        rw [List.find?_cons_of_pos (by simp [hr]), Option.some.injEq] at found
        exact same (found ▸ hid.symm)
      rw [List.find?_cons_of_neg (by simpa using other)] at found
      rw [if_neg same, List.find?_cons_of_neg (by simpa using other)]
      exact ih found

namespace Realm

variable {override refuses : Bool} {scene : Scene} {s : RealmState} {t : Table} {now u p : String}

/-! ### What is handed out -/

/-- Over a store that does not write, an external login hands out what it would have written. -/
theorem externalLogin_refusing :
    externalLogin { overrideLocal := override, refusing := true } t now u p =
      (t, externalRecord (recordOf t u) p) := rfl

/-- An external login hands out the same record, written or not. -/
theorem sameOnceWritten_externalLogin :
    Record.SameOnceWritten (t.find? u)
      (externalLogin { overrideLocal := override, refusing := true } t now u p).2
      (externalLogin { overrideLocal := override, refusing := false } t now u p).2 := by
  rw [externalLogin_refusing]
  cases hf : t.find? u with
  | none =>
    have accepted : t.upsert now (externalRecord { username := u } p) = _ :=
      Table.upsert_of_absent rfl hf
    simp only [externalLogin, kept, recordOf, hf, accepted]
    exact ⟨rfl, fun held ↦ by cases held⟩
  | some old =>
    have hu : old.username = u := Table.username_of_find? hf
    have accepted : t.upsert now (externalRecord old.record p) = _ :=
      Table.upsert_of_present rfl (hu.symm ▸ hf)
    simp only [externalLogin, kept, recordOf, hf, accepted]
    -- number and time are those of the row, and the record has come from there
    exact ⟨rfl, fun _ ↦ rfl⟩

/-- The authority in charge answers alike, whether or not the store writes. -/
theorem rel_answer? (credentials : Credential.Store) :
    Option.Rel (Record.SameOnceWritten (t.find? u))
      (answer? { overrideLocal := override, refusing := true } credentials t now u p)
      (answer? { overrideLocal := override, refusing := false } credentials t now u p) := by
  unfold answer?
  have taken : takesLocal { overrideLocal := override, refusing := true } credentials t u =
      takesLocal { overrideLocal := override, refusing := false } credentials t u := rfl
  -- who is in charge does not depend on the kind of store
  rw [taken]
  split
  · cases Store.login? t u p with
    | none => exact .none
    | some row => exact .some (.refl _ _)
  · cases scheme? credentials u p with
    | none => exact .none
    | some scheme => exact .some sameOnceWritten_externalLogin

/-! ### How a login ends -/

/-- Without a database, the login is the same over a store that writes and one that does not. -/
theorem authenticate_refusing_of_fault {fault : DatabaseFault}
    (broken : scene.databaseFault = some fault) :
    authenticate { overrideLocal := override, refusing := true } scene u p =
      authenticate { overrideLocal := override, refusing := false } scene u p := by
  -- all that a match leads to is a look at the database
  have welcomes (scheme : Secret.Scheme) :
      welcome { overrideLocal := override, refusing := true } scene u p scheme =
        welcome { overrideLocal := override, refusing := false } scene u p scheme := by
    funext s
    simp [welcome, Action.bind_apply, Store.find?_of_fault broken]
  have external : authenticateExternal { overrideLocal := override, refusing := true } scene u p =
      authenticateExternal { overrideLocal := override, refusing := false } scene u p := by
    rw [authenticateExternal_eq, authenticateExternal_eq, funext welcomes]
  rw [authenticate, authenticate, external]
  rfl

/-- **The two logins end alike**, in every state and every scene. -/
theorem endsAlike_authenticate (override : Bool) (scene : Scene) (s : RealmState) (u p : String) :
    EndsAlike (Option.Rel (Record.SameOnceWritten (s.accounts.find? u)))
      (authenticate { overrideLocal := override, refusing := true } scene u p s).result
      (authenticate { overrideLocal := override, refusing := false } scene u p s).result := by
  -- where both answers are one, nothing is to be compared
  have same (r : Except Failure (Option Record)) :
      EndsAlike (Option.Rel (Record.SameOnceWritten (s.accounts.find? u))) r r := by
    cases r with
    | error e => exact .failures e
    | ok answer =>
      cases answer with
      | none => exact .answers .none
      | some record => exact .answers (.some (.refl _ _))
  cases fault : scene.databaseFault with
  | some broken =>
    rw [authenticate_refusing_of_fault fault]
    exact same _
  | none =>
    cases hr : (s.credentials.refresh scene.tree).result with
    | ok report =>
      have reads := Credential.Refresh.isReport_iff.2 ⟨report, hr⟩
      rw [result_authenticate fault fun _ ↦ reads, result_authenticate fault fun _ ↦ reads]
      exact .answers (rel_answer? _)
    | error e =>
      -- whether the file is read does not depend on the kind of store either
      have looks : readsFile { overrideLocal := override, refusing := true } s.accounts u =
          readsFile { overrideLocal := override, refusing := false } s.accounts u := rfl
      cases looked : readsFile { overrideLocal := override, refusing := false } s.accounts u with
      | true =>
        rw [(authenticate_of_stopped fault (looks.trans looked) hr).1,
          (authenticate_of_stopped fault looked hr).1]
        exact .failures e
      | false =>
        rw [result_authenticate fault fun h ↦ absurd (h.symm.trans (looks.trans looked)) nofun,
          result_authenticate fault fun h ↦ absurd (h.symm.trans looked) nofun]
        exact .answers (rel_answer? _)

/-! ### The same login again -/

/-- A state in which the credential file lets in a name with a password, to a record with the given
cookie. -/
structure Welcomes (override : Bool) (tree : Tree) (u p : String) (cookie : Option String)
    (s : RealmState) : Prop where
  reads : (s.credentials.refresh tree).isReport = true
  inCharge : takesLocal { overrideLocal := override } (s.refreshed tree).credentials s.accounts u =
    false
  matched : (scheme? (s.refreshed tree).credentials u p).isSome = true
  cookie : (externalRecord (recordOf s.accounts u) p).cookie = cookie

/-- Of a record as an external login has left it, the same login makes one with the same cookie. -/
theorem cookie_externalRecord_again {record record' : Record}
    (same : record'.toProfile = (externalRecord record p).toProfile) :
    (externalRecord record' p).cookie = (externalRecord record p).cookie := by
  have named : record'.username = (externalRecord record p).username :=
    congrArg Profile.username same
  have cookie : record'.cookie = (externalRecord record p).cookie := congrArg Profile.cookie same
  simp only [externalRecord] at cookie ⊢
  rw [cookie, show record'.username = record.username from named]
  split
  · split <;> rfl
  · rfl

/-- The table that an external login leaves lets in the name to the same cookie, and does not take
it as local. -/
theorem externalLogin_again (refuses : Bool) (now p : String) {credentials : Credential.Store}
    (inCharge : takesLocal { overrideLocal := override } credentials t u = false) :
    let t' := (externalLogin { overrideLocal := override, refusing := refuses } t now u p).1
    takesLocal { overrideLocal := override } credentials t' u = false ∧
      (externalRecord (recordOf t' u) p).cookie = (externalRecord (recordOf t u) p).cookie := by
  intro t'
  cases refuses with
  | true => exact ⟨inCharge, rfl⟩
  | false =>
    -- the row that has been written has the profile of the record that was handed out
    obtain ⟨row, found, profile⟩ : ∃ row, t'.find? u = some row ∧
        row.toProfile = (externalRecord (recordOf t u) p).toProfile := by
      cases hf : t.find? u with
      | none =>
        have accepted : t.upsert now (externalRecord { username := u } p) = _ :=
          Table.upsert_of_absent rfl hf
        simp only [t', externalLogin, kept, recordOf, hf, accepted]
        exact ⟨_, Table.find?_append_self hf rfl, rfl⟩
      | some old =>
        have hu : old.username = u := Table.username_of_find? hf
        have accepted : t.upsert now (externalRecord old.record p) = _ :=
          Table.upsert_of_present rfl (hu.symm ▸ hf)
        simp only [t', externalLogin, kept, recordOf, hf, accepted]
        exact ⟨_, Table.find?_overwrite_self hf rfl hu, rfl⟩
    have isExternal : row.kind = .external := congrArg Profile.kind profile
    refine ⟨takesLocal_eq_false_iff.2 (Or.inr ?_), ?_⟩
    · rw [Table.isLocal, found]
      simp [Profile.isLocal, isExternal]
    · -- making the record again from that row changes nothing, the cookie included
      have again : recordOf t' u = row.record := by rw [recordOf, found]
      rw [again]
      exact cookie_externalRecord_again profile

/-- **A login in such a state succeeds with the cookie, and leaves such a state**, written or
not. -/
theorem Welcomes.login {tree : Tree} {cookie : Option String}
    (h : Welcomes override tree u p cookie s) (refuses : Bool) (htree : scene.tree = tree)
    (usable : scene.databaseFault = none) :
    (∃ record,
      (authenticate { overrideLocal := override, refusing := refuses } scene u p s).result =
        .ok (some record) ∧ record.cookie = cookie) ∧
      Welcomes override tree u p cookie
        (authenticate { overrideLocal := override, refusing := refuses } scene u p s).state := by
  subst htree
  obtain ⟨scheme, matched⟩ := Option.isSome_iff_exists.1 h.matched
  have inCharge : takesLocal { overrideLocal := override, refusing := refuses }
      (s.refreshed scene.tree).credentials s.accounts u = false := h.inCharge
  obtain ⟨result, state⟩ := authenticate_of_external (p := p) usable h.reads inCharge
  rw [matched] at result state
  refine ⟨⟨_, result, ?_⟩, ?_⟩
  · rw [← h.cookie]
    exact congrArg Profile.cookie (toProfile_externalLogin _ _ _ _ _)
  · -- the state after a login welcomes the next one: the file is read again, to the same effect
    obtain ⟨inCharge', cookie'⟩ := externalLogin_again refuses scene.now.text p h.inCharge
    have again : ((s.credentials.refresh scene.tree).store.refresh scene.tree).store =
        (s.credentials.refresh scene.tree).store := Credential.Store.refresh_refresh_store
    rw [state]
    refine ⟨Credential.Store.refresh_refresh_isReport h.reads, ?_, ?_, cookie'.trans h.cookie⟩
    · simp only [RealmState.refreshed, again]
      exact inCharge'
    · simp only [RealmState.refreshed, again]
      exact h.matched

/-- A state in which a login has succeeded against the credential file welcomes it. -/
theorem welcomes_of_authenticate {record : Record}
    (answer : (authenticate { overrideLocal := override, refusing := true } scene u p s).result =
      .ok (some record))
    (external : (isLocal { overrideLocal := override, refusing := true } scene u s).result =
      .ok false) :
    Welcomes override scene.tree u p record.cookie s ∧
      (authenticate { overrideLocal := override, refusing := true } scene u p s).state =
        s.refreshed scene.tree := by
  have entry := entry_of_authenticate answer
  -- the record has come by the file, since the name is not local
  generalize (authenticate { overrideLocal := override, refusing := true } scene u p s).state =
    after at entry
  cases entry with
  | localAccount row asked taken found => exact absurd (asked.symm.trans external) nofun
  | external scheme asked reads taken matched =>
    exact ⟨⟨reads, taken, Option.isSome_iff_exists.2 ⟨scheme, matched⟩, rfl⟩, rfl⟩

/-- **An account store that refuses writes lets in whom a store that writes lets in.** In every
state and every scene, whichever way the realm decides about local accounts, for every name and
password: the two logins hand out nothing in the same cases and fail in the same cases with the same
failure. If both succeed and the credential file is in charge of the name, then

* the records are the same, but for the number and the time of creation if the name had no row;
* the login over the store that refuses leaves the table as it is;
* after either of them, the same login succeeds as often as it is repeated, over the same kind of
  store, on the same tree and at any times, and each time hands out a record with the same
  cookie. -/
theorem refused_writes_let_in_alike (override : Bool) (scene : Scene) (s : RealmState)
    (u p : String) :
    let refusing : Realm := { overrideLocal := override, refusing := true }
    let writing : Realm := { overrideLocal := override, refusing := false }
    let unwritten := refusing.authenticate scene u p s
    let written := writing.authenticate scene u p s
    (unwritten.result = .ok none ↔ written.result = .ok none) ∧
      (∀ e, unwritten.result = .error e ↔ written.result = .error e) ∧
      ∀ record record', unwritten.result = .ok (some record) →
        written.result = .ok (some record') →
        (writing.isLocal scene u s).result = .ok false →
        record.SameOnceWritten (s.accounts.find? u) record' ∧
          unwritten.state.accounts = s.accounts ∧
          ∀ (refuses : Bool) (scenes : List Scene),
            (∀ later ∈ scenes, later.tree = scene.tree ∧ later.databaseFault = none) →
            let realm : Realm := { overrideLocal := override, refusing := refuses }
            ∀ m ∈ realm.moments (realm.authenticate scene u p s).state
                (scenes.map (·, .authenticate u p)),
              ∃ again, m.handsOut realm = some again ∧ again.cookie = record.cookie := by
  intro refusing writing unwritten written
  have alike := endsAlike_authenticate override scene s u p
  refine ⟨alike.eq_none_iff, alike.eq_error_iff, fun record record' answer answer' external ↦ ?_⟩
  -- the answers of the two realms are compared once, for all three clauses
  obtain ⟨welcomes, state⟩ := welcomes_of_authenticate answer external
  have same : record.SameOnceWritten (s.accounts.find? u) record' := by
    rw [answer, answer'] at alike
    exact alike.related
  have kept : unwritten.state.accounts = s.accounts := by
    rw [show unwritten.state = s.refreshed scene.tree from state, RealmState.accounts_refreshed]
  refine ⟨same, kept, ?_⟩
  intro refuses scenes still realm
  -- every one of the logins finds a state that welcomes it
  have asks : ∀ m ∈ realm.moments (realm.authenticate scene u p s).state
      (scenes.map (·, .authenticate u p)), (m.scene.tree = scene.tree ∧
        m.scene.databaseFault = none) ∧ m.call = .authenticate u p := by
    intro m hm
    obtain ⟨later, hlater, hcall⟩ := List.mem_map.1 (mem_calls_of_mem_moments hm)
    obtain ⟨rfl, call⟩ := Prod.mk.inj hcall
    exact ⟨still _ hlater, call.symm⟩
  -- the first login is over, and the state that it leaves welcomes the second one
  have start : Welcomes override scene.tree u p record.cookie
      (realm.authenticate scene u p s).state := by
    have usable : scene.databaseFault = none := by
      cases fault : scene.databaseFault with
      | none => rfl
      | some broken => exact absurd answer ((refused_of_fault fault).1 record)
    exact (welcomes.login refuses rfl usable).2
  have finds : ∀ m ∈ realm.moments (realm.authenticate scene u p s).state
      -- and so on: what one login needs of the state before it, it leaves behind it
      (scenes.map (·, .authenticate u p)),
      Welcomes override scene.tree u p record.cookie m.before := by
    refine (moments_induction (fun m hm welcomes ↦ ?_) start).2
    obtain ⟨⟨still, usable⟩, call⟩ := asks m hm
    rw [Moment.after, call]
    exact (welcomes.login refuses still usable).2
  intro m hm
  -- a login that is welcomed hands out the cookie that it is welcomed with
  obtain ⟨⟨still, usable⟩, call⟩ := asks m hm
  obtain ⟨again, result, cookie⟩ := ((finds m hm).login refuses still usable).1
  rw [Moment.handsOut, call]
  exact ⟨again, join_toOption_eq_some_iff.2 result, cookie⟩

/-- A name without a row logs in over a store that refuses, without a number, and again the next
day, with the same cookie; over a store that writes it has number one. -/
theorem refused_writes_let_in_alike_at_first_login :
    let scene : Scene :=
      ⟨Credential.lone [97, 100, 97, 58, 120] 1, ⟨2024, 1, 1, 0, 0, 0, 0⟩, none⟩
    let later : Scene := { scene with now := ⟨2024, 1, 2, 0, 0, 0, 0⟩ }
    let s : RealmState := ⟨{ path := ⟨"/", ["htpasswd"]⟩ }, {}⟩
    let refusing : Realm := { refusing := true }
    let first := refusing.authenticate scene "ada" "x" s
    let writing : Realm := {}
    ∃ record record' again, first.result = .ok (some record) ∧
      (writing.authenticate scene "ada" "x" s).result = .ok (some record') ∧
      record.undated = record'.undated ∧ record.id = none ∧ record'.id = some 1 ∧
      first.state.accounts = {} ∧
      refusing.handsOut later first.state (.authenticate "ada" "x") = some again ∧
      again.cookie = record.cookie := by
  intro scene later s refusing first writing
  have spelt : Credential.spell? {} [97, 100, 97, 58, 120] =
      some ['a', 'd', 'a', ':', 'x'] := by decide
  have read : s.credentials.refresh scene.tree = _ :=
    Credential.Store.refresh_lone rfl nofun spelt
  have reads : (s.credentials.refresh scene.tree).isReport = true :=
    Credential.Store.isReport_refresh_lone rfl nofun spelt
  have matched : scheme? (s.refreshed scene.tree).credentials "ada" "x" = some .plain := by
    rw [RealmState.refreshed, read]
    decide
  have answer : first.result = _ := (authenticate_of_external rfl reads
    (takesLocal_eq_false_iff.2 (Or.inr rfl))).1
  have answer' : (writing.authenticate scene "ada" "x" s).result = _ :=
    (authenticate_of_external rfl reads (takesLocal_eq_false_iff.2 (Or.inr rfl))).1
  rw [matched] at answer answer'
  have asked : writing.isLocal scene "ada" s = _ := isLocal_apply rfl fun _ ↦ reads
  have external : (writing.isLocal scene "ada" s).result = .ok false := by
    rw [asked, takesLocal_eq_false_iff.2 (Or.inr rfl)]
  obtain ⟨-, -, alike⟩ := refused_writes_let_in_alike true scene s "ada" "x"
  -- the theorem at the empty state, with the login repeated a day later
  obtain ⟨same, kept, again⟩ := alike _ _ answer answer' external
  obtain ⟨record, handed, cookie⟩ := again true [later] (by simp [later, scene])
    ⟨later, .authenticate "ada" "x", first.state⟩ List.mem_cons_self
  exact ⟨_, _, record, answer, answer', same.shown, rfl, rfl, kept, handed, cookie⟩

end Realm

end AuthRealm
