import AuthRealm.Proofs.Account.Writing
import AuthRealm.Proofs.Realm.Run

/-!
# Who logs in with the account store, and whether it calls him local

The account store decides in two ways whether a password is its own to check. A login looks at the
hash alone, and goes by the sentinel; locality looks at the kind of the account as well. So the two
disagree on an external account with a hash of its own (`Profile.ExternalWith`), **and on no other**
(`login_and_locality_disagree_iff`).

No realm makes such an account: an external login leaves the sentinel. So if there is one in a
reachable table, it has been written from outside. `ReachableBy` tells apart what may be written,
and an invariant of the table that calls and allowed writes keep is proved of it once
(`ReachableBy.accounts_induction`). Here the invariant is that there is no such account.
-/

namespace AuthRealm

open Account Storage

namespace Account

/-- **An external account with a hash of its own**, where the sentinel should be. -/
structure Profile.ExternalWith (profile : Profile) (hash : String) : Prop where
  kind : profile.kind = .external
  secret : profile.hashedPassword = some hash
  given : hash ≠ ""
  own : hash ≠ externalSentinel

/-- Apart from the sentinel, whether an account is local is its kind. -/
theorem Profile.isLocal_eq_kind {profile : Profile} {hash : String}
    (secret : profile.hashedPassword = some hash) (own : hash ≠ externalSentinel) :
    profile.isLocal = (profile.kind == .localAccount) := by
  have other : (profile.hashedPassword != some externalSentinel) = true := by
    simp [secret, own]
  rw [isLocal, other, Bool.and_true]

namespace Table

variable {t t' : Table} {now u : String} {record written : Record}

/-- A table in which no external account has a hash of its own. -/
def Parted (t : Table) : Prop :=
  ∀ row ∈ t.rows, ∀ hash, ¬ row.ExternalWith hash

theorem parted_empty : ({} : Table).Parted :=
  fun _ hrow ↦ absurd hrow List.not_mem_nil

/-- Rows of a parted table, or such as are no external accounts with hashes, make a parted table. -/
theorem Parted.of_mem (h : t.Parted) (rows : ∀ row ∈ t'.rows,
    row ∈ t.rows ∨ ∀ hash, ¬ row.ExternalWith hash) : t'.Parted := by
  intro row hrow
  rcases rows row hrow with old | other
  · exact h row old
  · exact other

theorem Parted.upsert (h : t.Parted) (other : ∀ hash, ¬ record.ExternalWith hash)
    (accepted : t.upsert now record = .ok (t', written)) : t'.Parted := by
  refine h.of_mem fun row hrow ↦ (mem_of_upsert accepted hrow).imp_right fun same ↦ ?_
  rw [same]
  exact other

theorem Parted.create (h : t.Parted) (other : ∀ hash, ¬ record.ExternalWith hash) {id : Nat}
    (accepted : t.create now record = .ok (t', id)) : t'.Parted := by
  refine h.of_mem fun row hrow ↦ (mem_of_create accepted hrow).imp_right fun same ↦ ?_
  rw [same]
  exact other

theorem Parted.delete (h : t.Parted) (u : String) : (t.delete u).1.Parted :=
  h.of_mem fun _ hrow ↦ Or.inl (List.mem_of_mem_filter hrow)

/-- Noting a login changes neither kind nor hash. -/
theorem Parted.stampLogin (h : t.Parted) (now u : String) : (t.stampLogin now u).Parted := by
  intro row hrow hash both
  obtain ⟨old, hold, rfl⟩ := List.mem_map.1 hrow
  refine h old hold hash ?_
  split at both
  · exact ⟨both.kind, both.secret, both.given, both.own⟩
  · exact both

end Table

end Account

/-! ### Histories with some writes only -/

/-- **The states reachable by some writes**: as the reachable ones are, with no writes from outside
but those that are allowed. -/
inductive ReachableBy (allowed : Write → Prop) : RealmState → Prop where
  | start (path : Path) (charset : Text.Encoding) :
      ReachableBy allowed ⟨{ path := path, charset := charset }, {}⟩
  | restart {s : RealmState} (path : Path) (charset : Text.Encoding) (h : ReachableBy allowed s) :
      ReachableBy allowed ⟨{ path := path, charset := charset }, s.accounts⟩
  | refresh {s : RealmState} (tree : Tree) (h : ReachableBy allowed s) :
      ReachableBy allowed (s.refreshed tree)
  | call {s : RealmState} (realm : Realm) (scene : Scene) (call : Call)
      (h : ReachableBy allowed s) : ReachableBy allowed (realm.after scene s call)
  | write {s : RealmState} (scene : Scene) (w : Write) (hw : allowed w)
      (h : ReachableBy allowed s) : ReachableBy allowed (w.after scene s)

namespace ReachableBy

variable {allowed : Write → Prop} {s : RealmState}

/-- If everything is allowed, these are the reachable states. -/
theorem reachable_iff : ReachableBy (fun _ ↦ True) s ↔ Reachable s := by
  -- step by step; `ReachableBy` only asks something more of what is written
  constructor
  · intro h
    induction h with
    | start path charset => exact .start path charset
    | restart path charset h ih => exact .restart path charset ih
    | refresh tree h ih => exact .refresh tree ih
    | call realm scene call h ih => exact .call realm scene call ih
    | write scene w hw h ih => exact .write scene w ih
  · intro h
    induction h with
    | start path charset => exact .start path charset
    | restart path charset h ih => exact .restart path charset ih
    | refresh tree h ih => exact .refresh tree ih
    | call realm scene call h ih => exact .call realm scene call ih
    | write scene w h ih => exact .write scene w trivial ih

/-- **What calls and allowed writes keep of a table** holds of every table that they lead to. -/
theorem accounts_induction {P : Table → Prop} (empty : P {})
    (call : ∀ (realm : Realm) scene (s : RealmState) call, P s.accounts →
      P (realm.after scene s call).accounts)
    (write : ∀ scene (s : RealmState) w, allowed w → P s.accounts → P (w.after scene s).accounts)
    (h : ReachableBy allowed s) : P s.accounts := by
  induction h with
  | start path charset => exact empty
  | restart path charset h ih => exact ih
  | refresh tree h ih => exact ih
  | call realm scene c h ih => exact call realm scene _ c ih
  | write scene w hw h ih => exact write scene _ w hw ih

end ReachableBy

/-! ### Where external accounts with hashes come from -/

/-- A write that gives an external account a hash of its own. -/
def Write.GivesHash : Write → Prop
  | .create record | .update record => ∃ hash, record.ExternalWith hash
  | .delete _ | .stampLogin _ => False

/-- **A call makes no external account with a hash**: an external login leaves the sentinel. -/
theorem Realm.parted_after (realm : Realm) (scene : Scene) (s : RealmState) (call : Call)
    (h : s.accounts.Parted) : (realm.after scene s call).accounts.Parted := by
  cases call with
  | isLocal u => exact keepsAccounts_isLocal realm scene u s ▸ h
  | authenticateCookie cookie => exact keepsAccounts_authenticateCookie scene cookie s ▸ h
  | authenticate u p =>
    show (realm.authenticate scene u p s).state.accounts.Parted
    cases login_authenticate realm scene u p s with
    | nobody refused kept => exact kept ▸ h
    | localAccount row taken found answer written => exact written ▸ h.stampLogin _ u
    | external scheme taken matched answer written =>
      rw [written]
      -- what an external login writes has the mark of external accounts for a hash, which is not
      -- `own`
      refine h.of_mem fun row hrow ↦ (mem_of_kept hrow).imp_right fun same hash both ↦ ?_
      rw [same] at both
      exact both.own (Option.some.inj both.secret).symm

/-- **No more does a write**, unless it brings one. -/
theorem Write.parted_after (scene : Scene) (s : RealmState) (w : Write) (other : ¬ w.GivesHash)
    (h : s.accounts.Parted) : (w.after scene s).accounts.Parted := by
  have lands := w.lands scene s
  generalize (w.after scene s).accounts = t' at lands ⊢
  cases lands with
  | kept => exact h
  | created accepted => exact h.create (not_exists.1 other) accepted
  | updated accepted => exact h.upsert (not_exists.1 other) accepted
  | deleted username => exact h.delete username
  | stamped username => exact h.stampLogin _ username

/-- **Where nothing has brought one, there is no external account with a hash.** -/
theorem ReachableBy.parted {s : RealmState} (h : ReachableBy (¬ ·.GivesHash) s) :
    s.accounts.Parted :=
  h.accounts_induction Table.parted_empty Realm.parted_after Write.parted_after

/-! ### Login and locality -/

namespace Account.Store

variable {scene : Scene} {s : RealmState} {u p : String} {record : Record}

/-- The account store lets in the row that logs in, if there is a database, -/
theorem result_authenticate_eq_some_iff :
    (authenticate scene u p s).result = .ok (some record) ↔
      scene.databaseFault = none ∧
        ∃ row, login? s.accounts u p = some row ∧ row.record = record := by
  cases fault : scene.databaseFault with
  | some fault' => simp [authenticate, Action.bind_apply, Action.accounts_of_fault fault]
  | none =>
    rw [authenticate_apply fault]
    cases login? s.accounts u p with
    | none => simp
    | some row => simp

/-- and tells whether a name is local. -/
theorem result_isLocal_eq_ok_iff {answer : Bool} :
    (isLocal scene u s).result = .ok answer ↔
      scene.databaseFault = none ∧ s.accounts.isLocal u = answer := by
  cases fault : scene.databaseFault with
  | some fault' => simp [isLocal_of_fault fault]
  | none => simp [isLocal_apply fault]

/-- A name that logs in is local if the account is of the local kind. -/
theorem isLocal_of_login {row : Row} (login : login? s.accounts u p = some row) :
    s.accounts.isLocal u = (row.kind == .localAccount) := by
  obtain ⟨found, matched, -⟩ := login?_eq_some_iff.1 login
  obtain ⟨hash, secret, -, own, -⟩ := passwordMatches_eq_true_iff.1 matched
  rw [Table.isLocal, found]
  exact Profile.isLocal_eq_kind secret own

theorem isLocal_of_authenticate (answer : (authenticate scene u p s).result = .ok (some record)) :
    (isLocal scene u s).result = .ok (record.kind == .localAccount) := by
  obtain ⟨usable, row, login, rfl⟩ := result_authenticate_eq_some_iff.1 answer
  exact result_isLocal_eq_ok_iff.2 ⟨usable, isLocal_of_login login⟩

/-- An external account logs in with a hash of its own. -/
theorem exists_externalWith_of_login {row : Row} (login : login? s.accounts u p = some row)
    (kind : row.kind = .external) :
    ∃ hash, row.ExternalWith hash ∧ Password.verify p hash = true := by
  obtain ⟨-, matched, -⟩ := login?_eq_some_iff.1 login
  obtain ⟨hash, secret, given, own, verifies⟩ := passwordMatches_eq_true_iff.1 matched
  exact ⟨hash, ⟨kind, secret, given, own⟩, verifies⟩

/-- **Login and locality disagree**: the account store lets a name in with a password, and says that
it is not local. -/
def Disagrees (scene : Scene) (s : RealmState) (u p : String) : Prop :=
  (∃ record, (authenticate scene u p s).result = .ok (some record)) ∧
    (isLocal scene u s).result = .ok false

theorem disagrees_iff (h : s.accounts.WellFormed) : Disagrees scene s u p ↔
    scene.databaseFault = none ∧ ∃ row ∈ s.accounts.rows, row.username = u ∧ row.isActive = true ∧
      ∃ hash, row.ExternalWith hash ∧ Password.verify p hash = true := by
  constructor
  · rintro ⟨⟨record, answer⟩, asked⟩
    obtain ⟨usable, row, login, rfl⟩ := result_authenticate_eq_some_iff.1 answer
    obtain ⟨found, -, active⟩ := login?_eq_some_iff.1 login
    have external : row.kind = .external := by
      -- the question who is in charge and the login are put to the same row
      have kind := (isLocal_of_login login).symm.trans (result_isLocal_eq_ok_iff.1 asked).2
      cases hk : row.kind with
      | external => rfl
      | localAccount => exact absurd (hk ▸ kind) nofun
    exact ⟨usable, row, Table.mem_of_find? found, Table.username_of_find? found, active,
      exists_externalWith_of_login login external⟩
  · rintro ⟨usable, row, hrow, rfl, active, hash, external, verifies⟩
    have matched := passwordMatches_eq_true_iff.2
      ⟨hash, external.secret, external.given, external.own, verifies⟩
    have login := login?_eq_some_iff.2 ⟨h.find?_of_mem hrow, matched, active⟩
    -- the row lets in by its hash, and is not local by its kind
    have notLocal : s.accounts.isLocal row.username = false := by
      rw [isLocal_of_login login, external.kind]
      rfl
    exact ⟨⟨_, result_authenticate_eq_some_iff.2 ⟨usable, row, login, rfl⟩⟩,
      result_isLocal_eq_ok_iff.2 ⟨usable, notLocal⟩⟩

/-- In a parted table they agree. -/
theorem isLocal_of_parted (h : s.accounts.Parted)
    (answer : (authenticate scene u p s).result = .ok (some record)) :
    (isLocal scene u s).result = .ok true := by
  obtain ⟨usable, row, login, rfl⟩ := result_authenticate_eq_some_iff.1 answer
  refine result_isLocal_eq_ok_iff.2 ⟨usable, ?_⟩
  rw [isLocal_of_login login]
  cases hk : row.kind with
  | localAccount => rfl
  | external =>
    obtain ⟨hash, external, -⟩ := exists_externalWith_of_login login hk
    have hrow := Table.mem_of_find? (login?_eq_some_iff.1 login).1
    exact absurd external (h row hrow hash)

/-- The sentinel lets nobody in, be it the password itself. -/
theorem authenticate_ne_of_sentinel (h : s.accounts.WellFormed) {row : Row}
    (hrow : row ∈ s.accounts.rows) (secret : row.hashedPassword = some externalSentinel)
    (record : Record) : (authenticate scene row.username p s).result ≠ .ok (some record) := by
  intro answer
  obtain ⟨-, row', login, -⟩ := result_authenticate_eq_some_iff.1 answer
  obtain ⟨found, matched, -⟩ := login?_eq_some_iff.1 login
  obtain rfl : row = row' := Option.some.inj ((h.find?_of_mem hrow).symm.trans found)
  obtain ⟨hash, secret', -, own, -⟩ := passwordMatches_eq_true_iff.1 matched
  exact own (Option.some.inj (secret'.symm.trans secret))

/-- A write of an external account with a hash makes them disagree. -/
theorem disagrees_after_update (usable : scene.databaseFault = none) (h : s.accounts.WellFormed)
    {hash : String} (external : record.ExternalWith hash) (active : record.isActive = true)
    (given : record.role ≠ none) (verifies : Password.verify p hash = true) :
    Disagrees scene ((Write.update record).after scene s) record.username p := by
  have after : ((Write.update record).after scene s).accounts.WellFormed :=
    Write.wellFormed_after scene _ h
  obtain ⟨role, hrole⟩ := Option.ne_none_iff_exists'.1 given
  obtain ⟨t', written, accepted, upserted⟩ := h.keyed.upserted scene.now.text hrole
  obtain ⟨row, found, rfl⟩ := upserted.found
  -- what has been written is read back, and it has everything that the disagreement takes
  have profile : row.toProfile = record.toProfile := upserted.kept.1
  have updated : (Write.update record).after scene s = { s with accounts := t' } := by
    rw [Write.after, update_apply usable accepted]
  rw [updated] at after ⊢
  refine (disagrees_iff after).2 ⟨usable, row, Table.mem_of_find? found,
    Table.username_of_find? found, ?_, hash, ?_, verifies⟩
  · rw [profile, active]
  · rwa [profile]

/-- **Login and locality disagree on external accounts with a hash of their own, and on no others.**
In every reachable state, for every name and password:

* a name that the account store lets in is local exactly if the record handed out is of the local
  kind;
* they disagree exactly if the row of the name is active and external, and has a hash of its own
  which is one of the password, over a database that can be used;
* a row with the sentinel for a hash lets nobody in;
* if no write from outside has given an external account a hash of its own, then whoever is let in
  is local;
* and one such write, of an active account with a role, makes them disagree. -/
theorem login_and_locality_disagree_iff (scene : Scene) (h : Reachable s) (u p : String) :
    (∀ record, (authenticate scene u p s).result = .ok (some record) →
        (isLocal scene u s).result = .ok (record.kind == .localAccount)) ∧
      (Disagrees scene s u p ↔ scene.databaseFault = none ∧
        ∃ row ∈ s.accounts.rows, row.username = u ∧ row.isActive = true ∧
          ∃ hash, row.ExternalWith hash ∧ Password.verify p hash = true) ∧
      (∀ row ∈ s.accounts.rows, row.username = u → row.hashedPassword = some externalSentinel →
        ∀ record, (authenticate scene u p s).result ≠ .ok (some record)) ∧
      (ReachableBy (¬ ·.GivesHash) s →
        ∀ record, (authenticate scene u p s).result = .ok (some record) →
          (isLocal scene u s).result = .ok true) ∧
      ∀ (record : Record) (hash : String), scene.databaseFault = none →
        record.ExternalWith hash → record.isActive = true → record.role ≠ none →
        Password.verify p hash = true →
          Disagrees scene ((Write.update record).after scene s) record.username p := by
  refine ⟨fun _ ↦ isLocal_of_authenticate, disagrees_iff h.wellFormed, ?_,
    fun history _ ↦ isLocal_of_parted history.parted, ?_⟩
  · rintro row hrow rfl secret record
    exact authenticate_ne_of_sentinel h.wellFormed hrow secret record
  · intro record hash usable external active given verifies
    exact disagrees_after_update usable h.wellFormed external active given verifies

/-- An account that was created as external, with a hash of its own: it is not local, and exactly
the passwords of that hash log in. -/
theorem login_and_locality_disagree_over_created_account :
    let record : Record :=
      { username := "ext", kind := .external
        hashedPassword := some "$2b$04$abcdefghijklmnopqrstuuyvPXIbu7xe6/CED2DzX8z6Si09MlzlW" }
    let scene : Scene := ⟨⟨[]⟩, ⟨2024, 1, 1, 0, 0, 0, 0⟩, none⟩
    let s := (Write.create record).after scene ⟨{ path := ⟨"/", ["htpasswd"]⟩ }, {}⟩
    s.accounts.isLocal "ext" = false ∧ ∀ p, Disagrees scene s "ext" p ↔
      Password.verify p "$2b$04$abcdefghijklmnopqrstuuyvPXIbu7xe6/CED2DzX8z6Si09MlzlW" = true := by
  intro record scene s
  have hs : Reachable s := .write scene (.create record) (.start _ _)
  refine ⟨by decide, fun p ↦ ?_⟩
  -- the one row of the table is the one that disagrees
  rw [(login_and_locality_disagree_iff scene hs "ext" p).2.1]
  constructor
  · rintro ⟨-, row, hrow, -, -, hash, external, verifies⟩
    obtain rfl := List.mem_singleton.1 hrow
    rwa [← Option.some.inj external.secret] at verifies
  · intro verifies
    exact ⟨rfl, _, List.mem_cons_self, rfl, rfl, _, ⟨rfl, rfl, by decide, by decide⟩, verifies⟩

end Account.Store

end AuthRealm
