import AuthRealm.Proofs.Realm.Run

/-!
# What a run may change

An external login writes back a whole record that it has read before, nine fields for the sake of
three. Here it is said what a realm may change, and who changes it.

* **Row by row** (`Row.Becomes`): number, name, role, creation time, display name, e-mail address
  and activity stay; a cookie that is there stays; the time of the last login moves only with a
  login that the account store has checked, and hash and kind only to the sentinel and `external`,
  with a login that the credential file has let in.
* **Call by call** (`Moment.Framed`): a call that hands out no record changes nothing, nor does a
  cookie; a login changes the row of its name, or adds one.

The second is proved of one call, from the cases of a login (`login_authenticate`); the first
follows for a run by composing its calls (`Evolves.trans`). The table has to be well-formed, since a
row is overwritten by its number and looked up by its name.
-/

namespace AuthRealm

open Account Storage

/-! ### What becomes of rows -/

namespace Account

/-- **What may become of a row**, with what has to have happened: `byStore`, a login that the
account store has checked, and `byFile`, one that the credential file has let in. -/
structure Row.Becomes (byStore byFile : Prop) (old new : Row) : Prop where
  id : new.id = old.id
  username : new.username = old.username
  createdAt : new.createdAt = old.createdAt
  displayName : new.displayName = old.displayName
  email : new.email = old.email
  role : new.role = old.role
  isActive : new.isActive = old.isActive
  cookie : old.cookie.getD "" ≠ "" → new.cookie = old.cookie
  lastLogin : new.lastLogin = old.lastLogin ∨ byStore
  secret : (new.hashedPassword = old.hashedPassword ∧ new.kind = old.kind) ∨
    (byFile ∧ new.hashedPassword = some externalSentinel ∧ new.kind = .external)

namespace Row

variable {byStore byFile byStore' byFile' : Prop} {old mid new : Row}

theorem Becomes.refl (byStore byFile : Prop) (row : Row) : Becomes byStore byFile row row :=
  ⟨rfl, rfl, rfl, rfl, rfl, rfl, rfl, fun _ ↦ rfl, Or.inl rfl, Or.inl ⟨rfl, rfl⟩⟩

/-- Two changes, one after the other. What holds a cookie the first time holds it the second time.
-/
theorem Becomes.trans (h : Becomes byStore byFile old mid) (h' : Becomes byStore' byFile' mid new) :
    Becomes (byStore ∨ byStore') (byFile ∨ byFile') old new where
  id := h'.id.trans h.id
  username := h'.username.trans h.username
  createdAt := h'.createdAt.trans h.createdAt
  displayName := h'.displayName.trans h.displayName
  email := h'.email.trans h.email
  role := h'.role.trans h.role
  isActive := h'.isActive.trans h.isActive
  cookie := by
    intro given
    -- a cookie that was there has been kept, so it is there for the second change too
    have hmid := h.cookie given
    exact (h'.cookie (by rwa [hmid])).trans hmid
  lastLogin := by
    rcases h'.lastLogin with same' | changed'
    · rcases h.lastLogin with same | changed
      · exact Or.inl (same'.trans same)
      · exact Or.inr (Or.inl changed)
    · exact Or.inr (Or.inr changed')
  secret := by
    rcases h'.secret with ⟨hash', kind'⟩ | ⟨changed', hash', kind'⟩
    · rcases h.secret with ⟨hash, kind⟩ | ⟨changed, hash, kind⟩
      · exact Or.inl ⟨hash'.trans hash, kind'.trans kind⟩
      · exact Or.inr ⟨Or.inl changed, hash'.trans hash, kind'.trans kind⟩
    · exact Or.inr ⟨Or.inr changed', hash', kind'⟩

theorem Becomes.mono (h : Becomes byStore byFile old new) (hstore : byStore → byStore')
    (hfile : byFile → byFile') : Becomes byStore' byFile' old new :=
  { h with
    lastLogin := h.lastLogin.imp_right hstore
    secret := h.secret.imp_right fun changed ↦ ⟨hfile changed.1, changed.2⟩ }

/-- Noting a login changes its time and nothing else. -/
theorem becomes_stamped (h : byStore) (old : Row) (now : String) :
    Becomes byStore byFile old { old with lastLogin := some now } where
  id := rfl
  username := rfl
  createdAt := rfl
  displayName := rfl
  email := rfl
  role := rfl
  isActive := rfl
  cookie := fun _ ↦ rfl
  lastLogin := Or.inr h
  secret := Or.inl ⟨rfl, rfl⟩

end Row

/-- The rows of a table after a change, where `byStore` and `byFile` say of which names there was a
login: each row is still there, as what may become of it. -/
def Table.Evolves (byStore byFile : String → Prop) (t t' : Table) : Prop :=
  ∀ old ∈ t.rows, ∃ new ∈ t'.rows,
    Row.Becomes (byStore old.username) (byFile old.username) old new

namespace Table

variable {byStore byFile byStore' byFile' : String → Prop} {t t' t'' : Table} {u : String}

theorem Evolves.refl (byStore byFile : String → Prop) (t : Table) : Evolves byStore byFile t t :=
  fun old hold ↦ ⟨old, hold, Row.Becomes.refl _ _ old⟩

theorem Evolves.trans (h : Evolves byStore byFile t t') (h' : Evolves byStore' byFile' t' t'') :
    Evolves (fun u ↦ byStore u ∨ byStore' u) (fun u ↦ byFile u ∨ byFile' u) t t'' := by
  intro old hold
  obtain ⟨mid, hmid, becomes⟩ := h old hold
  obtain ⟨new, hnew, becomes'⟩ := h' mid hmid
  rw [becomes.username] at becomes'
  exact ⟨new, hnew, becomes.trans becomes'⟩

theorem Evolves.mono (h : Evolves byStore byFile t t') (hstore : ∀ u, byStore u → byStore' u)
    (hfile : ∀ u, byFile u → byFile' u) : Evolves byStore' byFile' t t' := by
  intro old hold
  obtain ⟨new, hnew, becomes⟩ := h old hold
  exact ⟨new, hnew, becomes.mono (hstore _) (hfile _)⟩

theorem evolves_append (byStore byFile : String → Prop) (t : Table) (row : Row) :
    Evolves byStore byFile t ⟨t.rows ++ [row]⟩ :=
  fun old hold ↦ ⟨old, List.mem_append_left _ hold, Row.Becomes.refl _ _ old⟩

theorem evolves_modify {f : Row → Row}
    (h : ∀ old ∈ t.rows, old.username = u → Row.Becomes (byStore u) (byFile u) old (f old)) :
    Evolves byStore byFile t (t.modify u f) := by
  intro old hold
  by_cases hu : old.username = u
  · refine ⟨f old, mem_modify_of_eq hold hu, ?_⟩
    rw [hu]
    exact h old hold hu
  · exact ⟨old, mem_modify_of_ne hold hu, Row.Becomes.refl _ _ old⟩

end Table

end Account

namespace Realm

/-! ### What an external login writes -/

/-- The row of an account after an external login. -/
def externalRow (old : Row) (p : String) : Row :=
  Table.rowOf (externalRecord old.record p) old.role old.id old.createdAt

/-- The row that an external login adds for a name without one. -/
def firstRow (t : Table) (now u p : String) : Row :=
  Table.rowOf (externalRecord { username := u } p) "user" t.nextId now

theorem becomes_externalRow {byStore byFile : Prop} (h : byFile) (old : Row) (p : String) :
    Row.Becomes byStore byFile old (externalRow old p) where
  id := rfl
  username := rfl
  createdAt := rfl
  displayName := rfl
  email := rfl
  role := rfl
  isActive := rfl
  cookie := by
    intro given
    -- a cookie is only made for a record without one
    have kept : ¬ (old.cookie.getD "" = "" && p != "") = true := by simp [given]
    exact if_neg kept
  lastLogin := Or.inl rfl
  secret := Or.inr ⟨h, rfl, rfl⟩

variable {realm : Realm} {t : Table} {now u p : String}

/-- The first external login of a name that has no row adds one. -/
theorem externalLogin_of_absent (writes : realm.refusing = false) (absent : t.find? u = none) :
    realm.externalLogin t now u p =
      (⟨t.rows ++ [firstRow t now u p]⟩, (firstRow t now u p).record) := by
  have hrecord : recordOf t u = { username := u } := by simp only [recordOf, absent]
  have accepted : t.upsert now (externalRecord { username := u } p) = _ :=
    Table.upsert_of_absent rfl absent
  rw [externalLogin, hrecord, kept, writes, if_neg Bool.false_ne_true, accepted]
  rfl

/-- Any other modifies the row of the name. -/
theorem externalLogin_of_present (writes : realm.refusing = false) (h : t.WellFormed) {old : Row}
    (found : t.find? u = some old) :
    realm.externalLogin t now u p =
      (t.modify u fun _ ↦ externalRow old p, (externalRow old p).record) := by
  have hu : old.username = u := Table.username_of_find? found
  have hrecord : recordOf t u = old.record := by simp only [recordOf, found]
  have found' : t.find? (externalRecord old.record p).username = some old := hu.symm ▸ found
  have accepted : t.upsert now (externalRecord old.record p) = _ :=
    Table.upsert_of_present rfl found'
  have overwritten : t.overwrite (externalRow old p) = _ := h.keyed.overwrite_eq_modify found' rfl
  rw [externalLogin, hrecord, kept, writes, if_neg Bool.false_ne_true, accepted]
  -- the write picks the row by its number, the modified table by its name
  show (t.overwrite (externalRow old p), _) = _
  rw [overwritten]
  show (t.modify old.username _, _) = _
  rw [hu]
  rfl

end Realm

/-! ### Call by call -/

namespace Moment

variable {realm : Realm} {m : Moment} {u p : String}

/-- A successful login of a name whose password the account store has checked. -/
def LocalLogin (m : Moment) (realm : Realm) (u : String) : Prop :=
  (∃ p, m.call = .authenticate u p) ∧ (m.handsOut realm).isSome = true ∧
    (realm.isLocal m.scene u m.before).result = .ok true

/-- A successful login of a name that the credential file has let in. -/
def ExternalLogin (m : Moment) (realm : Realm) (u : String) : Prop :=
  (∃ p, m.call = .authenticate u p) ∧ (m.handsOut realm).isSome = true ∧
    (realm.isLocal m.scene u m.before).result = .ok false

/-- A table with the row of one name changed in its place, or added at the end with the role of a
user. -/
def ChangesOnly (u : String) (t t' : Table) : Prop :=
  ((t.find? u).isSome = true ∧ ∃ f, t' = t.modify u f) ∨
    (t.find? u = none ∧ ∃ row, t' = ⟨t.rows ++ [row]⟩ ∧ row.username = u ∧ row.role = "user")

/-- **What a call may change.** -/
structure Framed (m : Moment) (realm : Realm) : Prop where
  rows : Table.Evolves (m.LocalLogin realm) (m.ExternalLogin realm) m.before.accounts
    (m.after realm).accounts
  nobody : m.handsOut realm = none → (m.after realm).accounts = m.before.accounts
  cookie : ∀ c, m.call = .authenticateCookie c → (m.after realm).accounts = m.before.accounts
  login : ∀ u p, m.call = .authenticate u p → (m.handsOut realm).isSome = true →
    ChangesOnly u m.before.accounts (m.after realm).accounts

/-- A call that leaves the table alone changes nothing, if it is no login that succeeds. -/
theorem framed_of_kept (kept : (m.after realm).accounts = m.before.accounts)
    (nobody : ∀ u p, m.call = .authenticate u p → m.handsOut realm = none) : m.Framed realm where
  rows := by
    rw [kept]
    exact Table.Evolves.refl _ _ _
  nobody := fun _ ↦ kept
  cookie := fun _ _ ↦ kept
  login := fun u p hcall some ↦ absurd some (by simp [nobody u p hcall])

/-- A successful login changes one row. -/
theorem framed_of_login (hcall : m.call = .authenticate u p)
    (handed : (m.handsOut realm).isSome = true)
    (rows : Table.Evolves (m.LocalLogin realm) (m.ExternalLogin realm) m.before.accounts
      (m.after realm).accounts)
    (changes : ChangesOnly u m.before.accounts (m.after realm).accounts) : m.Framed realm where
  rows := rows
  nobody := fun none ↦ absurd handed (by simp [none])
  cookie := fun c hc ↦ absurd (hcall.symm.trans hc) nofun
  login := by
    intro u' p' hcall' _
    obtain ⟨rfl, -⟩ := Call.authenticate.inj (hcall.symm.trans hcall')
    exact changes

theorem framed_of_local (hcall : m.call = .authenticate u p) {row : Row}
    (taken : (realm.isLocal m.scene u m.before).result = .ok true)
    (found : Store.login? m.before.accounts u p = some row)
    (handed : (m.handsOut realm).isSome = true)
    (written : (m.after realm).accounts = m.before.accounts.stampLogin m.scene.now.text u) :
    m.Framed realm := by
  have byStore : m.LocalLogin realm u := ⟨⟨p, hcall⟩, handed, taken⟩
  have present : m.before.accounts.find? u = some row := (Store.login?_eq_some_iff.1 found).1
  rw [Table.stampLogin_eq_modify] at written
  refine framed_of_login hcall handed ?_ (Or.inl ⟨by rw [present]; rfl, _, written⟩)
  rw [written]
  exact Table.evolves_modify fun old _ _ ↦ Row.becomes_stamped byStore old _

theorem framed_of_external (writes : realm.refusing = false) (h : m.before.accounts.WellFormed)
    (hcall : m.call = .authenticate u p)
    (taken : (realm.isLocal m.scene u m.before).result = .ok false)
    (handed : (m.handsOut realm).isSome = true)
    (written : (m.after realm).accounts =
      (realm.externalLogin m.before.accounts m.scene.now.text u p).1) : m.Framed realm := by
  have byFile : m.ExternalLogin realm u := ⟨⟨p, hcall⟩, handed, taken⟩
  cases hf : m.before.accounts.find? u with
  | none =>
    have changed := written.trans (congrArg Prod.fst (Realm.externalLogin_of_absent writes hf))
    refine framed_of_login hcall handed ?_ (Or.inr ⟨hf, _, changed, rfl, rfl⟩)
    rw [changed]
    exact Table.evolves_append _ _ _ _
  | some old =>
    have changed := written.trans
      (congrArg Prod.fst (Realm.externalLogin_of_present writes h hf))
    refine framed_of_login hcall handed ?_ (Or.inl ⟨by rw [hf]; rfl, _, changed⟩)
    rw [changed]
    refine Table.evolves_modify fun old' hmem hu ↦ ?_
    -- the row of the name is the one that was read
    have hfind := h.find?_of_mem hmem
    rw [hu, hf] at hfind
    obtain rfl : old = old' := Option.some.inj hfind
    exact Realm.becomes_externalRow byFile old p

/-- **Every call changes no more than it may.** -/
theorem framed (writes : realm.refusing = false) (m : Moment) (h : m.before.accounts.WellFormed) :
    m.Framed realm := by
  obtain ⟨scene, call, s⟩ := m
  -- two of the calls write nothing, and a login writes as its outcome says
  cases call with
  | isLocal u =>
    exact framed_of_kept (Realm.keepsAccounts_isLocal realm scene u s) fun _ _ ↦ nofun
  | authenticateCookie cookie =>
    exact framed_of_kept (Realm.keepsAccounts_authenticateCookie scene cookie s) fun _ _ ↦ nofun
  | authenticate u p =>
    have hcall : (Moment.mk scene (.authenticate u p) s).call = .authenticate u p := rfl
    cases Realm.login_authenticate realm scene u p s with
    | nobody refused kept =>
      refine framed_of_kept kept fun _ _ _ ↦ Option.eq_none_iff_forall_ne_some.2 fun record hr ↦ ?_
      exact refused record (Realm.join_toOption_eq_some_iff.1 hr)
    | localAccount row taken found answer written =>
      have handed := Option.isSome_iff_exists.2
        ⟨_, Realm.join_toOption_eq_some_iff.2 answer⟩
      exact framed_of_local hcall taken found handed written
    | external scheme taken matched answer written =>
      have handed := Option.isSome_iff_exists.2
        ⟨_, Realm.join_toOption_eq_some_iff.2 answer⟩
      exact framed_of_external writes h hcall taken handed written

end Moment

/-! ### Every run -/

namespace Realm

variable {realm : Realm}

/-- The logins of a run that the account store has checked. -/
def LocalLoginIn (realm : Realm) (s : RealmState) (calls : List (Scene × Call)) (u : String) :
    Prop :=
  ∃ m ∈ realm.moments s calls, m.LocalLogin realm u

/-- The logins of a run that the credential file has let in. -/
def ExternalLoginIn (realm : Realm) (s : RealmState) (calls : List (Scene × Call)) (u : String) :
    Prop :=
  ∃ m ∈ realm.moments s calls, m.ExternalLogin realm u

/-- **Rows after a run**, by induction on the calls: the changes of the first are composed with
those of the others. -/
theorem evolves_run (writes : realm.refusing = false) {s : RealmState}
    (h : s.accounts.WellFormed) (calls : List (Scene × Call)) :
    Table.Evolves (realm.LocalLoginIn s calls) (realm.ExternalLoginIn s calls) s.accounts
      (realm.run s calls).accounts := by
  -- by induction on the calls: a step changes what its own login may change, and the rest follows
  -- from the state after it
  induction calls generalizing s with
  | nil => exact Table.Evolves.refl _ _ _
  | cons c rest ih =>
    obtain ⟨scene, call⟩ := c
    have first := (Moment.framed writes ⟨scene, call, s⟩ h).rows
    have others := ih (realm.wellFormed_after scene s call h)
    refine (first.trans others).mono (fun u ↦ ?_) fun u ↦ ?_
    · rintro (hm | ⟨m, hm, hlogin⟩)
      · exact ⟨_, List.mem_cons_self, hm⟩
      · exact ⟨m, List.mem_cons_of_mem _ hm, hlogin⟩
    · rintro (hm | ⟨m, hm, hlogin⟩)
      · exact ⟨_, List.mem_cons_self, hm⟩
      · exact ⟨m, List.mem_cons_of_mem _ hm, hlogin⟩

/-- **What runs leave alone.** From any reachable state, over an account store that writes, with
either value of the override, for all calls in all scenes:

* every row of the start is there at the end, with its number, name, role, creation time, display
  name, e-mail address, activity and any cookie it had; its last login has moved only with a login
  in the run that the account store checked, its hash and kind only to the sentinel and `external`,
  with a login in the run that the credential file let in;
* every call of the run keeps to the same, with itself as the only login there is; it leaves the
  table as it is if it hands out no record or is given a cookie; and as a login that succeeds, it
  changes the row of its name in place, or adds a row with that name and the role of a user. -/
theorem run_changes_only (override : Bool) {s : RealmState} (h : Reachable s)
    (calls : List (Scene × Call)) :
    let realm : Realm := { overrideLocal := override }
    (∀ old ∈ s.accounts.rows, ∃ new ∈ (realm.run s calls).accounts.rows,
        Row.Becomes (realm.LocalLoginIn s calls old.username)
          (realm.ExternalLoginIn s calls old.username) old new) ∧
      ∀ m ∈ realm.moments s calls, m.Framed realm := by
  intro realm
  refine ⟨evolves_run rfl h.wellFormed calls, fun m hm ↦ Moment.framed rfl m ?_⟩
  exact (run_induction realm.wellFormed_after h.wellFormed calls).2 m hm

/-- An account that was created with an e-mail address still has it after a login and a cookie. -/
theorem run_keeps_email :
    let scene : Scene := ⟨Credential.lone [97, 58, 120] 1, ⟨2024, 1, 1, 0, 0, 0, 0⟩, none⟩
    let record : Record := { username := "a", email := some "a@x", hashedPassword := some "h" }
    let s := (Write.create record).after scene ⟨{ path := ⟨"/", ["htpasswd"]⟩ }, {}⟩
    let calls := [(scene, Call.authenticate "a" "x"), (scene, Call.authenticateCookie "c")]
    ∃ new ∈ (run {} s calls).accounts.rows, new.id = 1 ∧ new.email = some "a@x" := by
  intro scene record s calls
  have hs : Reachable s := .write scene (.create record) (.start _ _)
  obtain ⟨new, hnew, becomes⟩ := (run_changes_only true hs calls).1 _ List.mem_cons_self
  exact ⟨new, hnew, becomes.id, becomes.email⟩

end Realm

end AuthRealm
