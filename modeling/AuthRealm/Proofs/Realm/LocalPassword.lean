import AuthRealm.Proofs.Account.Password
import AuthRealm.Proofs.Realm.Authenticate

/-!
# Passwords of local accounts

From a password to a hash and back to a login. **A password of at most seventy-two bytes is let in
by every hash of it** (`password_within_limit_is_let_in`), and a longer one by nothing: it has no
hash, and there is no text that it verifies against. The limit is the same on both ways, in bytes
and not in characters.

That a hash verifies is a matter of its text alone (`Password.verify_of_hash`). For a login it also
has to be told apart from what an account may have in its place, nothing and the sentinel, and it
is, since it begins with a dollar sign (`Password.head?_of_hash`).
-/

namespace AuthRealm

open Account Storage

namespace Account.Store

variable {scene : Scene} {s : RealmState} {record : Record} {id : Nat}

/-- The account that has been added is found by its name. -/
theorem find?_of_create (created : (create scene record s).result = .ok id) :
    ∃ row, (create scene record s).state.accounts.find? record.username = some row ∧
      row.toProfile = record.toProfile ∧
      row.record = { record with id := some (id : Int), createdAt := some scene.now.text } := by
  have usable : scene.databaseFault = none := by
    cases fault : scene.databaseFault with
    | none => rfl
    | some broken =>
      simp [create, Action.bind_apply, Action.accounts_of_fault fault] at created
  -- an account is created only with a role and under a name that is free
  cases accepted : s.accounts.create scene.now.text record with
  | error refusal =>
    rw [create_refused usable accepted] at created
    cases created
  | ok both =>
    rw [create_apply usable accepted] at created ⊢
    obtain rfl := Except.ok.inj created
    cases hrole : record.role with
    | none => cases (Table.create_of_no_role hrole).symm.trans accepted
    | some role =>
      cases absent : s.accounts.find? record.username with
      | some old => cases (Table.create_of_present hrole absent).symm.trans accepted
      | none =>
        obtain rfl := Except.ok.inj ((Table.create_of_absent hrole absent).symm.trans accepted)
        exact ⟨_, Table.find?_append_self absent rfl, rfl, rfl⟩

/-- A row with a hash of a password matches it. -/
theorem passwordMatches_of_hash {row : Row} {text plain hashed : String}
    (hashes : Password.hash text plain = .ok hashed) (has : row.hashedPassword = some hashed) :
    passwordMatches row plain = true := by
  have marked := Password.head?_of_hash hashes
  refine passwordMatches_eq_true_iff.2 ⟨hashed, has, ?_, ?_, Password.verify_of_hash hashes⟩
  · rintro rfl
    exact absurd marked nofun
  · rintro rfl
    exact absurd marked (by decide)

end Account.Store

namespace Realm

/-- **A hash lets in a password.** A local account that is created with the hash, and active, logs
in with the password whenever the database can be used, and the record that is handed out is that of
the account; unless the realm overrides local accounts, and then the credential file has to be read
to an end, or gone without, and not to list the name. -/
def LetsIn (hashed plain : String) : Prop :=
  ∀ (realm : Realm) (scene later : Scene) (s : RealmState) (record : Record) (id : Nat),
    record.kind = .localAccount → record.hashedPassword = some hashed → record.isActive = true →
    (Store.create scene record s).result = .ok id → later.databaseFault = none →
    let created := (Store.create scene record s).state
    (realm.overrideLocal = true →
      (∃ report, (created.credentials.refresh later.tree).result = .ok report) ∧
        (created.credentials.refresh later.tree).store.lists record.username = false) →
    (realm.authenticate later record.username plain created).result =
      .ok (some { record with id := some (id : Int), createdAt := some scene.now.text })

theorem letsIn_of_hash {text plain hashed : String}
    (hashes : Password.hash text plain = .ok hashed) : LetsIn hashed plain := by
  intro realm scene later s record id kind has active created usable state other
  obtain ⟨row, found, profile, handed⟩ := Store.find?_of_create created
  have has' : row.hashedPassword = some hashed := profile ▸ has
  have isLocal : state.accounts.isLocal record.username = true := by
    refine Table.isLocal_eq_true_iff.2 ⟨row, found, ?_⟩
    have kind' : row.kind = .localAccount := profile ▸ kind
    -- a hash starts with a dollar sign, so it is not what marks an external account
    have marked := Password.head?_of_hash hashes
    rw [Profile.isLocal, kind', has', Bool.and_eq_true, bne_iff_ne]
    refine ⟨rfl, fun same ↦ ?_⟩
    rw [Option.some.inj same] at marked
    exact absurd marked (by decide)
  have login : Store.login? state.accounts record.username plain = some row :=
    Store.login?_eq_some_iff.2
      ⟨found, Store.passwordMatches_of_hash hashes has', profile ▸ active⟩
  have taken : realm.takesLocal (state.refreshed later.tree).credentials state.accounts
      record.username = true := by
    refine takesLocal_eq_true_iff.2 ⟨isLocal, ?_⟩
    -- without override the store decides about local accounts, with it about those that are not
    -- listed
    cases overrides : realm.overrideLocal with
    | false => exact Or.inl rfl
    | true => exact Or.inr (other overrides).2
  have answer := (authenticate_of_local (p := plain) usable
    (fun overrides ↦ Credential.Refresh.isReport_iff.2 (other overrides).1) taken).1
  rw [answer, login, Option.map_some, handed]

/-- **A password is let in by every hash of it, up to the limit of seventy-two bytes, and beyond it
by nothing.** For every password and every text that is handed in as a salt:

* if the password has more than seventy-two bytes, it is refused a hash, and verifies against no
  text;
* if it has at most as many and the text spells a salt, it has a hash, verifies against it, as no
  password beyond the limit does, and is let in by it;
* if the text spells no salt, that is the refusal. -/
theorem password_within_limit_is_let_in (plain text : String) :
    (72 < plain.toUTF8.size →
        Password.hash text plain = .error .tooLong ∧
          ∀ hashed, Password.verify plain hashed = false) ∧
      (plain.toUTF8.size ≤ 72 →
        (∀ salt : Password.Salt, salt.Spells text.toList →
          ∃ hashed, Password.hash text plain = .ok hashed ∧
            Password.verify plain hashed = true ∧
            (∀ long : String, 72 < long.toUTF8.size → Password.verify long hashed = false) ∧
            LetsIn hashed plain) ∧
          ((∀ salt : Password.Salt, ¬ salt.Spells text.toList) →
            Password.hash text plain = .error .invalidSalt)) := by
  refine ⟨fun long ↦ ?_, fun short ↦ ⟨fun salt spells ↦ ?_, fun other ↦ ?_⟩⟩
  · have long' := Password.tooLong_eq_true_iff.2 long
    exact ⟨Password.hash_of_tooLong long', fun _ ↦ Password.verify_of_tooLong long'⟩
  · have hashes := Password.hash_of_spells (Password.tooLong_eq_false_iff.2 short) spells
    refine ⟨_, hashes, Password.verify_of_hash hashes, fun long far ↦ ?_, letsIn_of_hash hashes⟩
    exact Password.verify_of_tooLong (Password.tooLong_eq_true_iff.2 far)
  · exact Password.hash_of_not_spells (Password.tooLong_eq_false_iff.2 short) other

/-- A password of two bytes has a hash under a text with version, cost and sixteen bytes, and the
user whose account is created with it, the first in the table, logs in. -/
theorem password_within_limit_is_let_in_for_created_account :
    let scene : Scene := ⟨⟨[]⟩, ⟨2024, 1, 1, 0, 0, 0, 0⟩, none⟩
    let realm : Realm := { overrideLocal := false }
    let s : RealmState := ⟨{ path := ⟨"/", ["htpasswd"]⟩ }, {}⟩
    ∃ hashed, Password.hash "$2b$04$abcdefghijklmnopqrstuu" "pw" = .ok hashed ∧
      Password.verify "pw" hashed = true ∧
      let record : Record := { username := "ada", hashedPassword := some hashed }
      (realm.authenticate scene "ada" "pw" (Store.create scene record s).state).result =
        .ok (some { record with id := some 1, createdAt := some scene.now.text }) := by
  intro scene realm s
  have short : "pw".toUTF8.size ≤ 72 := by decide
  -- the text is read as a salt, so it is a spelling of one
  have spells : ∃ salt : Password.Salt, salt.Spells "$2b$04$abcdefghijklmnopqrstuu".toList := by
    obtain ⟨salt, read⟩ := Option.isSome_iff_exists.1 (show (Password.Salt.ofText?
      "$2b$04$abcdefghijklmnopqrstuu".toList).isSome = true by decide)
    exact ⟨salt, Password.Salt.ofText?_eq_some_iff.1 read⟩
  obtain ⟨salt, spells⟩ := spells
  obtain ⟨hashed, hashes, verifies, -, letsIn⟩ :=
    ((password_within_limit_is_let_in "pw" "$2b$04$abcdefghijklmnopqrstuu").2 short).1 salt spells
  let record : Record := { username := "ada", hashedPassword := some hashed }
  have created : (Store.create scene record s).result = .ok 1 := rfl
  have login := letsIn realm scene scene s record 1 rfl rfl rfl created rfl
    fun overrides ↦ absurd overrides nofun
  exact ⟨hashed, hashes, verifies, login⟩

end Realm

end AuthRealm
