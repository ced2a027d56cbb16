import AuthRealm.Proofs.Realm.Frame
import AuthRealm.Proofs.Text.Utf8

/-!
# Whose cookie it is

A cookie is the digest of a name and a password written one after the other. So a cookie tells its
owner from the others as far as digests tell byte strings apart, and no further: where the name ends
and the password begins is not in the bytes. The names `a` and `ab` with the passwords `bc` and `c`
have one cookie.

The invariant is that **every cookie in the table was made from the name of its row** and a password
that logged in under it (`Issued`, kept by every call). With it, a cookie that a login has handed
out, when it is shown again, resolves to the name that logged in, unless the run itself has hashed
two byte strings with one digest (`CollisionIn`), or has made cookies from two names with passwords
that spell the same text. Nothing is said about digests of byte strings that the run has not hashed.

The table is empty at the start. A cookie that an account is created with is anybody's text.
-/

namespace AuthRealm

open Account Storage

/-! ### The text of a cookie -/

/-- **Equal cookies have equal digests**: nothing is lost in writing a digest out. -/
theorem makeCookie_inj {u p v q : String} (h : makeCookie u p = makeCookie v q) :
    Digest.sha1 (u ++ p).toUTF8 = Digest.sha1 (v ++ q).toUTF8 := by
  have texts := String.ofList_injective h
  have bytes := congrArg Text.hexBytes? texts
  rw [Text.hexBytes?_hexText, Text.hexBytes?_hexText, Option.some.injEq] at bytes
  exact ByteArray.toList_inj bytes

/-- A cookie is never the empty text, which stands for no cookie. -/
theorem makeCookie_ne_empty (u p : String) : makeCookie u p ≠ "" := by
  intro h
  have texts := congrArg (fun s ↦ s.toList.length) h
  simp only [makeCookie, String.toList_ofList, Text.length_hexText, ByteArray.toList_eq,
    Array.length_toList] at texts
  have size := Digest.size_sha1 (u ++ p).toUTF8
  rw [ByteArray.size] at size
  rw [size] at texts
  exact absurd texts (by decide)

/-- Only the text of name and password counts, not where the one ends and the other begins. -/
theorem makeCookie_congr {u p v q : String} (h : u ++ p = v ++ q) :
    makeCookie u p = makeCookie v q := by
  rw [makeCookie, h, makeCookie]

/-- The cookie of a record after an external login: one made from it then, if it had none, or the
one that it had. -/
theorem cookie_externalRecord {record : Record} {p c : String}
    (h : (externalRecord record p).cookie = some c) :
    (record.cookie.getD "" = "" ∧ p ≠ "" ∧ c = makeCookie record.username p) ∨
      record.cookie = some c := by
  by_cases bare : (record.cookie.getD "" = "" && p != "") = true
  · have made : (externalRecord record p).cookie = some (makeCookie record.username p) :=
      if_pos bare
    rw [Bool.and_eq_true, decide_eq_true_eq, bne_iff_ne] at bare
    exact Or.inl ⟨bare.1, bare.2, (Option.some.inj (made.symm.trans h)).symm⟩
  · have kept : (externalRecord record p).cookie = record.cookie := if_neg bare
    exact Or.inr (kept.symm.trans h)

/-! ### What a run hashes -/

/-- A call from which a cookie is made: a login that the credential file lets in, of a name whose
account has no cookie yet, with a password that is not empty. -/
structure Moment.MakesCookie (m : Moment) (realm : Realm) (u p : String) : Prop where
  call : m.call = .authenticate u p
  handed : (m.handsOut realm).isSome = true
  byFile : (realm.isLocal m.scene u m.before).result = .ok false
  bare : (Realm.recordOf m.before.accounts u).cookie.getD "" = ""
  given : p ≠ ""

namespace Realm

variable {realm : Realm} {scene : Scene} {s : RealmState} {calls : List (Scene × Call)}

/-- The names and passwords from which a run makes cookies. -/
def MadeIn (realm : Realm) (s : RealmState) (calls : List (Scene × Call)) (u p : String) : Prop :=
  ∃ m ∈ realm.moments s calls, m.MakesCookie realm u p

/-- Two different byte strings with one digest, among those that a run has hashed for its cookies.
-/
def CollisionIn (realm : Realm) (s : RealmState) (calls : List (Scene × Call)) : Prop :=
  ∃ u p v q, realm.MadeIn s calls u p ∧ realm.MadeIn s calls v q ∧
    (u ++ p).toUTF8 ≠ (v ++ q).toUTF8 ∧
      Digest.sha1 (u ++ p).toUTF8 = Digest.sha1 (v ++ q).toUTF8

/-! ### Every cookie is made from its own name -/

/-- A cookie is made from a name and a password that is known to have been used for one. -/
def IssuedTo (made : String → String → Prop) (u c : String) : Prop :=
  ∃ p, made u p ∧ c = makeCookie u p

/-- **The invariant of the table**: every cookie was made from the name of its row. -/
def Issued (made : String → String → Prop) (t : Table) : Prop :=
  ∀ row ∈ t.rows, ∀ c, row.cookie = some c → IssuedTo made row.username c

variable {made : String → String → Prop}

theorem issued_empty (made : String → String → Prop) : Issued made {} := by
  intro row hrow
  exact absurd hrow List.not_mem_nil

/-- The record that an external login starts from bears no cookie but one of its name. -/
theorem Issued.recordOf {t : Table} (h : Issued made t) {u c : String}
    (bears : (Realm.recordOf t u).cookie = some c) : IssuedTo made u c := by
  cases hf : t.find? u with
  | none => simp [Realm.recordOf, hf] at bears
  | some row =>
    rw [Realm.recordOf, hf] at bears
    obtain rfl : row.username = u := Table.username_of_find? hf
    exact h row (Table.mem_of_find? hf) c bears

/-- The cookie that an external login writes and hands out is one of the name that logs in. -/
theorem Issued.externalRecord {t : Table} (h : Issued made t) {u p c : String}
    (makes : (Realm.recordOf t u).cookie.getD "" = "" → p ≠ "" → made u p)
    (bears : (AuthRealm.externalRecord (Realm.recordOf t u) p).cookie = some c) :
    IssuedTo made u c := by
  rcases cookie_externalRecord bears with ⟨bare, given, rfl⟩ | had
  · rw [username_recordOf]
    exact ⟨p, makes bare given, rfl⟩
  · exact h.recordOf had

/-- **Every call keeps the invariant**, as far as the cookies made by it are known. -/
theorem Issued.after {m : Moment} (h : Issued made m.before.accounts)
    (makes : ∀ u p, m.MakesCookie realm u p → made u p) :
    Issued made (m.after realm).accounts := by
  obtain ⟨scene, call, s⟩ := m
  cases call with
  | isLocal v => exact keepsAccounts_isLocal realm scene v s ▸ h
  | authenticateCookie cookie => exact keepsAccounts_authenticateCookie scene cookie s ▸ h
  | authenticate v p =>
    show Issued made (realm.authenticate scene v p s).state.accounts
    cases login_authenticate realm scene v p s with
    | nobody refused kept => exact kept ▸ h
    | localAccount row taken found answer written =>
      rw [written]
      intro row' hrow' c bears
      obtain ⟨old, hold, rfl⟩ := List.mem_map.1 hrow'
      -- noting a login changes neither name nor cookie, whosever it was
      by_cases hv : old.username = v
      · simp only [hv, if_true] at bears ⊢
        exact hv ▸ h old hold c bears
      · simp only [hv, if_false] at bears ⊢
        exact h old hold c bears
    | external scheme taken matched answer written =>
      rw [written]
      intro row hrow c bears
      have handed := Option.isSome_iff_exists.2 ⟨_, join_toOption_eq_some_iff.2 answer⟩
      rcases mem_of_kept hrow with hold | hnew
      · exact h row hold c bears
      · have hu : row.username = v :=
          (congrArg Profile.username hnew).trans (username_recordOf s.accounts v)
        rw [hu]
        refine h.externalRecord (fun bare given ↦ ?_)
          ((congrArg Profile.cookie hnew).symm.trans bears)
        exact makes v p ⟨rfl, handed, taken, bare, given⟩

/-- **A run over an empty table keeps the invariant**, by induction on its calls. -/
theorem issued_moments (realm : Realm) (credentials : Credential.Store)
    (calls : List (Scene × Call)) {m : Moment}
    (hm : m ∈ realm.moments ⟨credentials, {}⟩ calls) :
    Issued (realm.MadeIn ⟨credentials, {}⟩ calls) m.before.accounts := by
  have start : Issued (realm.MadeIn ⟨credentials, {}⟩ calls)
      (RealmState.mk credentials {}).accounts := issued_empty _
  exact (moments_induction (P := fun s ↦ Issued (realm.MadeIn ⟨credentials, {}⟩ calls) s.accounts)
    (fun m hm h ↦ h.after fun u p makes ↦ ⟨m, hm, makes⟩) start).2 m hm

/-- A login hands out no cookie but one of the name that logs in. -/
theorem Issued.handsOut {m : Moment} (h : Issued made m.before.accounts)
    (makes : ∀ u p, m.MakesCookie realm u p → made u p) {u p c : String} {record : Record}
    (call : m.call = .authenticate u p) (handed : m.handsOut realm = some record)
    (bears : record.cookie = some c) : IssuedTo made u c := by
  obtain ⟨scene, _, s⟩ := m
  obtain rfl := call
  have some_handed := Option.isSome_iff_exists.2 ⟨_, handed⟩
  have handed' := join_toOption_eq_some_iff.1 handed
  -- a local account bears the cookie of its row, an external one keeps it or is given a new one
  cases login_authenticate realm scene u p s with
  | nobody refused kept => exact absurd handed' (refused record)
  | localAccount row taken found answer written =>
    obtain rfl : row.record = record := by simpa [answer] using handed'
    have present := (Store.login?_eq_some_iff.1 found).1
    obtain rfl : row.username = u := Table.username_of_find? present
    exact h row (Table.mem_of_find? present) c bears
  | external scheme taken matched answer written =>
    obtain rfl : (realm.externalLogin s.accounts scene.now.text u p).2 = record := by
      simpa [answer] using handed'
    have same :=
      congrArg Profile.cookie (realm.toProfile_externalLogin s.accounts scene.now.text u p)
    refine h.externalRecord (fun bare given ↦ ?_) (same.symm.trans bears)
    exact makes u p ⟨rfl, some_handed, taken, bare, given⟩

/-- One cookie of two names: two byte strings collide, or the two texts are one. -/
theorem IssuedTo.eq_or_collision {u v c : String}
    (hu : IssuedTo (realm.MadeIn s calls) u c) (hv : IssuedTo (realm.MadeIn s calls) v c) :
    realm.CollisionIn s calls ∨
      ∃ p q, realm.MadeIn s calls u p ∧ realm.MadeIn s calls v q ∧ u ++ p = v ++ q := by
  obtain ⟨p, hp, rfl⟩ := hu
  obtain ⟨q, hq, same⟩ := hv
  by_cases texts : u ++ p = v ++ q
  · exact Or.inr ⟨p, q, hp, hq, texts⟩
  · have bytes : (u ++ p).toUTF8 ≠ (v ++ q).toUTF8 := fun h ↦
      texts (String.toByteArray_inj.1 h)
    exact Or.inl ⟨u, p, v, q, hp, hq, bytes, makeCookie_inj same⟩

/-! ### Whom a cookie lets in -/

/-- The first login of a name that has no row, let in by the credential file: it adds a row with a
cookie made from the name and the password. -/
theorem first_login {u p : String} (writes : realm.refusing = false)
    (usable : scene.databaseFault = none)
    (reads : (s.credentials.refresh scene.tree).isReport = true)
    (absent : s.accounts.find? u = none) (given : p ≠ "")
    (matched : (scheme? (s.refreshed scene.tree).credentials u p).isSome = true) :
    ∃ row : Row, row.username = u ∧ row.cookie = some (makeCookie u p) ∧ row.isActive = true ∧
      realm.handsOut scene s (.authenticate u p) = some row.record ∧
      (realm.after scene s (.authenticate u p)).accounts = ⟨s.accounts.rows ++ [row]⟩ ∧
      (realm.after scene s (.authenticate u p)).credentials =
        (s.credentials.refresh scene.tree).store := by
  have notLocal : s.accounts.isLocal u = false := by simp only [Table.isLocal, absent]
  have taken : realm.takesLocal (s.refreshed scene.tree).credentials s.accounts u = false :=
    takesLocal_eq_false_iff.2 (Or.inr notLocal)
  obtain ⟨scheme, hm⟩ := Option.isSome_iff_exists.1 matched
  obtain ⟨result, state⟩ := authenticate_of_external (p := p) usable reads taken
  rw [hm, externalLogin_of_absent writes absent] at result state
  have bare : ((none : Option String).getD "" = "" && p != "") = true := by simp [given]
  exact ⟨firstRow s.accounts scene.now.text u p, rfl, if_pos bare, rfl,
    join_toOption_eq_some_iff.2 result, congrArg RealmState.accounts state,
    congrArg RealmState.credentials state⟩

/-- Where all logins of a run spell one text, nothing can collide. -/
theorem not_collisionIn_of_one_text (text : String)
    (h : ∀ scene u p, (scene, Call.authenticate u p) ∈ calls → u ++ p = text) :
    ¬ realm.CollisionIn s calls := by
  have made : ∀ u p, realm.MadeIn s calls u p → u ++ p = text := by
    rintro u p ⟨m, hm, makes⟩
    refine h m.scene u p ?_
    rw [← makes.call]
    exact mem_calls_of_mem_moments hm
  rintro ⟨u, p, v, q, hu, hv, bytes, -⟩
  exact bytes (by rw [made u p hu, made v q hv])

/-- After a refresh, the cookie of the first row, an account that the credential file lists, lets it
in. -/
theorem handsOut_cookie_of_refreshed {before : Credential.Store} {row : Row} {rest : List Row}
    {c : String} (usable : scene.databaseFault = none)
    (reads : (before.refresh scene.tree).isReport = true)
    (credentials : s.credentials = (before.refresh scene.tree).store)
    (accounts : s.accounts = ⟨row :: rest⟩) (given : c ≠ "") (bears : row.cookie = some c)
    (active : row.isActive = true)
    (listed : (before.refresh scene.tree).store.lists row.username = true) :
    realm.handsOut scene s (.authenticateCookie c) = some row.record := by
  have found : s.accounts.findByCookie? c = some row := by
    rw [accounts]
    exact Table.findByCookie?_cons given bears active
  have reads' : (s.credentials.refresh scene.tree).isReport = true := by
    rw [credentials]
    exact Credential.Store.refresh_refresh_isReport reads
  have listed' : (s.credentials.refresh scene.tree).store.lists row.username = true := by
    rw [credentials, Credential.Store.refresh_refresh_store]
    exact listed
  exact join_toOption_eq_some_iff.2
    (authenticateCookie_of_found usable found (Or.inr ⟨reads', listed'⟩))

/-- **A cookie resolves to the name that it was handed out to.** In every run over a table that is
empty at the start, with any credential file in each of its calls, under every kind of realm: a
cookie that a login of `u` has handed out, wherever in the run it is shown, lets in nobody but `u`,
unless

* two different byte strings with one digest were hashed in the run, or
* cookies were made in the run for `u` and for the name that is let in from passwords with which
  the two names spell the same text. -/
theorem cookie_resolves_to_its_owner (realm : Realm) (credentials : Credential.Store)
    (calls : List (Scene × Call)) :
    let s : RealmState := ⟨credentials, {}⟩
    ∀ login ∈ realm.moments s calls, ∀ shown ∈ realm.moments s calls,
      ∀ (u p c : String) (record found : Record),
        login.call = .authenticate u p → login.handsOut realm = some record →
        record.cookie = some c →
        shown.call = .authenticateCookie c → shown.handsOut realm = some found →
          found.username = u ∨ realm.CollisionIn s calls ∨
            ∃ p q, realm.MadeIn s calls u p ∧ realm.MadeIn s calls found.username q ∧
              u ++ p = found.username ++ q := by
  intro s login hlogin shown hshown u p c record found call handed bears callShown handedShown
  have owned : IssuedTo (realm.MadeIn s calls) u c :=
    (issued_moments realm credentials calls hlogin).handsOut
      (fun u p makes ↦ ⟨login, hlogin, makes⟩) call handed bears
  -- the account that is let in bears the cookie, so it was made from the name of that account too
  have held : IssuedTo (realm.MadeIn s calls) found.username c := by
    obtain ⟨scene, _, before⟩ := shown
    obtain rfl := callShown
    obtain ⟨row, hrow, hcookie, -, rfl, -⟩ :=
      eq_some_of_authenticateCookie (join_toOption_eq_some_iff.1 handedShown)
    exact issued_moments realm credentials calls hshown row hrow c hcookie
  by_cases same : found.username = u
  · exact Or.inl same
  · exact Or.inr (owned.eq_or_collision held)

/-- A cookie that is shown after the one login of a run lets in the name that has logged in. -/
theorem cookie_of_only_login_resolves :
    let scene : Scene := ⟨Credential.lone [97, 58, 120] 1, ⟨2024, 1, 1, 0, 0, 0, 0⟩, none⟩
    let s : RealmState := ⟨{ path := ⟨"/", ["htpasswd"]⟩ }, {}⟩
    let calls := [(scene, Call.authenticate "a" "x"),
      (scene, Call.authenticateCookie (makeCookie "a" "x"))]
    ∃ shown ∈ moments {} s calls, ∃ found,
      shown.handsOut {} = some found ∧ found.username = "a" := by
  intro scene s calls
  have spelt : Credential.spell? {} [97, 58, 120] = some ['a', ':', 'x'] := by decide
  have read : s.credentials.refresh scene.tree = _ :=
    Credential.Store.refresh_lone rfl nofun spelt
  have reads : (s.credentials.refresh scene.tree).isReport = true :=
    Credential.Store.isReport_refresh_lone rfl nofun spelt
  have matched : (scheme? (s.credentials.refresh scene.tree).store "a" "x").isSome = true := by
    rw [read]
    decide
  obtain ⟨row, name, cookie, active, handed, accounts, credentials⟩ :=
    @first_login {} scene s "a" "x" rfl rfl reads rfl (by decide) matched
  have resolved : handsOut {} scene (Realm.after {} scene s (.authenticate "a" "x"))
      (.authenticateCookie (makeCookie "a" "x")) = some row.record :=
    handsOut_cookie_of_refreshed rfl reads credentials accounts (makeCookie_ne_empty "a" "x")
      cookie active (name ▸ lists_of_scheme? matched)
  refine ⟨⟨scene, .authenticateCookie (makeCookie "a" "x"), _⟩,
    List.mem_cons_of_mem _ List.mem_cons_self, _, resolved, ?_⟩
  -- the run has no other login
  have only : ∀ scene' u p, (scene', Call.authenticate u p) ∈ calls → u = "a" ∧ p = "x" := by
    intro scene' u p hcall
    simp only [calls, List.mem_cons, Prod.mk.injEq, Call.authenticate.injEq, reduceCtorEq,
      and_false, or_false, List.not_mem_nil] at hcall
    exact hcall.2
  have oneText : ¬ CollisionIn {} s calls :=
    not_collisionIn_of_one_text "ax" fun scene' u p hcall ↦ by
      obtain ⟨rfl, rfl⟩ := only scene' u p hcall
      rfl
  rcases cookie_resolves_to_its_owner {} s.credentials calls _ List.mem_cons_self _
    (List.mem_cons_of_mem _ List.mem_cons_self) "a" "x" (makeCookie "a" "x") row.record row.record
    rfl handed cookie rfl resolved with owner | collision | ⟨p, q, -, ⟨m, hm, makes⟩, -⟩
  · exact owner
  · exact absurd collision oneText
  · exact (only m.scene _ q (makes.call ▸ mem_calls_of_mem_moments hm)).1

/-! ### One text of two names -/

/-- **Two names that spell one text with their passwords have one cookie**, and it lets in whoever
of them has logged in first. No digest has to collide for that. -/
theorem shared_cookie_resolves_to_the_first {u p v q : String} (writes : realm.refusing = false)
    (usable : scene.databaseFault = none) (credentials : Credential.Store)
    (reads : (credentials.refresh scene.tree).isReport = true) (names : u ≠ v)
    (text : u ++ p = v ++ q) (givenU : p ≠ "") (givenV : q ≠ "")
    (matchedU : (scheme? (credentials.refresh scene.tree).store u p).isSome = true)
    (matchedV : (scheme? (credentials.refresh scene.tree).store v q).isSome = true) :
    let s : RealmState := ⟨credentials, {}⟩
    let calls := [(scene, Call.authenticate u p), (scene, Call.authenticate v q),
      (scene, Call.authenticateCookie (makeCookie v q))]
    (∃ login ∈ realm.moments s calls, ∃ record, login.call = .authenticate v q ∧
        login.handsOut realm = some record ∧ record.cookie = some (makeCookie v q)) ∧
      (∃ shown ∈ realm.moments s calls, ∃ found,
        shown.call = .authenticateCookie (makeCookie v q) ∧
          shown.handsOut realm = some found ∧ found.username = u) ∧
      ¬ realm.CollisionIn s calls := by
  intro s calls
  obtain ⟨rowU, nameU, cookieU, activeU, handedU, accounts₁, credentials₁⟩ :=
    first_login (s := s) writes usable reads rfl givenU matchedU
  have cookieU' : rowU.cookie = some (makeCookie v q) :=
    cookieU.trans (congrArg some (makeCookie_congr text))
  generalize hs₁ : realm.after scene s (.authenticate u p) = s₁ at accounts₁ credentials₁
  have absentV : s₁.accounts.find? v = none := by
    rw [accounts₁, Table.find?_eq_none_iff]
    intro row hrow
    rw [List.mem_singleton.1 hrow, nameU]
    exact names
  -- the file is read once; the later calls find a store that is up to date
  have reads₁ : (s₁.credentials.refresh scene.tree).isReport = true := by
    rw [credentials₁]
    exact Credential.Store.refresh_refresh_isReport reads
  have once :
      (s₁.credentials.refresh scene.tree).store = (credentials.refresh scene.tree).store := by
    rw [credentials₁]
    exact Credential.Store.refresh_refresh_store
  have matched₁ : (scheme? (s₁.credentials.refresh scene.tree).store v q).isSome = true := by
    rw [once]
    exact matchedV
  obtain ⟨rowV, -, cookieV, -, handedV, accounts₂, credentials₂⟩ :=
    first_login writes usable reads₁ absentV givenV matched₁
  generalize hs₂ : realm.after scene s₁ (.authenticate v q) = s₂ at accounts₂ credentials₂
  have listed : (s₁.credentials.refresh scene.tree).store.lists rowU.username = true := by
    rw [once, nameU]
    exact lists_of_scheme? matchedU
  rw [accounts₁] at accounts₂
  have resolved : realm.handsOut scene s₂ (.authenticateCookie (makeCookie v q)) =
      some rowU.record :=
    handsOut_cookie_of_refreshed usable reads₁ credentials₂ accounts₂ (makeCookie_ne_empty v q)
      cookieU' activeU listed
  have hmoments : realm.moments s calls = [⟨scene, .authenticate u p, s⟩,
      ⟨scene, .authenticate v q, s₁⟩, ⟨scene, .authenticateCookie (makeCookie v q), s₂⟩] := by
    simp only [calls, moments, hs₁, hs₂]
  refine ⟨⟨⟨scene, .authenticate v q, s₁⟩, ?_, rowV.record, rfl, handedV, cookieV⟩,
    ⟨⟨scene, .authenticateCookie (makeCookie v q), s₂⟩, ?_, rowU.record, rfl, resolved, nameU⟩, ?_⟩
  · rw [hmoments]
    exact List.mem_cons_of_mem _ List.mem_cons_self
  · rw [hmoments]
    exact List.mem_cons_of_mem _ (List.mem_cons_of_mem _ List.mem_cons_self)
  · -- both logins hash the same bytes
    refine not_collisionIn_of_one_text (u ++ p) fun scene' u' p' hcall ↦ ?_
    simp only [calls, List.mem_cons, Prod.mk.injEq, Call.authenticate.injEq, reduceCtorEq,
      and_false, or_false, List.not_mem_nil] at hcall
    rcases hcall with ⟨-, rfl, rfl⟩ | ⟨-, rfl, rfl⟩
    · rfl
    · exact text.symm

/-- So a cookie may let in another than the one whom it was handed out to: both passwords match, and
the login of `ab` hands out the cookie of `a`. -/
theorem cookie_resolves_to_another :
    let scene : Scene :=
      ⟨Credential.lone [97, 58, 98, 99, 10, 97, 98, 58, 99] 1, ⟨2024, 1, 1, 0, 0, 0, 0⟩, none⟩
    let s : RealmState := ⟨{ path := ⟨"/", ["htpasswd"]⟩ }, {}⟩
    let calls := [(scene, Call.authenticate "a" "bc"), (scene, Call.authenticate "ab" "c"),
      (scene, Call.authenticateCookie (makeCookie "ab" "c"))]
    (∃ login ∈ moments {} s calls, ∃ record, login.call = .authenticate "ab" "c" ∧
        login.handsOut {} = some record ∧ record.cookie = some (makeCookie "ab" "c")) ∧
      (∃ shown ∈ moments {} s calls, ∃ found,
        shown.call = .authenticateCookie (makeCookie "ab" "c") ∧
          shown.handsOut {} = some found ∧ found.username = "a") ∧
      ¬ CollisionIn {} s calls := by
  intro scene s calls
  have spelt : Credential.spell? {} [97, 58, 98, 99, 10, 97, 98, 58, 99] =
      some ['a', ':', 'b', 'c', '\n', 'a', 'b', ':', 'c'] := by decide
  have read : s.credentials.refresh scene.tree = _ :=
    Credential.Store.refresh_lone rfl nofun spelt
  have reads : (s.credentials.refresh scene.tree).isReport = true :=
    Credential.Store.isReport_refresh_lone rfl nofun spelt
  -- the two entries are genuine, with passwords that have one text with the names
  have matchedA : (scheme? (s.credentials.refresh scene.tree).store "a" "bc").isSome = true := by
    rw [read]
    decide
  have matchedAB : (scheme? (s.credentials.refresh scene.tree).store "ab" "c").isSome = true := by
    rw [read]
    decide
  exact shared_cookie_resolves_to_the_first rfl rfl s.credentials reads (by decide) rfl (by decide)
    (by decide) matchedA matchedAB

end Realm

end AuthRealm
