import AuthRealm.Proofs.Account.Erasure
import AuthRealm.Proofs.Credential.SameNames
import AuthRealm.Proofs.Realm.Run
import AuthRealm.Proofs.Realm.SideBySide

/-!
# What a log does not tell

No record has a place for a password, but a secret might still show in which records there are, in
their numbers, or in where a call gives up. So two runs are compared, with other passwords, other
secrets in the credential file and other cookies, and **their logs are the same**
(`log_tells_no_secrets`).

What the runs must have in common is what a log does tell: which names the file has, how many lines
of it are malformed, and how each check ends. Nothing more is asked: the check of a password counts
only where it is made, by whoever is in charge of the name (`Moment.Agree`), and two cookies have to
belong to the same name, or both to nobody.

Along the runs two states stay the same but for secrets (`RealmState.Alike`): the stores have the
same names and the same time, and the tables are the same but for cookies, which are made of
passwords. Each part of a call is gone through on both sides in step, with the whole log in view;
the run follows by induction on its calls (`log_eq_of_corresponds`).
-/

namespace AuthRealm

open Account Storage

/-! ### The same but for secrets -/

/-- Two states are the same but for the secrets of the credential file and the cookies of accounts,
over one path in one charset. -/
structure RealmState.Alike (charset : Text.Encoding) (path : Path) (s s' : RealmState) : Prop where
  charset : s.credentials.charset = charset
  path : s.credentials.path = path
  credentials : s.credentials.SameNamed s'.credentials
  accounts : s.accounts.SameButCookies s'.accounts

/-- Two scenes are the same but for the secrets of the credential file. -/
structure Scene.Alike (charset : Text.Encoding) (path : Path) (scene scene' : Scene) : Prop where
  now : scene.now = scene'.now
  fault : scene.databaseFault = scene'.databaseFault
  trees : Credential.SameNamesAt charset path scene.tree scene'.tree

namespace RealmState.Alike

variable {realm : Realm} {charset : Text.Encoding} {path : Path} {scene scene' : Scene}
  {s s' : RealmState} {u p p' c c' : String}

open Outcome Realm

/-- What is written is the same but for its cookie. -/
theorem writtenAlike_upsert {R : Table → Table → Prop} {t t' : Table}
    (tables : t.SameButCookies t') (kept : ∀ t t', t.SameButCookies t' → R t t') (now : String)
    {record record' : Record} (records : record.SameButCookie record') :
    Matches.WrittenAlike R Record.SameButCookie (t.upsert now record) (t'.upsert now record') := by
  -- with the cookies erased the two writes are one write
  have written : (t.upsert now record).map (fun w ↦ (w.1.withoutCookies, w.2.withoutCookie)) =
      (t'.upsert now record').map fun w ↦ (w.1.withoutCookies, w.2.withoutCookie) := by
    rw [← Table.upsert_withoutCookies, ← Table.upsert_withoutCookies, tables, records]
  generalize t.upsert now record = w at written
  generalize t'.upsert now record' = w' at written
  rcases w with refusal | ⟨t, r⟩ <;> rcases w' with refusal' | ⟨t', r'⟩
  · obtain rfl := Except.error.inj written
    exact .refused refusal
  · cases written
  · cases written
  · obtain ⟨same, same'⟩ := Prod.mk.inj (Except.ok.inj written)
    exact .written (kept _ _ same) same'

/-- The record that an external login starts from is the same but for its cookie, -/
theorem sameButCookie_recordOf {t t' : Table} (tables : t.SameButCookies t') (u : String) :
    (recordOf t u).SameButCookie (recordOf t' u) := by
  have rows := tables.find? u
  rw [recordOf, recordOf]
  generalize t.find? u = row at rows
  generalize t'.find? u = row' at rows
  cases rows with
  | none => rfl
  | some same => exact same.record

/-- and so is what it makes of that, whatever the password. -/
theorem sameButCookie_externalRecord {record record' : Record}
    (records : record.SameButCookie record') (p p' : String) :
    (externalRecord record p).SameButCookie (externalRecord record' p') := by
  show externalRecord record.withoutCookie "" = externalRecord record'.withoutCookie ""
  rw [records]

/-- Both find a row to log in with or neither does, if the checks of their hashes agree. -/
theorem login?_rel {t t' : Table} (tables : t.SameButCookies t')
    (verified : (t.find? u).map (Store.passwordMatches · p) =
      (t'.find? u).map (Store.passwordMatches · p')) :
    Option.Rel (fun row row' : Row ↦ row.record.SameButCookie row'.record)
      (Store.login? t u p) (Store.login? t' u p') := by
  have rows := tables.find? u
  rw [Store.login?, Store.login?]
  generalize t.find? u = row at rows verified
  generalize t'.find? u = row' at rows verified
  cases rows with
  | none => exact .none
  | some same =>
    rename_i row row'
    -- neither the outcome of the comparison nor the activity of the row differs
    have agree : Store.passwordMatches row p = Store.passwordMatches row' p' :=
      Option.some.inj verified
    rw [Option.filter_some, Option.filter_some, agree, same.isActive]
    split
    · exact .some same.record
    · exact .none

variable (states : RealmState.Alike charset path s s')
  (scenes : scene.Alike charset path scene')

include states scenes

theorem matches_refresh :
    Matches LogRecord.shown (RealmState.Alike charset path) Eq (Action.refresh scene s)
      (Action.refresh scene' s') := by
  have trees := scenes.trees
  rw [← states.charset, ← states.path] at trees
  obtain ⟨store, result, log⟩ := states.credentials.refresh trees
  refine ⟨.of_eq result, ⟨?_, ?_, store, states.accounts⟩, congrArg _ log⟩
  · exact (Credential.Store.refresh_charset _ _).trans states.charset
  · exact (Credential.Store.refresh_path _ _).trans states.path

theorem matches_isLocal (realm : Realm) (u : String) :
    Matches LogRecord.shown (RealmState.Alike charset path) Eq (realm.isLocal scene u s)
      (realm.isLocal scene' u s') :=
  .isLocal realm scenes.fault (states.matches_refresh scenes)
    (fun reached ↦ reached.credentials.lists u) states (states.accounts.isLocal u)

theorem matches_keep (realm : Realm) {record record' : Record}
    (records : record.SameButCookie record') :
    Matches LogRecord.shown (RealmState.Alike charset path) Record.SameButCookie
      (realm.keep scene record s) (realm.keep scene' record' s') := by
  refine .keep realm scenes.fault states records.username records ?_
  rw [← scenes.now]
  exact writtenAlike_upsert states.accounts
    (fun t t' tables ↦ ⟨states.charset, states.path, states.credentials, tables⟩) _ records

/-- Both passwords are checked against the credential file, to the same outcome. -/
theorem matches_authenticateExternal (realm : Realm)
    (checks : scheme? (s.refreshed scene.tree).credentials u p =
      scheme? (s'.refreshed scene'.tree).credentials u p') :
    Matches LogRecord.shown (RealmState.Alike charset path) (Option.Rel Record.SameButCookie)
      (realm.authenticateExternal scene u p s) (realm.authenticateExternal scene' u p' s') :=
  .authenticateExternal scenes.fault (states.matches_refresh scenes) (fun _ _ h ↦ h) checks
    fun reached ↦ reached.matches_keep scenes realm
      (sameButCookie_externalRecord (sameButCookie_recordOf states.accounts u) p p')

/-- **Two logins of a name tell nothing of the passwords**, if whoever is in charge of the name
finds that both match or that neither does. -/
theorem matches_authenticate (realm : Realm)
    (verified : (realm.isLocal scene u s).result = .ok true →
      (s.accounts.find? u).map (Store.passwordMatches · p) =
        (s'.accounts.find? u).map (Store.passwordMatches · p'))
    (checked : (realm.isLocal scene u s).result = .ok false →
      scheme? (s.refreshed scene.tree).credentials u p =
        scheme? (s'.refreshed scene'.tree).credentials u p') :
    Matches LogRecord.shown (RealmState.Alike charset path) (Option.Rel Record.SameButCookie)
      (realm.authenticate scene u p s) (realm.authenticate scene' u p' s') := by
  -- the first question decides between file and store alike, and each has a lemma of its own
  refine (states.matches_isLocal scenes realm u).bind (fun _ _ h ↦ h)
    fun b b' hb _ same reached ↦ ?_
  subst same
  cases b with
  | false =>
    refine reached.matches_authenticateExternal scenes realm ?_
    rw [state_isLocal, state_isLocal, refreshed_located, refreshed_located]
    exact checked hb
  | true =>
    have kept := keepsAccounts_isLocal realm scene u s
    have kept' := keepsAccounts_isLocal realm scene' u s'
    refine .authenticate_store scenes.fault reached (login?_rel reached.accounts ?_)
      ⟨reached.charset, reached.path, reached.credentials, ?_⟩
    · rw [kept, kept']
      exact verified hb
    · rw [← scenes.now]
      exact reached.accounts.stampLogin _ u

omit scenes in
/-- Two cookies that belong to the same name find rows that are the same but for their cookies. -/
theorem matches_findByCookie? (h : s.accounts.WellFormed)
    (found : (Store.findByCookie? scene c s).result.map (·.map fun row ↦ row.username) =
      (Store.findByCookie? scene' c' s').result.map (·.map fun row ↦ row.username)) :
    Matches LogRecord.shown (RealmState.Alike charset path) (Option.Rel Row.SameButCookie)
      (Store.findByCookie? scene c s) (Store.findByCookie? scene' c' s') := by
  rw [Store.findByCookie?_eq scene c s, Store.findByCookie?_eq scene' c' s']
  refine ⟨?_, states, rfl⟩
  -- who is found is a row of the table, and its name is all that is compared
  have mem : ∀ row, (Store.findByCookie? scene c s).result = .ok (some row) →
      row ∈ s.accounts.rows := fun _ ↦ Store.mem_of_findByCookie?
  have mem' : ∀ row, (Store.findByCookie? scene' c' s').result = .ok (some row) →
      row ∈ s'.accounts.rows := fun _ ↦ Store.mem_of_findByCookie?
  generalize (Store.findByCookie? scene c s).result = r at found mem
  generalize (Store.findByCookie? scene' c' s').result = r' at found mem'
  -- the answers have the same shape, as `found` compares them
  rcases r with e | _ | row <;> rcases r' with e' | _ | row' <;> try cases found
  · exact .failures e
  · exact .answers .none
  · have named : row.username = row'.username := Option.some.inj (Except.ok.inj found)
    exact .answers (.some (states.accounts.sameButCookie_of_username h (mem row rfl)
      (mem' row' rfl) named))

/-- **Two cookies tell nothing of themselves**, if they belong to the same name. -/
theorem matches_authenticateCookie (h : s.accounts.WellFormed)
    (found : (Store.findByCookie? scene c s).result.map (·.map fun row ↦ row.username) =
      (Store.findByCookie? scene' c' s').result.map (·.map fun row ↦ row.username)) :
    Matches LogRecord.shown (RealmState.Alike charset path) (Option.Rel Record.SameButCookie)
      (authenticateCookie scene c s) (authenticateCookie scene' c' s') := by
  refine (states.matches_findByCookie? h found).bind (fun _ _ h ↦ h)
    fun row row' _ _ rows reached ↦ ?_
  -- the rows are the same but for their cookies, so kind and name lead both the same way
  cases rows with
  | none => exact .answer reached .none
  | some same =>
    dsimp only
    rw [same.isLocal]
    split
    · exact .answer reached (.some same.record)
    · refine .refresh_bind (reached.matches_refresh scenes) (fun _ _ h ↦ h) fun read ↦ ?_
      rw [← read.credentials.lists, same.username]
      split
      · exact .answer read (.some same.record)
      · exact .log_bind (.answer read .none)

end RealmState.Alike

/-! ### Calls -/

/-- What a call answers. -/
inductive Reply where
  | truth (b : Bool)
  | record (record : Option Record)

namespace Reply

/-- Two replies are the same but for a cookie. -/
inductive SameButCookie : Reply → Reply → Prop where
  | truth (b : Bool) : SameButCookie (.truth b) (.truth b)
  | record {r r' : Option Record} (h : Option.Rel Record.SameButCookie r r') :
      SameButCookie (.record r) (.record r')

end Reply

/-- What a call does. -/
def Realm.perform (realm : Realm) (scene : Scene) : Call → Action Reply
  | .isLocal u => do return .truth (← realm.isLocal scene u)
  | .authenticate u p => do return .record (← realm.authenticate scene u p)
  | .authenticateCookie cookie => do return .record (← authenticateCookie scene cookie)

theorem Realm.state_perform (realm : Realm) (scene : Scene) (call : Call) (s : RealmState) :
    (realm.perform scene call s).state = realm.after scene s call := by
  have kept : ∀ {α : Type} (x : Action α) (f : α → Reply),
      ((do return f (← x) : Action Reply) s).state = (x s).state := by
    intro α x f
    cases h : (x s).result with
    | error e => rw [Action.bind_of_error h]
    | ok a => rw [Action.bind_of_ok h]; rfl
  cases call <;> exact kept _ _

namespace Moment

/-- What the call of a moment leaves behind. -/
def outcome (m : Moment) (realm : Realm) : Outcome Reply :=
  realm.perform m.scene m.call m.before

/-- The call of a moment answers with no record. -/
def AnswersNone (m : Moment) (realm : Realm) : Prop :=
  (m.outcome realm).result = .ok (.record none)

/-- **Two calls are the same but for secrets, and find the same**: the same question for a name; two
passwords for a name, which match or do not match alike where they are checked; or two cookies that
belong to the same name, or to none. -/
inductive Agree (realm : Realm) (m m' : Moment) : Prop where
  | isLocal (u : String) (h : m.call = .isLocal u) (h' : m'.call = .isLocal u)
  | authenticate (u p p' : String) (h : m.call = .authenticate u p)
      (h' : m'.call = .authenticate u p')
      (verified : (realm.isLocal m.scene u m.before).result = .ok true →
        (m.before.accounts.find? u).map (Store.passwordMatches · p) =
          (m'.before.accounts.find? u).map (Store.passwordMatches · p'))
      (checked : (realm.isLocal m.scene u m.before).result = .ok false →
        Realm.scheme? (m.before.refreshed m.scene.tree).credentials u p =
          Realm.scheme? (m'.before.refreshed m'.scene.tree).credentials u p')
  | authenticateCookie (c c' : String) (h : m.call = .authenticateCookie c)
      (h' : m'.call = .authenticateCookie c')
      (found : (Store.findByCookie? m.scene c m.before).result.map (·.map fun row ↦ row.username) =
        (Store.findByCookie? m'.scene c' m'.before).result.map (·.map fun row ↦ row.username))

/-- Two moments of runs over one path differ in no more than secrets. -/
structure Corresponds (realm : Realm) (charset : Text.Encoding) (path : Path)
    (m m' : Moment) : Prop where
  scenes : m.scene.Alike charset path m'.scene
  calls : m.Agree realm m'

variable {realm : Realm} {charset : Text.Encoding} {path : Path} {m m' : Moment}

/-- **Two corresponding calls** log the same, reply the same but for a cookie, and leave states that
are the same but for secrets. -/
theorem Corresponds.matches_outcome (corresponds : m.Corresponds realm charset path m')
    (states : m.before.Alike charset path m'.before) (h : m.before.accounts.WellFormed) :
    Outcome.Matches LogRecord.shown (RealmState.Alike charset path) Reply.SameButCookie
      (m.outcome realm) (m'.outcome realm) := by
  obtain ⟨scene, call, s⟩ := m
  obtain ⟨scene', call', s'⟩ := m'
  obtain ⟨scenes, agree⟩ := corresponds
  -- one lemma for each kind of call; what each asks of the pair is part of the correspondence
  cases agree with
  | isLocal u hcall hcall' =>
    obtain rfl : call = _ := hcall
    obtain rfl : call' = _ := hcall'
    refine (states.matches_isLocal scenes realm u).bind (fun _ _ h ↦ h) fun b b' _ _ same left ↦ ?_
    subst same
    exact .answer left (.truth b)
  | authenticate u p p' hcall hcall' verified checked =>
    obtain rfl : call = _ := hcall
    obtain rfl : call' = _ := hcall'
    exact (states.matches_authenticate scenes realm verified checked).bind (fun _ _ h ↦ h)
      fun _ _ _ _ same left ↦ .answer left (.record same)
  | authenticateCookie c c' hcall hcall' found =>
    obtain rfl : call = _ := hcall
    obtain rfl : call' = _ := hcall'
    exact (states.matches_authenticateCookie scenes h found).bind (fun _ _ h ↦ h)
      fun _ _ _ _ same left ↦ .answer left (.record same)

theorem answersNone_iff (ends : EndsAlike Reply.SameButCookie (m.outcome realm).result
    (m'.outcome realm).result) : m.AnswersNone realm ↔ m'.AnswersNone realm := by
  rw [AnswersNone, AnswersNone]
  generalize (m.outcome realm).result = r at ends
  generalize (m'.outcome realm).result = r' at ends
  cases ends with
  | failures e => simp
  | answers same =>
    cases same with
    | truth b => simp
    | record h => cases h <;> simp

end Moment

/-! ### Runs -/

namespace Realm

/-- The log of a run. -/
def log (realm : Realm) (s : RealmState) (calls : List (Scene × Call)) : List LogRecord :=
  (realm.moments s calls).flatMap fun m ↦ (m.outcome realm).log

/-- **Corresponding runs**, by induction on the calls: each leaves states that are the same but for
secrets to the next. -/
theorem log_eq_of_corresponds (realm : Realm) {charset : Text.Encoding} {path : Path}
    {s s' : RealmState}
    {calls calls' : List (Scene × Call)} (states : s.Alike charset path s')
    (h : s.accounts.WellFormed)
    (corresponding : List.Forall₂ (Moment.Corresponds realm charset path)
      (realm.moments s calls) (realm.moments s' calls')) :
    realm.log s calls = realm.log s' calls' ∧
      List.Forall₂ (fun m m' : Moment ↦
        EndsAlike Reply.SameButCookie (m.outcome realm).result (m'.outcome realm).result)
        (realm.moments s calls) (realm.moments s' calls') := by
  -- by induction on the calls; the states after corresponding calls are alike again
  induction calls generalizing s s' calls' with
  | nil =>
    cases calls' with
    | nil => exact ⟨rfl, .nil⟩
    | cons c' rest' => cases corresponding
  | cons c rest ih =>
    cases calls' with
    | nil => cases corresponding
    | cons c' rest' =>
      obtain ⟨scene, call⟩ := c
      obtain ⟨scene', call'⟩ := c'
      obtain ⟨first, others⟩ := List.forall₂_cons.1 corresponding
      obtain ⟨ends, left, log⟩ := first.matches_outcome states h
      rw [LogRecord.filter_shown, LogRecord.filter_shown] at log
      rw [Moment.outcome, Moment.outcome, state_perform, state_perform] at left
      obtain ⟨logs, replies⟩ := ih left (realm.wellFormed_after scene s call h) others
      refine ⟨?_, .cons ends replies⟩
      rw [Realm.log, Realm.log, moments, moments, List.flatMap_cons, List.flatMap_cons, log]
      exact congrArg _ logs

/-- **A log tells nothing of passwords and secrets.** For every realm, two runs from states that are
the same but for secrets, call by call with the same clock, the same condition of the database, the
same names in the credential file and as many malformed lines, and with checks and cookies that come
to the same (`Moment.Corresponds`),

* log the same records in the same order;
* reply the same, call by call, but for cookies in records: the same failure, the same truth value,
  a record in both or in neither. In particular the same calls answer with none.
-/
theorem log_tells_no_secrets (realm : Realm) {charset : Text.Encoding} {path : Path}
    {s s' : RealmState}
    {calls calls' : List (Scene × Call)} (states : s.Alike charset path s')
    (h : s.accounts.WellFormed)
    (corresponding : List.Forall₂ (Moment.Corresponds realm charset path)
      (realm.moments s calls) (realm.moments s' calls')) :
    realm.log s calls = realm.log s' calls' ∧
      List.Forall₂ (fun m m' : Moment ↦
        EndsAlike Reply.SameButCookie (m.outcome realm).result (m'.outcome realm).result ∧
          (m.AnswersNone realm ↔ m'.AnswersNone realm))
        (realm.moments s calls) (realm.moments s' calls') := by
  obtain ⟨logs, replies⟩ := realm.log_eq_of_corresponds states h corresponding
  exact ⟨logs, replies.imp fun m m' ends ↦ ⟨ends, Moment.answersNone_iff ends⟩⟩

/-- A cookie that belongs to nobody is presented, and then a name logs in for the first time. -/
theorem log_tells_no_secrets_of_first_login :
    let now : Timestamp := ⟨2024, 1, 1, 0, 0, 0, 0⟩
    let scene : Scene := ⟨Credential.lone [97, 58, 120] 1, now, none⟩
    let scene' : Scene := ⟨Credential.lone [97, 58, 121] 1, now, none⟩
    let s : RealmState := ⟨{ path := ⟨"/", ["htpasswd"]⟩ }, {}⟩
    log {} s [(scene, .authenticateCookie "1"), (scene, .authenticate "a" "x")] =
      log {} s [(scene', .authenticateCookie "2"), (scene', .authenticate "a" "y")] := by
  intro now scene scene' s
  have spelt : Credential.spell? {} [97, 58, 120] = some ['a', ':', 'x'] := by decide
  have spelt' : Credential.spell? {} [97, 58, 121] = some ['a', ':', 'y'] := by decide
  have names : (Credential.Entries.ofText ['a', ':', 'x']).usernames =
      (Credential.Entries.ofText ['a', ':', 'y']).usernames := by
    have entries : Credential.Entries.ofText ['a', ':', 'x'] = ⟨[("a", "x")]⟩ := by decide
    have entries' : Credential.Entries.ofText ['a', ':', 'y'] = ⟨[("a", "y")]⟩ := by decide
    rw [entries, entries']
    simp [Credential.Entries.usernames, Credential.Entries.sorted]
  have scenes : scene.Alike {} ⟨"/", ["htpasswd"]⟩ scene' :=
    ⟨rfl, rfl, .files 1 _ _ _ _ (Credential.findNode_lone _ 1) (Credential.findNode_lone _ 1)
      spelt spelt' names (by decide)⟩
  have checked : scheme? (s.refreshed scene.tree).credentials "a" "x" =
      scheme? (s.refreshed scene'.tree).credentials "a" "y" := by
    have unread : s.credentials.modifiedAt ≠ some 1 := (Option.some_ne_none 1).symm
    have read : s.credentials.refresh scene.tree = _ :=
      Credential.Store.refresh_lone rfl unread spelt
    have read' : s.credentials.refresh scene'.tree = _ :=
      Credential.Store.refresh_lone rfl unread spelt'
    rw [RealmState.refreshed, RealmState.refreshed, read, read']
    decide
  have asked : ∀ c : String, ∀ scene : Scene, scene.databaseFault = none →
      (Store.findByCookie? scene c s).result = .ok none := by
    intro c scene usable
    rw [Store.findByCookie?_apply usable, Table.findByCookie?]
    exact congrArg _ (ite_self _)
  -- the cookie belongs to nobody, so the login finds the state of the start
  have kept : ∀ c : String, ∀ scene : Scene, scene.databaseFault = none →
      after {} scene s (.authenticateCookie c) = s := by
    intro c scene usable
    rw [after, authenticateCookie, Action.bind_of_ok (asked c scene usable),
      Store.findByCookie?_eq]
    rfl
  refine (log_tells_no_secrets {} ⟨rfl, rfl, .refl _, rfl⟩ Table.wellFormed_empty ?_).1
  rw [moments, moments, moments, moments, kept "1" scene rfl, kept "2" scene' rfl]
  refine .cons ⟨scenes, .authenticateCookie "1" "2" rfl rfl ?_⟩
    (.cons ⟨scenes, .authenticate "a" "x" "y" rfl rfl (fun _ ↦ ?_) fun _ ↦ checked⟩ .nil)
  · rw [asked "1" scene rfl, asked "2" scene' rfl]
  · have absent : s.accounts.find? "a" = none := rfl
    rw [absent, Option.map_none, Option.map_none]

end Realm

end AuthRealm
