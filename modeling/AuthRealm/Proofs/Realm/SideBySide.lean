import AuthRealm.Proofs.Realm.Authenticate

/-!
# Two runs side by side

What a realm does must not depend on some of what it knows: on the secrets that it checks, or on
another user's login. Such a property compares two runs, and is proved by going through both in
step. `Outcome.Matches` is the judgement for it: two actions have ended alike, in states that are
related, with the same log as far as it is looked at.

**Both go on in step** (`Matches.bind`): if the first parts of two actions match and what comes
behind matches from the states that they have reached, the whole matches. A failure ends both, since
it is the same on both sides. The operations of the account store have a rule each, which asks how
their two tables compare and leaves it open what the states have in common; of them the rules for
the operations of a realm are put together.
-/

namespace AuthRealm

open Account

/-- A whole log is looked at. -/
def LogRecord.shown (_ : LogRecord) : Bool :=
  true

/-- Nothing of a log is looked at. -/
def LogRecord.hidden (_ : LogRecord) : Bool :=
  false

theorem LogRecord.filter_shown (log : List LogRecord) : log.filter shown = log :=
  List.filter_eq_self.2 fun _ _ ↦ rfl

theorem LogRecord.filter_hidden (log : List LogRecord) : log.filter hidden = [] :=
  List.filter_eq_nil_iff.2 fun _ _ ↦ Bool.false_ne_true

variable {α β γ δ : Type}

/-- Two ends of an action: the same failure, or answers that are related. -/
inductive EndsAlike (Q : α → β → Prop) : Except Failure α → Except Failure β → Prop where
  | answers {a : α} {b : β} (h : Q a b) : EndsAlike Q (.ok a) (.ok b)
  | failures (e : Failure) : EndsAlike Q (.error e) (.error e)

theorem EndsAlike.of_eq {r r' : Except Failure α} (h : r = r') : EndsAlike Eq r r' := by
  subst h
  cases r with
  | error e => exact .failures e
  | ok a => exact .answers rfl

/-- Both answer with something or neither does. -/
theorem EndsAlike.exists_some_iff {Q : α → β → Prop} {r : Except Failure (Option α)}
    {r' : Except Failure (Option β)} (h : EndsAlike (Option.Rel Q) r r') :
    (∃ a, r = .ok (some a)) ↔ ∃ b, r' = .ok (some b) := by
  cases h with
  | failures e => simp
  | answers h => cases h <;> simp

/-- Both answer with nothing or neither does. -/
theorem EndsAlike.eq_none_iff {Q : α → β → Prop} {r : Except Failure (Option α)}
    {r' : Except Failure (Option β)} (h : EndsAlike (Option.Rel Q) r r') :
    r = .ok none ↔ r' = .ok none := by
  cases h with
  | failures e => simp
  | answers h => cases h <;> simp

/-- Both fail, and alike, or neither does. -/
theorem EndsAlike.eq_error_iff {Q : α → β → Prop} {r : Except Failure α} {r' : Except Failure β}
    (h : EndsAlike Q r r') (e : Failure) : r = .error e ↔ r' = .error e := by
  cases h <;> simp

/-- What both answer with is related. -/
theorem EndsAlike.related {Q : α → β → Prop} {a : α} {b : β}
    (h : EndsAlike (Option.Rel Q) (.ok (some a)) (.ok (some b))) : Q a b := by
  cases h with
  | answers h => cases h with
    | some related => exact related

namespace Outcome

/-- **Two outcomes match**: they end alike, in related states, with the same log as far as it is
shown. -/
structure Matches (shows : LogRecord → Bool) (R : RealmState → RealmState → Prop) (Q : α → β → Prop)
    (o : Outcome α) (o' : Outcome β) : Prop where
  result : EndsAlike Q o.result o'.result
  state : R o.state o'.state
  log : o.log.filter shows = o'.log.filter shows

namespace Matches

variable {shows : LogRecord → Bool} {R R' : RealmState → RealmState → Prop} {Q : α → β → Prop}
  {Q' : γ → δ → Prop} {s s' : RealmState} {scene scene' : Scene} {u p p' : String}

theorem answer {a : α} {b : β} (states : R s s') (answers : Q a b) :
    Matches shows R Q ((pure a : Action α) s) ((pure b : Action β) s') :=
  ⟨.answers answers, states, rfl⟩

theorem fail (states : R s s') (e : Failure) :
    Matches shows R Q (Action.fail e s) (Action.fail e s') :=
  ⟨.failures e, states, rfl⟩

/-- **Both go on in step**, from the states that their first parts have reached. -/
theorem bind {x : Action α} {y : Action β} {f : α → Action γ} {g : β → Action δ}
    (first : Matches shows R Q (x s) (y s')) (stops : ∀ t t', R t t' → R' t t')
    (next : ∀ a b, (x s).result = .ok a → (y s').result = .ok b → Q a b →
      R (x s).state (y s').state →
      Matches shows R' Q' (f a (x s).state) (g b (y s').state)) :
    Matches shows R' Q' ((x >>= f) s) ((y >>= g) s') := by
  obtain ⟨ends, states, log⟩ := first
  -- both stop with one failure, or both go on with answers that are related
  cases hx : (x s).result with
  | error e =>
    rw [hx] at ends
    cases hy : (y s').result with
    | error e' =>
      rw [hy] at ends
      cases ends
      rw [Action.bind_of_error hx, Action.bind_of_error hy]
      exact ⟨.failures e, stops _ _ states, log⟩
    | ok b =>
      rw [hy] at ends
      cases ends
  | ok a =>
    rw [hx] at ends
    cases hy : (y s').result with
    | error e' =>
      rw [hy] at ends
      cases ends
    | ok b =>
      rw [hy] at ends
      cases ends with
      | answers related =>
        obtain ⟨ends', states', log'⟩ := next a b hx hy related states
        rw [Action.bind_of_ok hx, Action.bind_of_ok hy]
        refine ⟨ends', states', ?_⟩
        rw [List.filter_append, List.filter_append, log, log']

theorem log_bind {r : LogRecord} {f : Unit → Action α} {g : Unit → Action β}
    (next : Matches shows R Q (f () s) (g () s')) :
    Matches shows R Q ((Action.log r >>= f) s) ((Action.log r >>= g) s') := by
  obtain ⟨ends, states, log⟩ := next
  refine ⟨ends, states, ?_⟩
  show ([r] ++ (f () s).log).filter shows = ([r] ++ (g () s').log).filter shows
  rw [List.filter_append, List.filter_append, log]

theorem credentials_bind {f : Credential.Store → Action α} {g : Credential.Store → Action β}
    (next : Matches shows R Q (f s.credentials s) (g s'.credentials s')) :
    Matches shows R Q ((Action.credentials >>= f) s) ((Action.credentials >>= g) s') :=
  ⟨next.result, next.state, next.log⟩

/-- Both read the credential file and go on with the store that they have then. -/
theorem refresh_bind {P : Credential.Report → Credential.Report → Prop}
    {f : Credential.Store → Action γ} {g : Credential.Store → Action δ}
    (read : Matches shows R P (Action.refresh scene s) (Action.refresh scene' s'))
    (stops : ∀ t t', R t t' → R' t t')
    (next : R (s.refreshed scene.tree) (s'.refreshed scene'.tree) →
      Matches shows R' Q'
        (f (s.refreshed scene.tree).credentials (s.refreshed scene.tree))
        (g (s'.refreshed scene'.tree).credentials (s'.refreshed scene'.tree))) :
    Matches shows R' Q' ((Action.refresh scene >>= fun _ ↦ Action.credentials >>= f) s)
      ((Action.refresh scene' >>= fun _ ↦ Action.credentials >>= g) s') :=
  read.bind stops fun _ _ _ _ _ reached ↦ credentials_bind (next reached)

/-! ### The account store -/

/-- The database is the same on both sides, so it is out of reach on both. -/
theorem accounts_bind {f : Table → Action α} {g : Table → Action β}
    (fault : scene.databaseFault = scene'.databaseFault) (stops : R s s')
    (next : scene.databaseFault = none → Matches shows R Q (f s.accounts s) (g s'.accounts s')) :
    Matches shows R Q ((Action.accounts scene >>= f) s) ((Action.accounts scene' >>= g) s') := by
  cases usable : scene.databaseFault with
  | none =>
    obtain ⟨ends, states, log⟩ := next usable
    rw [Action.bind_apply, Action.bind_apply, Action.accounts_of_usable usable,
      Action.accounts_of_usable (fault.symm.trans usable)]
    exact ⟨ends, states, log⟩
  | some broken =>
    rw [Action.bind_apply, Action.bind_apply, Action.accounts_of_fault usable,
      Action.accounts_of_fault (fault.symm.trans usable)]
    exact ⟨.failures _, stops, rfl⟩

theorem find? {P : Option Row → Option Row → Prop}
    (fault : scene.databaseFault = scene'.databaseFault) (states : R s s')
    (rows : P (s.accounts.find? u) (s'.accounts.find? u)) :
    Matches shows R P (Store.find? scene u s) (Store.find? scene' u s') :=
  accounts_bind fault states fun _ ↦ answer states rows

theorem isLocal_store (fault : scene.databaseFault = scene'.databaseFault) (states : R s s')
    (same : s.accounts.isLocal u = s'.accounts.isLocal u) :
    Matches shows R Eq (Store.isLocal scene u s) (Store.isLocal scene' u s') :=
  accounts_bind fault states fun _ ↦ answer states same

/-- A login against the account store, where both sides find a row to log in with or neither. -/
theorem authenticate_store {P : Record → Record → Prop}
    (fault : scene.databaseFault = scene'.databaseFault) (states : R s s')
    (logins : Option.Rel (fun row row' ↦ P row.record row'.record)
      (Store.login? s.accounts u p) (Store.login? s'.accounts u p'))
    (stamped : R { s with accounts := s.accounts.stampLogin scene.now.text u }
      { s' with accounts := s'.accounts.stampLogin scene'.now.text u }) :
    Matches shows R (Option.Rel P) (Store.authenticate scene u p s)
      (Store.authenticate scene' u p' s') := by
  -- the database is broken for both or for neither
  cases usable : scene.databaseFault with
  | none =>
    rw [Store.authenticate_apply usable, Store.authenticate_apply (fault.symm.trans usable)]
    generalize Store.login? s.accounts u p = row at logins
    generalize Store.login? s'.accounts u p' = row' at logins
    cases logins with
    | none => exact ⟨.answers .none, states, rfl⟩
    | some related => exact ⟨.answers (.some related), stamped, rfl⟩
  | some broken =>
    rw [Store.authenticate, Store.authenticate, Action.bind_apply, Action.bind_apply,
      Action.accounts_of_fault usable, Action.accounts_of_fault (fault.symm.trans usable)]
    exact ⟨.failures _, states, rfl⟩

/-- What a table makes of a record to be written compares on both sides: the same refusal, or tables
and records that are related. -/
inductive WrittenAlike (R : Table → Table → Prop) (P : Record → Record → Prop) :
    Except Refusal (Table × Record) → Except Refusal (Table × Record) → Prop where
  | written {t t' : Table} {r r' : Record} (tables : R t t') (records : P r r') :
      WrittenAlike R P (.ok (t, r)) (.ok (t', r'))
  | refused (refusal : Refusal) : WrittenAlike R P (.error refusal) (.error refusal)

theorem update {P : Record → Record → Prop} {record record' : Record}
    (fault : scene.databaseFault = scene'.databaseFault) (states : R s s')
    (names : record.username = record'.username)
    (written : WrittenAlike (fun t t' ↦ R { s with accounts := t } { s' with accounts := t' }) P
      (s.accounts.upsert scene.now.text record) (s'.accounts.upsert scene'.now.text record')) :
    Matches shows R P (Store.update scene record s) (Store.update scene' record' s') := by
  refine accounts_bind fault states fun _ ↦ ?_
  generalize hw : s.accounts.upsert scene.now.text record = w at written
  generalize hw' : s'.accounts.upsert scene'.now.text record' = w' at written
  cases written with
  | written tables records => exact ⟨.answers records, tables, rfl⟩
  | refused refusal =>
    -- a refused write is tried once more, over the same table
    simp only [names]
    refine log_bind (accounts_bind fault states fun _ ↦ ?_)
    rw [hw, hw']
    exact fail states _

/-! ### The realm -/

/-- The account store is in charge of a name on both sides or on neither. -/
theorem isLocal {P : Credential.Report → Credential.Report → Prop} (realm : Realm)
    (fault : scene.databaseFault = scene'.databaseFault)
    (read : Matches shows R P (Action.refresh scene s) (Action.refresh scene' s'))
    (lists : R (s.refreshed scene.tree) (s'.refreshed scene'.tree) →
      (s.refreshed scene.tree).credentials.lists u = (s'.refreshed scene'.tree).credentials.lists u)
    (states : R s s') (same : s.accounts.isLocal u = s'.accounts.isLocal u) :
    Matches shows R Eq (realm.isLocal scene u s) (realm.isLocal scene' u s') := by
  cases ho : realm.overrideLocal with
  | false =>
    simp only [Realm.isLocal, ho, Bool.false_eq_true, if_false]
    exact isLocal_store fault states same
  | true =>
    simp only [Realm.isLocal, ho, if_true]
    refine refresh_bind read (fun _ _ h ↦ h) fun reached ↦ ?_
    rw [← lists reached]
    cases (s.refreshed scene.tree).credentials.lists u
    · exact isLocal_store fault reached same
    · exact answer reached rfl

theorem keep {P : Record → Record → Prop} (realm : Realm) {record record' : Record}
    (fault : scene.databaseFault = scene'.databaseFault) (states : R s s')
    (names : record.username = record'.username) (records : P record record')
    (written : WrittenAlike (fun t t' ↦ R { s with accounts := t } { s' with accounts := t' }) P
      (s.accounts.upsert scene.now.text record) (s'.accounts.upsert scene'.now.text record')) :
    Matches shows R P (realm.keep scene record s) (realm.keep scene' record' s') := by
  cases hr : realm.refusing with
  | false =>
    simp only [Realm.keep, hr, Bool.false_eq_true, if_false]
    exact update fault states names written
  | true =>
    simp only [Realm.keep, hr, if_true, names]
    exact log_bind (answer states records)

/-- Two passwords have matched in one scheme; what is then kept starts from the rows of the name. -/
theorem welcome {P : Record → Record → Prop} {realm : Realm} (scheme : Secret.Scheme)
    (fault : scene.databaseFault = scene'.databaseFault) (stops : R s s')
    (kept : Matches shows R P
      (realm.keep scene (externalRecord (Realm.recordOf s.accounts u) p) s)
      (realm.keep scene' (externalRecord (Realm.recordOf s'.accounts u) p') s')) :
    Matches shows R (Option.Rel P) (realm.welcome scene u p scheme s)
      (realm.welcome scene' u p' scheme s') := by
  -- the look-up leaves both states as they are, so they are named in what it reaches
  have rows : Matches shows (fun t t' ↦ t = s ∧ t' = s')
      (fun row row' ↦ row = s.accounts.find? u ∧ row' = s'.accounts.find? u)
      (Store.find? scene u s) (Store.find? scene' u s') := find? fault ⟨rfl, rfl⟩ ⟨rfl, rfl⟩
  refine log_bind (rows.bind ?_ ?_)
  · rintro _ _ ⟨rfl, rfl⟩
    exact stops
  · rintro _ _ - - ⟨rfl, rfl⟩ ⟨left, left'⟩
    rw [left, left']
    exact kept.bind (fun _ _ h ↦ h) fun _ _ _ _ records done ↦ answer done (.some records)

/-- Two passwords are checked against the credential file, and match in the same scheme or not at
all. -/
theorem authenticateExternal {P : Credential.Report → Credential.Report → Prop}
    {P' : Record → Record → Prop} {realm : Realm}
    (fault : scene.databaseFault = scene'.databaseFault)
    (read : Matches shows R P (Action.refresh scene s) (Action.refresh scene' s'))
    (stops : ∀ t t', R t t' → R' t t')
    (checks : Realm.scheme? (s.refreshed scene.tree).credentials u p =
      Realm.scheme? (s'.refreshed scene'.tree).credentials u p')
    (kept : R (s.refreshed scene.tree) (s'.refreshed scene'.tree) → Matches shows R' P'
      (realm.keep scene (externalRecord (Realm.recordOf s.accounts u) p) (s.refreshed scene.tree))
      (realm.keep scene' (externalRecord (Realm.recordOf s'.accounts u) p')
        (s'.refreshed scene'.tree))) :
    Matches shows R' (Option.Rel P') (realm.authenticateExternal scene u p s)
      (realm.authenticateExternal scene' u p' s') := by
  rw [Realm.authenticateExternal_eq, Realm.authenticateExternal_eq]
  refine refresh_bind read stops fun reached ↦ ?_
  rw [← checks]
  cases Realm.scheme? (s.refreshed scene.tree).credentials u p with
  | none => exact answer (stops _ _ reached) .none
  | some scheme => exact welcome scheme fault (stops _ _ reached) (kept reached)

end Matches

end Outcome

end AuthRealm
