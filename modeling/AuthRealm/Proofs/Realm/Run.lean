import AuthRealm.Proofs.Realm.Authenticate

/-!
# Runs of a realm

A realm answers three calls (`Call`). A run is a sequence of them, each with the scene it is made
in: between two calls the file tree, the time and the condition of the database may become anything.
The `Moment`s of a run are its calls with the state that each finds, so that what a run did can be
traced to the call that did it.

`Reachable` is wider than what calls lead to. Credentials are read anew, a program starts again over
the table that another has left, under either kind of realm, and accounts are created, updated,
deleted and stamped from outside. **Every reachable table is well-formed** (`Reachable.wellFormed`).
-/

namespace AuthRealm

open Account Storage

/-- A call of a realm. -/
inductive Call where
  | isLocal (username : String)
  | authenticate (username password : String)
  | authenticateCookie (cookie : String)
  deriving DecidableEq, Repr

namespace Realm

/-- The state that a call leaves. -/
def after (realm : Realm) (scene : Scene) (s : RealmState) : Call → RealmState
  | .isLocal u => (realm.isLocal scene u s).state
  | .authenticate u p => (realm.authenticate scene u p s).state
  | .authenticateCookie cookie => (authenticateCookie scene cookie s).state

/-- The record that a call hands out. -/
def handsOut (realm : Realm) (scene : Scene) (s : RealmState) : Call → Option Record
  | .isLocal _ => none
  | .authenticate u p => (realm.authenticate scene u p s).result.toOption.join
  | .authenticateCookie cookie => (authenticateCookie scene cookie s).result.toOption.join

theorem join_toOption_eq_some_iff {result : Except Failure (Option Record)} {record : Record} :
    result.toOption.join = some record ↔ result = .ok (some record) := by
  cases result with
  | error e => simp [Except.toOption]
  | ok answer => simp [Except.toOption]

end Realm

/-- A call in a scene, and the state that it finds. -/
structure Moment where
  scene : Scene
  call : Call
  before : RealmState

/-- The state that the call of a moment leaves. -/
def Moment.after (m : Moment) (realm : Realm) : RealmState :=
  realm.after m.scene m.before m.call

/-- The record that the call of a moment hands out. -/
def Moment.handsOut (m : Moment) (realm : Realm) : Option Record :=
  realm.handsOut m.scene m.before m.call

namespace Realm

variable {realm : Realm} {scene : Scene} {s : RealmState}

/-- The state after calls, each in its scene. -/
def run (realm : Realm) : RealmState → List (Scene × Call) → RealmState
  | s, [] => s
  | s, (scene, call) :: rest => realm.run (realm.after scene s call) rest

/-- The moments of a run. -/
def moments (realm : Realm) : RealmState → List (Scene × Call) → List Moment
  | _, [] => []
  | s, (scene, call) :: rest => ⟨scene, call, s⟩ :: realm.moments (realm.after scene s call) rest

/-- The moments of a run are its calls. -/
theorem mem_calls_of_mem_moments {calls : List (Scene × Call)} {m : Moment}
    (hm : m ∈ realm.moments s calls) :
    (m.scene, m.call) ∈ calls := by
  induction calls generalizing s with
  | nil => exact absurd hm List.not_mem_nil
  | cons c rest ih =>
    rcases List.mem_cons.1 hm with rfl | hm
    · exact List.mem_cons_self
    · exact List.mem_cons_of_mem _ (ih hm)

/-- Whatever the calls of a run preserve holds at its end, and is found by each of them. -/
theorem moments_induction {P : RealmState → Prop} {calls : List (Scene × Call)}
    (step : ∀ m ∈ realm.moments s calls, P m.before → P (m.after realm)) (h : P s) :
    P (realm.run s calls) ∧ ∀ m ∈ realm.moments s calls, P m.before := by
  induction calls generalizing s with
  | nil => exact ⟨h, by simp [moments]⟩
  | cons c rest ih =>
    -- the first call finds the state of the start, and the others run from the state it leaves
    have first : P (realm.after c.1 s c.2) := step _ List.mem_cons_self h
    obtain ⟨hrun, hmoments⟩ := ih (fun m hm ↦ step m (List.mem_cons_of_mem _ hm)) first
    refine ⟨hrun, fun m hm ↦ ?_⟩
    rcases List.mem_cons.1 hm with rfl | hm
    · exact h
    · exact hmoments m hm

/-- Whatever calls preserve holds at the end of a run, and is found by each of its calls. -/
theorem run_induction {P : RealmState → Prop}
    (step : ∀ scene s call, P s → P (realm.after scene s call)) (h : P s)
    (calls : List (Scene × Call)) :
    P (realm.run s calls) ∧ ∀ m ∈ realm.moments s calls, P m.before :=
  moments_induction (fun m _ ↦ step m.scene m.before m.call) h

/-! ### Calls are steps of the table -/

theorem step_kept {t : Table} (h : t.WellFormed) (now : String) (record : Record)
    (deletes : Option String) : Table.Step deletes t (realm.kept t now record).1 := by
  unfold kept
  split
  · exact .kept
  · cases hu : t.upsert now record with
    | error refusal => exact .kept
    | ok written => exact Table.step_upsert h hu deletes

/-- **A call is a step of the table**, and deletes no name. -/
theorem step_after (realm : Realm) (scene : Scene) (s : RealmState) (call : Call)
    (h : s.accounts.WellFormed) (deletes : Option String) :
    Table.Step deletes s.accounts (realm.after scene s call).accounts := by
  cases call with
  | isLocal u => exact keepsAccounts_isLocal realm scene u s ▸ .kept
  | authenticateCookie cookie => exact keepsAccounts_authenticateCookie scene cookie s ▸ .kept
  | authenticate u p =>
    show Table.Step deletes s.accounts (realm.authenticate scene u p s).state.accounts
    cases login_authenticate realm scene u p s with
    | nobody refused kept => exact kept ▸ .kept
    | localAccount row taken found answer written =>
      exact written ▸ Table.step_stampLogin _ _ u deletes
    | external scheme taken matched answer written => exact written ▸ step_kept h _ _ deletes

theorem wellFormed_after (realm : Realm) (scene : Scene) (s : RealmState) (call : Call)
    (h : s.accounts.WellFormed) : (realm.after scene s call).accounts.WellFormed :=
  (realm.step_after scene s call h none).wellFormed h

end Realm

/-! ### Reachable states -/

/-- A write from outside a realm. -/
inductive Write where
  | create (record : Record)
  | update (record : Record)
  | delete (username : String)
  | stampLogin (username : String)
  deriving DecidableEq, Repr

/-- The state that a write leaves. -/
def Write.after (scene : Scene) (s : RealmState) : Write → RealmState
  | .create record => (Store.create scene record s).state
  | .update record => (Store.update scene record s).state
  | .delete username => (Store.delete scene username s).state
  | .stampLogin username => (Store.stampLogin scene username s).state

theorem Write.after_of_fault {scene : Scene} {fault : DatabaseFault}
    (broken : scene.databaseFault = some fault) (s : RealmState) (w : Write) :
    w.after scene s = s := by
  cases w <;>
    simp [after, Store.create, Store.update, Store.delete, Store.stampLogin, Action.bind_apply,
      Action.accounts_of_fault broken]

/-- **Everything a write can do to a table.** It does nothing if there is no database, or if the
table refuses the record. -/
inductive Write.Lands (now : String) (t : Table) : Write → Table → Prop where
  | kept (w : Write) : Lands now t w t
  | created {record : Record} {t' : Table} {id : Nat}
      (accepted : t.create now record = .ok (t', id)) : Lands now t (.create record) t'
  | updated {record written : Record} {t' : Table}
      (accepted : t.upsert now record = .ok (t', written)) : Lands now t (.update record) t'
  | deleted (username : String) : Lands now t (.delete username) (t.delete username).1
  | stamped (username : String) :
      Lands now t (.stampLogin username) (t.stampLogin now username)

/-- **Every write does one of these**, in any scene. -/
theorem Write.lands (w : Write) (scene : Scene) (s : RealmState) :
    w.Lands scene.now.text s.accounts (w.after scene s).accounts := by
  cases fault : scene.databaseFault with
  | some fault' =>
    rw [w.after_of_fault fault]
    exact .kept w
  | none =>
    have opened := Action.accounts_of_usable (s := s) fault
    -- a write that is refused lands as nothing, one that is accepted as the change of its table
    cases w with
    | create record =>
      cases hc : s.accounts.create scene.now.text record with
      | error refusal =>
        rw [after, Store.create_refused fault hc]
        exact .kept _
      | ok created =>
        rw [after, Store.create_apply fault hc]
        exact .created hc
    | update record =>
      cases hu : s.accounts.upsert scene.now.text record with
      | error refusal =>
        rw [after, Store.update_refused fault hu]
        exact .kept _
      | ok written =>
        rw [after, Store.update_apply fault hu]
        exact .updated hu
    | delete username =>
      simpa [after, Store.delete, Action.bind_apply, opened] using Lands.deleted username
    | stampLogin username =>
      simpa [after, Store.stampLogin, Action.bind_apply, opened] using Lands.stamped username

/-- The name that a write deletes. -/
def Write.deletes? : Write → Option String
  | .delete username => some username
  | _ => none

/-- **A write is a step of the table**, also where it is refused. -/
theorem Write.step (scene : Scene) {s : RealmState} (w : Write) (h : s.accounts.WellFormed) :
    Table.Step w.deletes? s.accounts (w.after scene s).accounts := by
  have lands := w.lands scene s
  generalize (w.after scene s).accounts = t' at lands ⊢
  cases lands with
  | kept => exact .kept
  | created accepted => exact Table.step_create accepted _
  | updated accepted => exact Table.step_upsert h accepted _
  | deleted username => exact .removed username rfl
  | stamped username => exact s.accounts.step_stampLogin _ username _

theorem Write.wellFormed_after (scene : Scene) {s : RealmState} (w : Write)
    (h : s.accounts.WellFormed) : (w.after scene s).accounts.WellFormed :=
  (w.step scene h).wellFormed h

/-- **The reachable states**: a new store over an empty table, and whatever restarts, refreshes,
calls and writes make of it. -/
inductive Reachable : RealmState → Prop where
  | start (path : Path) (charset : Text.Encoding) :
      Reachable ⟨{ path := path, charset := charset }, {}⟩
  | restart {s : RealmState} (path : Path) (charset : Text.Encoding) (h : Reachable s) :
      Reachable ⟨{ path := path, charset := charset }, s.accounts⟩
  | refresh {s : RealmState} (tree : Tree) (h : Reachable s) : Reachable (s.refreshed tree)
  | call {s : RealmState} (realm : Realm) (scene : Scene) (call : Call) (h : Reachable s) :
      Reachable (realm.after scene s call)
  | write {s : RealmState} (scene : Scene) (w : Write) (h : Reachable s) :
      Reachable (w.after scene s)

theorem Reachable.wellFormed {s : RealmState} (h : Reachable s) : s.accounts.WellFormed := by
  induction h with
  | start path charset => exact Table.wellFormed_empty
  | restart path charset h ih => exact ih
  | refresh tree h ih => exact ih
  | call realm scene call h ih => exact realm.wellFormed_after scene _ call ih
  | write scene w h ih => exact w.wellFormed_after scene ih

end AuthRealm
