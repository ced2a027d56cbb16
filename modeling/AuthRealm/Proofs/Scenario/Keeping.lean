import AuthRealm.Scenario.Run
import AuthRealm.Proofs.Account.Database
import AuthRealm.Proofs.Http.Run
import AuthRealm.Proofs.Lookup
import AuthRealm.Proofs.Realm.Commutation

/-!
# What later steps leave in place

A service knows the stores that it is over by their places, and other steps open and use stores
beside them. `Keeps` says of two states that nothing has been lost from one to the other: every
store of the first stands at its place in the second, over the same credential file or the same
database, and a service that runs still runs, with nothing but its counters changed. **Every step
but the start of another service keeps the state that it finds** (`keeps_step`).

What stores hold may well change on the way. But an action only ever refreshes the credential store
that it runs over (`Action.KeepsPath`), and connects the account store to the database at its place.
-/

namespace AuthRealm

open Account Storage

/-! ### What an action leaves of its stores -/

/-- Connecting finds a database that is there, and creates none. -/
theorem Account.Connection.connect_eq_ok {d d' : Disk} {c c' : Connection} {number : Nat}
    (h : c.connect d = .ok (d', c', number)) : d' = d ∧ c'.place = c.place := by
  cases held : c.number with
  | some n =>
    simp only [connect, held, Except.ok.injEq, Prod.mk.injEq] at h
    obtain ⟨rfl, rfl, -⟩ := h
    exact ⟨rfl, rfl⟩
  | none =>
    cases opened : d.openAt false c.place with
    | error fault => simp only [connect, held, opened, reduceCtorEq] at h
    | ok both =>
      simp only [connect, held, opened, Except.ok.injEq, Prod.mk.injEq] at h
      obtain ⟨rfl, rfl, -⟩ := h
      exact ⟨Disk.eq_of_openAt opened, rfl⟩

namespace Action

variable {α β : Type} {x : Action α}

/-- An action that leaves the credential store over its file. -/
def KeepsPath (x : Action α) : Prop :=
  ∀ s, (x s).state.credentials.path = s.credentials.path

theorem keepsPath_of_state (h : ∀ s, (x s).state = s) : KeepsPath x :=
  fun s ↦ by rw [h]

theorem keepsPath_refresh (scene : Scene) : KeepsPath (refresh scene) :=
  fun _ ↦ Credential.Store.refresh_path ..

theorem KeepsPath.bind {f : α → Action β} (hx : KeepsPath x) (hf : ∀ a, KeepsPath (f a)) :
    KeepsPath (x >>= f) :=
  view_bind (fun s ↦ s.credentials.path) hx hf

theorem path_run {action : Scene → Action α} (h : ∀ scene, KeepsPath (action scene)) (m : Machine)
    (credentials : Credential.Store) (accounts : Connection) :
    (run m credentials accounts action).credentials.path = credentials.path := by
  rw [run]
  split
  · exact h _ _
  · exact h _ _

/-- What an action answers on a machine, it answers in some scene and state. -/
theorem exists_result_of_run {action : Scene → Action α} {m : Machine}
    {credentials : Credential.Store} {accounts : Connection} {a : α}
    (h : (run m credentials accounts action).result = .ok a) :
    ∃ scene s, (action scene s).result = .ok a := by
  rw [run] at h
  split at h
  · exact ⟨_, _, h⟩
  · exact ⟨_, _, h⟩

theorem place_run (m : Machine) (credentials : Credential.Store) (accounts : Connection)
    (action : Scene → Action α) :
    (run m credentials accounts action).accounts.place = accounts.place := by
  rw [run]
  split
  · rename_i connected
    exact (Connection.connect_eq_ok connected).2
  · rfl

end Action

namespace Realm

open AuthRealm.Action

theorem keepsPath_isLocal (realm : Realm) (scene : Scene) (u : String) :
    KeepsPath (realm.isLocal scene u) := by
  intro s
  rw [state_isLocal, located]
  split
  · exact Credential.Store.refresh_path ..
  · rfl

theorem keepsPath_authenticate (realm : Realm) (scene : Scene) (u p : String) :
    KeepsPath (realm.authenticate scene u p) := by
  intro s
  rw [credentials_authenticate]
  split
  · exact Credential.Store.refresh_path ..
  · rfl

theorem keepsPath_authenticateCookie (scene : Scene) (cookie : String) :
    KeepsPath (authenticateCookie scene cookie) := by
  have looks : KeepsPath (Store.findByCookie? scene cookie) := keepsPath_of_state fun s ↦ by
    rw [Store.findByCookie?_eq]
  refine looks.bind fun row ↦ ?_
  cases row with
  | none => exact keepsPath_of_state fun _ ↦ rfl
  | some row =>
    dsimp only
    split
    · exact keepsPath_of_state fun _ ↦ rfl
    · refine (keepsPath_refresh scene).bind fun _ ↦
        (keepsPath_of_state fun _ ↦ rfl).bind fun credentials ↦ keepsPath_of_state fun s ↦ ?_
      cases credentials.lists row.username <;> rfl

/-- **A call leaves the credential store over its file.** -/
theorem path_after (realm : Realm) (scene : Scene) (s : RealmState) (call : Call) :
    (realm.after scene s call).credentials.path = s.credentials.path := by
  cases call with
  | isLocal u => exact keepsPath_isLocal realm scene u s
  | authenticate u p => exact keepsPath_authenticate realm scene u p s
  | authenticateCookie cookie => exact keepsPath_authenticateCookie scene cookie s

end Realm

/-- Answering a request does, too. -/
theorem Http.Service.keepsPath_respond (service : Http.Service) (scene : Scene)
    (r : Http.Request) : Action.KeepsPath (service.respond scene r) := by
  intro s
  let v : Http.Visit := ⟨service, s, scene, r⟩
  show v.after.credentials.path = v.before.credentials.path
  rw [v.after_eq]
  cases v.asks?.bind Http.Operation.call? with
  | none => rfl
  | some call => exact Realm.path_after ..

namespace Scenario

open AuthRealm.Action

/-- **Nothing is lost from one state to another**: the stores are over the same files and databases,
with others behind them, and a service is as it was but for its counters. -/
structure State.Keeps (s s' : State) : Prop where
  paths : s.credentials.map Credential.Store.path <+: s'.credentials.map Credential.Store.path
  places : s.accounts.map Connection.place <+: s'.accounts.map Connection.place
  service : ∀ service stores, s.service = some (service, stores) → ∃ counters,
    s'.service = some ({ service with counters := counters }, stores)

namespace State

variable {s s' s'' : State}

/-- A state keeps another one if its stores are over the same, and it has its service. -/
theorem keeps_of_alike
    (paths : s'.credentials.map Credential.Store.path = s.credentials.map Credential.Store.path)
    (places : s'.accounts.map Connection.place = s.accounts.map Connection.place)
    (service : s'.service = s.service) : Keeps s s' where
  paths := paths ▸ List.prefix_rfl
  places := places ▸ List.prefix_rfl
  service found _ runs := ⟨found.counters, service.trans runs⟩

theorem keeps_of_eq (credentials : s'.credentials = s.credentials)
    (accounts : s'.accounts = s.accounts) (service : s'.service = s.service) : Keeps s s' :=
  keeps_of_alike (congrArg _ credentials) (congrArg _ accounts) service

theorem Keeps.refl (s : State) : Keeps s s :=
  keeps_of_eq rfl rfl rfl

theorem Keeps.trans (h : Keeps s s') (h' : Keeps s' s'') : Keeps s s'' where
  paths := h.paths.trans h'.paths
  places := h.places.trans h'.places
  service found stores runs := by
    obtain ⟨_, runs'⟩ := h.service found stores runs
    obtain ⟨counters, runs''⟩ := h'.service _ _ runs'
    exact ⟨counters, runs''⟩

/-- An answer that is turned into another leaves the same state. -/
theorem keeps_map {α β : Type} {f : α → β} {o : Outcome α} (h : Keeps s o.state) :
    Keeps s (o.map f).state := h

theorem storesAt?_eq_some_iff {stores : Stores} {credentials : Credential.Store}
    {accounts : Connection} : s.storesAt? stores = some (credentials, accounts) ↔
      s.credentials[stores.credentials]? = some credentials ∧
        s.accounts[stores.accounts]? = some accounts := by
  simp only [storesAt?, Option.bind_eq_bind, Option.bind_eq_some_iff, Option.pure_def,
    Option.some.injEq, Prod.mk.injEq]
  constructor
  · rintro ⟨_, first, _, second, rfl, rfl⟩
    exact ⟨first, second⟩
  · rintro ⟨first, second⟩
    exact ⟨_, first, _, second, rfl, rfl⟩

/-- The stores at two places are kept. -/
theorem Keeps.storesAt? (h : Keeps s s') {stores : Stores} {credentials : Credential.Store}
    {accounts : Connection} (stand : s.storesAt? stores = some (credentials, accounts)) :
    ∃ credentials' accounts', s'.storesAt? stores = some (credentials', accounts') ∧
      credentials'.path = credentials.path ∧ accounts'.place = accounts.place := by
  obtain ⟨first, second⟩ := storesAt?_eq_some_iff.1 stand
  obtain ⟨credentials', first', path⟩ := exists_getElem?_of_prefix h.paths first
  obtain ⟨accounts', second', place⟩ := exists_getElem?_of_prefix h.places second
  exact ⟨_, _, storesAt?_eq_some_iff.2 ⟨first', second'⟩, path, place⟩

/-! ### Parts of steps -/

theorem keeps_withDisk (s : State) (disk : Disk) : Keeps s (s.withDisk disk) :=
  keeps_of_eq rfl rfl rfl

theorem keeps_addCredentials (s : State) (store : Credential.Store) :
    Keeps s (s.addCredentials store) where
  paths := List.map_append ▸ List.prefix_append _ _
  places := List.prefix_rfl
  service found _ runs := ⟨found.counters, runs⟩

theorem keeps_addAccounts (s : State) (store : Connection) : Keeps s (s.addAccounts store) where
  paths := List.prefix_rfl
  places := List.map_append ▸ List.prefix_append _ _
  service found _ runs := ⟨found.counters, runs⟩

theorem keeps_addRealm (s : State) (opened : OpenRealm) : Keeps s (s.addRealm opened).1 :=
  ((keeps_addCredentials s opened.credentials).trans (keeps_addAccounts _ opened.accounts)).trans
    (keeps_of_eq rfl rfl rfl)

theorem keeps_disconnect (s : State) (place : Nat) : Keeps s (s.disconnect place) :=
  keeps_of_alike rfl (map_modify_of_alike place fun _ ↦ rfl) rfl

theorem keeps_runAt {α : Type} {action : Scene → Action α}
    (keeps : ∀ scene, KeepsPath (action scene)) (s : State) (stores : Stores) :
    Keeps s (s.runAt stores action).state := by
  rw [runAt]
  split
  · exact .refl s
  · rename_i stand
    obtain ⟨first, second⟩ := storesAt?_eq_some_iff.1 stand
    exact keeps_of_alike (map_set_of_alike first (path_run keeps ..))
      (map_set_of_alike second (place_run ..)) rfl

theorem exists_result_of_runAt {α : Type} {action : Scene → Action α} {stores : Stores} {a : α}
    (h : (s.runAt stores action).result = .ok a) :
    ∃ scene before, (action scene before).result = .ok a := by
  rw [runAt] at h
  split at h
  · exact absurd h nofun
  · exact exists_result_of_run h

/-- The current stores stand at their places. -/
theorem credentialStore?_eq_some {place : Nat} {store : Credential.Store}
    (h : s.credentialStore? = some (place, store)) : s.credentials[place]? = some store := by
  simp only [credentialStore?, Option.bind_eq_bind, Option.bind_eq_some_iff, Option.pure_def,
    Option.some.injEq, Prod.mk.injEq] at h
  obtain ⟨_, -, _, stands, rfl, rfl⟩ := h
  exact stands

theorem accountStore?_eq_some {place : Nat} {accounts : Connection}
    (h : s.accountStore? = some (place, accounts)) : s.accounts[place]? = some accounts := by
  simp only [accountStore?, Option.bind_eq_bind, Option.bind_eq_some_iff, Option.pure_def,
    Option.some.injEq, Prod.mk.injEq] at h
  obtain ⟨_, -, _, stands, rfl, rfl⟩ := h
  exact stands

theorem keeps_runAccounts {α : Type} (s : State) (action : Scene → Action α) :
    Keeps s (s.runAccounts action).state := by
  rw [runAccounts]
  split
  · exact .refl s
  · rename_i current
    exact keeps_of_alike rfl
      (map_set_of_alike (accountStore?_eq_some current) (place_run ..)) rfl

theorem keeps_loadSettings (s : State) : Keeps s s.loadSettings.state := by
  rw [loadSettings]
  split
  · exact .refl s
  · split
    · exact .refl s
    · exact keeps_of_eq rfl rfl rfl

theorem keeps_setupRealm (s : State) (settings : Settings) :
    Keeps s (s.setupRealm settings).state := by
  unfold setupRealm
  dsimp only
  split
  · exact keeps_withDisk ..
  · exact (keeps_withDisk ..).trans (keeps_addRealm ..)

/-! ### Steps -/

theorem keeps_changeTree (s : State) (path : String) (tree : Except Fault Tree) :
    Keeps s (s.changeTree path tree).state := by
  cases tree with
  | error fault => exact .refl s
  | ok tree => exact keeps_withDisk ..

theorem keeps_machineStep (s : State) (x : MachineStep) : Keeps s (s.machineStep x).state := by
  have tick : Keeps s s.tick := keeps_of_eq rfl rfl rfl
  cases x with
  | write => exact tick.trans (keeps_changeTree ..)
  | touch => exact tick.trans (keeps_changeTree ..)
  | makeDirectory => exact tick.trans (keeps_changeTree ..)
  | remove => exact keeps_changeTree ..
  | link => exact keeps_changeTree ..
  | permit => exact keeps_changeTree ..
  | environment => exact keeps_of_eq rfl rfl rfl
  | clock => exact keeps_of_eq rfl rfl rfl

theorem keeps_inspect (s : State) (f : Credential.Store → Answer) :
    Keeps s (s.inspect f).state := by
  rw [inspect]
  split
  · exact .refl s
  · exact .refl s

theorem keeps_refresh (s : State) : Keeps s s.refresh.state := by
  rw [refresh]
  split
  · exact .refl s
  · rename_i current
    exact keeps_of_alike (map_set_of_alike (credentialStore?_eq_some current)
      (Credential.Store.refresh_path ..)) rfl rfl

theorem keeps_credentialStep (s : State) (x : CredentialStep) :
    Keeps s (s.credentialStep x).state := by
  cases x with
  | openFile => exact keeps_addCredentials ..
  | refresh => exact keeps_refresh s
  | secret => exact keeps_inspect ..
  | lists => exact keeps_inspect ..
  | usernames => exact keeps_inspect ..
  | entries => exact keeps_inspect ..
  | modifiedAt => exact keeps_inspect ..

theorem keeps_openAccounts (s : State) (url : String) : Keeps s (s.openAccounts url).state := by
  rw [openAccounts]
  split
  · exact .refl s
  · exact .refl s
  · exact (keeps_withDisk ..).trans (keeps_addAccounts ..)

theorem keeps_withDraft (s : State) (draft : Draft) (action : Record → Scene → Action Answer) :
    Keeps s (s.withDraft draft action).state := by
  rw [withDraft]
  split
  · exact .refl s
  · exact keeps_runAccounts ..

theorem keeps_disconnectCurrent (s : State) : Keeps s s.disconnectCurrent := by
  rw [disconnectCurrent]
  split
  · exact keeps_disconnect ..
  · exact .refl s

theorem keeps_destroyDatabase (s : State) : Keeps s s.destroyDatabase.state := by
  rw [destroyDatabase]
  dsimp only
  split
  · exact (keeps_disconnectCurrent s).trans (keeps_withDisk ..)
  · exact keeps_disconnectCurrent s

theorem keeps_accountStep (s : State) (x : AccountStep) : Keeps s (s.accountStep x).state := by
  cases x with
  | openUrl => exact keeps_openAccounts ..
  | create => exact keeps_withDraft ..
  | update => exact keeps_withDraft ..
  | close => exact keeps_disconnectCurrent s
  | destroy => exact keeps_destroyDatabase s
  | _ => exact keeps_runAccounts ..

theorem keeps_inspectRealm (s : State) (f : Credential.Store → Except Failure Answer) :
    Keeps s (s.inspectRealm f).state := by
  rw [inspectRealm]
  split
  · exact .refl s
  · exact .refl s

/-- A question to the realm, whose answer is written down. -/
theorem keeps_runRealm {α : Type} (s : State) (action : Realm → Scene → Action α)
    (answer : α → Answer) (keeps : ∀ realm scene, KeepsPath (action realm scene)) :
    Keeps s (s.runRealm fun realm scene ↦ do return answer (← action realm scene)).state := by
  rw [runRealm]
  split
  · exact .refl s
  · exact keeps_runAt (fun scene ↦ (keeps _ scene).bind fun _ ↦ keepsPath_of_state fun _ ↦ rfl) ..

theorem keeps_openRealm (s : State) (realm : Realm) : Keeps s (s.openRealm realm).state := by
  rw [openRealm]
  split
  · exact keeps_of_eq rfl rfl rfl
  · exact .refl s

theorem keeps_realmStep (s : State) (x : RealmStep) : Keeps s (s.realmStep x).state := by
  cases x with
  | openOver realm => exact keeps_openRealm s realm
  -- a set-up that fails leaves the state, and one that succeeds adds a realm and its stores
  | setup arguments =>
    rw [realmStep]
    split
    · exact .refl s
    · rename_i settings _
      exact keeps_map (s.keeps_setupRealm settings)
  | isLocal u =>
    exact s.keeps_runRealm (fun realm scene ↦ realm.isLocal scene u) .truth fun realm scene ↦
      realm.keepsPath_isLocal scene u
  | authenticate u p =>
    exact s.keeps_runRealm (fun realm scene ↦ realm.authenticate scene u p) .record
      fun realm scene ↦ realm.keepsPath_authenticate scene u p
  | authenticateCookie cookie =>
    exact s.keeps_runRealm (fun _ scene ↦ Realm.authenticateCookie scene cookie) .record
      fun _ scene ↦ Realm.keepsPath_authenticateCookie scene cookie
  | changePassword => exact keeps_inspectRealm ..
  | info => exact keeps_inspectRealm ..
  | close =>
    rw [realmStep]
    split
    · exact .refl s
    · exact keeps_disconnect ..

theorem keeps_runCommand (s : State) (arguments : List String) (password : String) :
    Keeps s (s.runCommand arguments password).state := by
  rw [runCommand]
  split
  · exact .refl s
  · split
    · exact .refl s
    · rw [runRequest]
      dsimp only
      split
      · exact keeps_loadSettings s
      · exact (keeps_loadSettings s).trans (keeps_withDisk ..)

theorem keeps_sendRequest (s : State) (r : Http.Request) : Keeps s (s.sendRequest r).state := by
  rw [sendRequest]
  split
  · exact .refl s
  · rename_i service stores runs
    have sent := keeps_runAt (fun scene ↦ service.keepsPath_respond scene r) s stores
    dsimp only
    split
    · exact sent
    · -- the answered service differs in its counters only, so the same stores are found
      rename_i service' response answered
      refine ⟨sent.paths, sent.places, fun found stores' runs' ↦ ?_⟩
      obtain ⟨rfl, rfl⟩ := Prod.mk.inj (Option.some.inj (runs.symm.trans runs'))
      obtain ⟨scene, before, responded⟩ := exists_result_of_runAt answered
      let v : Http.Visit := ⟨service, before, scene, r⟩
      have answers : v.outcome.result = .ok (service', response) := responded
      obtain rfl : v.next = service' := (Http.Visit.of_result answers).1
      exact ⟨_, by rw [v.exists_response.1]⟩

/-- **Every step but the start of another service keeps the state that it finds.** -/
theorem keeps_step (s : State) {x : Step} (later : x ≠ .startService) :
    Keeps s (s.step x).state := by
  cases x with
  | machine x => exact keeps_machineStep s x
  | settings => exact keeps_map (keeps_loadSettings s)
  | credentials x => exact keeps_credentialStep s x
  | accounts x => exact keeps_accountStep s x
  | realm x => exact keeps_realmStep s x
  | command arguments password => exact keeps_runCommand s arguments password
  | startService => exact absurd rfl later
  | request r => exact keeps_sendRequest s r

end State

end Scenario

end AuthRealm
