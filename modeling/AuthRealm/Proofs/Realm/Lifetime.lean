import AuthRealm.Proofs.Account.Database
import AuthRealm.Proofs.Account.Growth
import AuthRealm.Proofs.Realm.Run
import AuthRealm.Realm.Setup

/-!
# The lifetime of an account

An account store is opened over a database, used, closed and opened again, by itself and through
realms, while the rest of the machine changes as it likes (`Event`). What becomes of its table is
followed here through every such run.

**Rows last until their name is deleted, and numbers only grow** (`accounts_last`). It rests on two
facts that know nothing of each other:

* each use is one step of a table (`Use.step`), whatever it answers and whether or not it fails;
* a store that was closed comes back to the database that it had (`Sound.connect`), as long as
  nobody takes that away (`Event.Spares`).

A database in memory is the exception to the second: it is gone when it is closed, and the next one
starts empty (`Turn.renewed`).
-/

namespace AuthRealm

open Account Storage

/-! ### Uses of an account store -/

/-- An action of which only what it does matters. -/
def Action.discard {α : Type} (x : Action α) : Action Unit := fun s ↦
  { result := (x s).result.map fun _ ↦ (), state := (x s).state, log := (x s).log }

/-- A use of an account store that may change it, by itself or through a realm. -/
inductive Use where
  | write (w : Write)
  | authenticate (username password : String)
  | call (realm : Realm) (call : Call)
  deriving DecidableEq, Repr

namespace Use

/-- What a use does. -/
def action : Use → Scene → Action Unit
  | .write (.create record), scene => (Store.create scene record).discard
  | .write (.update record), scene => (Store.update scene record).discard
  | .write (.delete username), scene => (Store.delete scene username).discard
  | .write (.stampLogin username), scene => Store.stampLogin scene username
  | .authenticate username password, scene => (Store.authenticate scene username password).discard
  | .call realm (.isLocal username), scene => (realm.isLocal scene username).discard
  | .call realm (.authenticate username password), scene =>
    (realm.authenticate scene username password).discard
  | .call _ (.authenticateCookie cookie), scene =>
    (Realm.authenticateCookie scene cookie).discard

/-- The name that a use deletes. -/
def deletes? : Use → Option String
  | .write w => w.deletes?
  | _ => none

theorem action_write (w : Write) (scene : Scene) (s : RealmState) :
    ((write w).action scene s).state = w.after scene s := by
  cases w <;> rfl

theorem action_call (realm : Realm) (c : Call) (scene : Scene) (s : RealmState) :
    ((call realm c).action scene s).state = realm.after scene s c := by
  cases c <;> rfl

/-- **A use is a step of the table**, whatever it answers. -/
theorem step (u : Use) (scene : Scene) {s : RealmState} (h : s.accounts.WellFormed) :
    Table.Step u.deletes? s.accounts (u.action scene s).state.accounts := by
  -- each use is one step of the table, and a use that fails is none
  cases u with
  | write w =>
    rw [action_write]
    exact w.step scene h
  | call realm c =>
    rw [action_call]
    exact realm.step_after scene s c h none
  | authenticate username password =>
    show Table.Step none s.accounts (Store.authenticate scene username password s).state.accounts
    cases fault : scene.databaseFault with
    | some fault' =>
      simpa [Store.authenticate, Action.bind_apply, Action.accounts_of_fault fault] using
        Table.Step.kept
    | none =>
      rw [Store.authenticate_apply fault]
      split
      · exact .kept
      · exact s.accounts.step_stampLogin scene.now.text username none

end Use

/-! ### A store and what happens to it -/

/-- An account store in use: the machine it is on, the URL it was opened with, the credentials that
realms over it go by, its connection, and the number of the database it was connected to last. -/
structure Site where
  machine : Machine
  url : String
  credentials : Credential.Store
  accounts : Connection
  opened : Nat
  deriving Repr

/-- What can happen to an account store. -/
inductive Event where
  /-- It is used, by itself or through a realm. -/
  | use (u : Use)
  /-- It gives up its connection, until it is next used. -/
  | close
  /-- A new store is opened with the same URL. -/
  | reopen
  /-- The rest of the machine changes: the files, the time, the credentials of realms. -/
  | around (tree : Tree) (now : Timestamp) (credentials : Credential.Store)
  deriving Repr

/-- The name that an event deletes. -/
def Event.deletes? : Event → Option String
  | .use u => u.deletes?
  | _ => none

namespace Site

/-- Opens the store of a URL. -/
def open? (m : Machine) (url : String) (credentials : Credential.Store) :
    Except Connection.OpenError Site :=
  match Connection.openUrl m.drivers m.disk m.workDir url with
  | .error e => .error e
  | .ok (disk, accounts) =>
    .ok ⟨{ m with disk := disk }, url, credentials, accounts, accounts.number.getD 0⟩

/-- The table of the database that the store was connected to last. -/
def table (s : Site) : Table :=
  s.machine.disk.table s.opened

/-- All accounts, as the store lists them. -/
def list (s : Site) : Except Failure (List Row) :=
  (Action.run s.machine s.credentials s.accounts Store.list).result

/-- The site after a use of the store. -/
def use (s : Site) (u : Use) : Site :=
  let r := Action.run s.machine s.credentials s.accounts u.action
  { s with
    machine := { s.machine with disk := r.disk }
    credentials := r.credentials
    accounts := r.accounts
    opened := r.accounts.number.getD s.opened }

/-- The site after an event. What cannot be opened again is left as it is. -/
def step (s : Site) : Event → Site
  | .use u => s.use u
  | .close => { s with accounts := s.accounts.close }
  | .reopen =>
    match open? s.machine s.url s.credentials with
    | .error _ => s
    | .ok s' => s'
  | .around tree now credentials =>
    { s with
      machine := { s.machine with disk := { s.machine.disk with tree := tree }, now := now }
      credentials := credentials }

/-- The site after a run of events. -/
def run (s : Site) (events : List Event) : Site :=
  events.foldl step s

end Site

/-! ### What is asked of events -/

namespace Event

/-- **The database of a site is spared**: whatever becomes of the files, its place leads to no other
database and does not become vacant. It may be out of reach. -/
def Spares (start : Site) : Event → Prop
  | .around tree _ _ => Disk.LeadsTo start.accounts.place tree start.opened
  | _ => True

/-- An event leaves the database in reach. -/
def KeepsInReach (start : Site) : Event → Prop
  | .close => start.accounts.place ≠ .memory
  | .around tree _ _ => Disk.Reaches start.accounts.place tree start.opened
  | _ => True

/-- **An event ends the account of a name**: it deletes the name, or it closes a database in memory.
-/
def Ends (start : Site) (username : String) (e : Event) : Prop :=
  e.deletes? = some username ∨
    (start.accounts.place = .memory ∧ (e = .close ∨ e = .reopen))

end Event

theorem Event.KeepsInReach.spares {start : Site} {e : Event} (h : e.KeepsInReach start) :
    e.Spares start := by
  cases e with
  | around tree now credentials => exact Disk.Reaches.leadsTo h
  | _ => exact trivial

namespace Site

variable {start s : Site} {e : Event}

/-! ### One event -/

/-- **What is true of a site all the time**, in terms of the site at the start. -/
structure Sound (start s : Site) : Prop where
  wellFormed : s.table.WellFormed
  place : s.accounts.place = start.accounts.place
  /-- The URL still names the place. -/
  named : ∃ url, StoreUrl.ofText? s.url = some url ∧
    url.place s.machine.drivers s.machine.workDir = .ok s.accounts.place
  /-- A store that is connected is connected to the database of the site. -/
  connected : ∀ number, s.accounts.number = some number → number = s.opened
  leads : Disk.LeadsTo s.accounts.place s.machine.disk.tree start.opened
  /-- Only in memory is there ever another database. -/
  same : s.accounts.place = .memory ∨ s.opened = start.opened

/-- **A store comes back to the database that it had.** -/
theorem Sound.connect (h : Sound start s) {disk : Disk} {accounts : Connection} {number : Nat}
    (connected : s.accounts.connect s.machine.disk = .ok (disk, accounts, number)) :
    disk = s.machine.disk ∧ accounts = { s.accounts with number := some s.opened } ∧
      number = s.opened := by
  obtain ⟨m, url, credentials, ⟨url', place, number?⟩, opened⟩ := s
  cases number? with
  | some n =>
    obtain ⟨rfl, h'⟩ := Prod.mk.inj (Except.ok.inj connected)
    obtain ⟨rfl, rfl⟩ := Prod.mk.inj h'
    obtain rfl : n = opened := h.connected n rfl
    exact ⟨rfl, rfl, rfl⟩
  | none =>
    simp only [Connection.connect] at connected
    split at connected
    · exact absurd connected nofun
    · rename_i disk' number' opened'
      obtain ⟨rfl, h'⟩ := Prod.mk.inj (Except.ok.inj connected)
      obtain ⟨rfl, rfl⟩ := Prod.mk.inj h'
      -- a database in memory is gone once it is given up, and it is not found again by its place
      cases place with
      | memory => exact absurd opened' nofun
      | file path =>
        obtain same : opened = start.opened := h.same.resolve_left nofun
        obtain ⟨rfl, rfl⟩ := Disk.openAt_of_leadsTo h.leads opened'
        exact ⟨rfl, by rw [same], same.symm⟩

/-- The table that a use of the store makes of that of the site. -/
def written (s : Site) (u : Use) : Table :=
  (u.action ⟨s.machine.disk.tree, s.machine.now, none⟩ ⟨s.credentials, s.table⟩).state.accounts

/-- A use that finds a database puts a table in place of the old one, -/
theorem Sound.use_of_connect (h : Sound start s) (u : Use)
    (connected : ∃ found, s.accounts.connect s.machine.disk = .ok found) :
    s.use u =
      { s with
        machine.disk := s.machine.disk.setTable s.opened (s.written u)
        credentials := (s.use u).credentials
        accounts.number := some s.opened } := by
  obtain ⟨⟨disk, accounts, number⟩, connected⟩ := connected
  obtain ⟨rfl, rfl, rfl⟩ := h.connect connected
  simp only [Site.use, Action.run, connected]
  rfl

/-- and one that finds none leaves the table alone. -/
theorem Sound.use_of_fault (h : Sound start s) (u : Use) {fault : DatabaseFault}
    (broken : s.accounts.connect s.machine.disk = .error fault) :
    s.use u = { s with credentials := (s.use u).credentials } := by
  have kept : s.accounts.number.getD s.opened = s.opened := by
    cases found : s.accounts.number with
    | none => rfl
    | some number => exact h.connected number found
  simp [Site.use, Action.run, broken, kept]

theorem Sound.use_eq (h : Sound start s) (u : Use) :
    s.use u = { s with credentials := (s.use u).credentials } ∨
      s.use u =
        { s with
          machine.disk := s.machine.disk.setTable s.opened (s.written u)
          credentials := (s.use u).credentials
          accounts.number := some s.opened } := by
  cases connected : s.accounts.connect s.machine.disk with
  | error fault => exact .inl (h.use_of_fault u connected)
  | ok found => exact .inr (h.use_of_connect u ⟨found, connected⟩)

/-- **A use is a step of the table of the site.** -/
theorem Sound.use (h : Sound start s) (u : Use) :
    Sound start (s.use u) ∧ Table.Step u.deletes? s.table (s.use u).table := by
  -- either the database could not be used, or its table is the one that the use has written
  rcases h.use_eq u with used | used
  · rw [used]
    exact ⟨⟨h.wellFormed, h.place, h.named, h.connected, h.leads, h.same⟩, .kept⟩
  · have step : Table.Step u.deletes? s.table (s.written u) :=
      u.step _ (s := ⟨s.credentials, s.table⟩) h.wellFormed
    have table : (s.use u).table = s.written u := by
      rw [used]
      exact Disk.table_setTable ..
    rw [← table] at step
    refine ⟨?_, step⟩
    have wellFormed := step.wellFormed h.wellFormed
    rw [used] at wellFormed ⊢
    exact ⟨wellFormed, h.place, h.named, fun _ found ↦ (Option.some.inj found).symm, h.leads,
      h.same⟩

/-- **A write of a new name adds a row** at the end, with the next number and the time of the
machine, whichever of the two writes it is. -/
theorem Sound.rows_added (h : Sound start s) {record : Record} {role : String}
    (hrole : record.role = some role) (fresh : ∀ row ∈ s.table.rows, row.username ≠ record.username)
    (connected : ∃ found, s.accounts.connect s.machine.disk = .ok found) {w : Write}
    (hw : w = .create record ∨ w = .update record) :
    (s.use (.write w)).table.rows =
      s.table.rows ++ [Table.rowOf record role s.table.nextId s.machine.now.text] := by
  have absent : s.table.find? record.username = none := Table.find?_eq_none_iff.2 fresh
  have written : s.written (.write w) =
      ⟨s.table.rows ++ [Table.rowOf record role s.table.nextId s.machine.now.text]⟩ := by
    rw [Site.written, Use.action_write]
    rcases hw with rfl | rfl
    · rw [Write.after, Store.create_apply rfl (Table.create_of_absent hrole absent)]
    · rw [Write.after, Store.update_apply rfl (Table.upsert_of_absent hrole absent)]
  rw [h.use_of_connect _ connected, written, Site.table, Disk.table_setTable]

/-- **A write without a role changes nothing**, for there is no row without one. -/
theorem Sound.table_use_of_no_role (h : Sound start s) {record : Record}
    (hrole : record.role = none) {w : Write} (hw : w = .create record ∨ w = .update record) :
    (s.use (.write w)).table = s.table := by
  -- a record without a role is refused by the table on both branches
  have written : s.written (.write w) = s.table := by
    rw [Site.written, Use.action_write]
    rcases hw with rfl | rfl
    · simp [Write.after, Store.create, Action.bind_apply, Action.accounts_of_usable, Table.create,
        hrole]
    · simp [Write.after, Store.update, Action.bind_apply, Action.accounts_of_usable,
        Table.upsert_of_no_role hrole]
  rcases h.use_eq (.write w) with used | used
  · rw [used]
    rfl
  · rw [used, written]
    exact Disk.table_setTable ..

/-! ### Opening -/

theorem open?_eq_ok {m : Machine} {url : String} {credentials : Credential.Store}
    (h : open? m url credentials = .ok s) :
    ∃ url' place disk number, StoreUrl.ofText? url = some url' ∧
      url'.place m.drivers m.workDir = .ok place ∧
      m.disk.openAt true place = .ok (disk, number) ∧
      s = ⟨{ m with disk := disk }, url, credentials, ⟨url', place, some number⟩, number⟩ := by
  rw [open?] at h
  split at h
  · exact absurd h nofun
  · rename_i disk accounts found
    obtain ⟨url', place, number, read, named, opened, rfl⟩ := Connection.openUrl_eq_ok found
    exact ⟨url', place, disk, number, read, named, opened, (Except.ok.inj h).symm⟩

/-- A site is sound when it has been opened over an empty table, -/
theorem sound_of_open? {m : Machine} {url : String} {credentials : Credential.Store}
    (h : open? m url credentials = .ok start) (empty : start.table = {}) : Sound start start := by
  obtain ⟨url', place, disk, number, read, named, opened, rfl⟩ := open?_eq_ok h
  refine ⟨?_, rfl, ⟨url', read, named⟩, ?_, (Disk.reaches_of_openAt opened).leadsTo, .inr rfl⟩
  · rw [empty]
    exact Table.wellFormed_empty
  · exact fun _ found ↦ (Option.some.inj found).symm

/-- and sound when it is opened again: over the table that it had, or over an empty one in memory.
-/
theorem Sound.reopen (h : Sound start s) {s' : Site}
    (reopened : open? s.machine s.url s.credentials = .ok s') :
    Sound start s' ∧
      (s'.table = s.table ∨ (start.accounts.place = .memory ∧ s'.table = {})) := by
  obtain ⟨m, text, credentials, ⟨url, place, number?⟩, number⟩ := s
  obtain ⟨url', place', disk, number', read, named, opened, rfl⟩ := open?_eq_ok reopened
  obtain ⟨url'', read', named'⟩ := h.named
  -- the URL names the place that it has always named
  obtain rfl : url'' = url' := Option.some.inj (read'.symm.trans read)
  obtain rfl : place = place' := Except.ok.inj (named'.symm.trans named)
  have connected : ∀ n, some number' = some n → n = number' :=
    fun _ found ↦ (Option.some.inj found).symm
  cases place with
  | memory =>
    have empty : disk.table number' = {} := Disk.table_of_openAt_memory opened
    have wellFormed : (disk.table number').WellFormed := empty ▸ Table.wellFormed_empty
    exact ⟨⟨wellFormed, h.place, ⟨url'', read, named⟩, connected, trivial, .inl rfl⟩,
      .inr ⟨h.place.symm, empty⟩⟩
  | file path =>
    obtain rfl : number = start.opened := h.same.resolve_left nofun
    obtain ⟨rfl, rfl⟩ := Disk.openAt_of_leadsTo h.leads opened
    exact ⟨⟨h.wellFormed, h.place, ⟨url'', read, named⟩, connected, h.leads, .inr rfl⟩,
      .inl rfl⟩

/-! ### Event by event -/

/-- **What an event makes of the table**: a step of it, or a new one in memory. -/
inductive Turn (start s : Site) (e : Event) (t : Table) : Prop where
  | stepped (step : Table.Step e.deletes? s.table t)
  | renewed (memory : start.accounts.place = .memory) (reopened : e = .reopen) (empty : t = {})

theorem Sound.step (h : Sound start s) (spared : e.Spares start) :
    Sound start (s.step e) ∧ Turn start s e (s.step e).table := by
  cases e with
  | use u =>
    obtain ⟨sound, step⟩ := h.use u
    exact ⟨sound, .stepped step⟩
  | close => exact ⟨⟨h.wellFormed, h.place, h.named, nofun, h.leads, h.same⟩, .stepped .kept⟩
  | reopen =>
    rw [Site.step]
    cases reopened : open? s.machine s.url s.credentials with
    | error problem => exact ⟨h, .stepped .kept⟩
    | ok s' =>
      -- a new database is empty, and only a store in memory gets one
      obtain ⟨sound, same | ⟨memory, empty⟩⟩ := h.reopen reopened
      · exact ⟨sound, .stepped (same ▸ .kept)⟩
      · exact ⟨sound, .renewed memory rfl empty⟩
  | around tree now credentials =>
    have leads : Disk.LeadsTo s.accounts.place tree start.opened := h.place ▸ spared
    exact ⟨⟨h.wellFormed, h.place, h.named, h.connected, leads, h.same⟩, .stepped .kept⟩

/-- **A row outlasts an event** that does not end its account. -/
theorem Turn.lasts {t : Table} (turn : Turn start s e t) {row : Row} (hr : row ∈ s.table.rows)
    (lives : ¬ e.Ends start row.username) : ∃ row' ∈ t.rows, Table.SameAccount row row' := by
  cases turn with
  | stepped step => exact step.lasts hr fun deleted ↦ lives (.inl deleted)
  | renewed memory reopened empty => exact absurd (.inr ⟨memory, .inr reopened⟩) lives

/-- **A row after an event** is of an account that was there, or has the next number. -/
theorem Turn.sameAccount_or_next {t : Table} (turn : Turn start s e t) {row : Row}
    (hr : row ∈ t.rows) :
    (∃ old ∈ s.table.rows, Table.SameAccount old row) ∨ row.id = s.table.nextId := by
  cases turn with
  | stepped step => exact step.sameAccount_or_next hr
  | renewed memory reopened empty => exact absurd (empty ▸ hr) List.not_mem_nil

/-! ### Every run -/

variable {events : List Event}

theorem Sound.run (h : Sound start s) (spared : ∀ e ∈ events, e.Spares start) :
    Sound start (s.run events) := by
  induction events generalizing s with
  | nil => exact h
  | cons e rest ih =>
    exact ih (h.step (spared e List.mem_cons_self)).1
      fun e' he' ↦ spared e' (List.mem_cons_of_mem _ he')

/-- **A row outlasts a run** of which no event ends its account, by induction on the events. -/
theorem Sound.lasts (h : Sound start s) (spared : ∀ e ∈ events, e.Spares start) {row : Row}
    (hr : row ∈ s.table.rows) (lives : ∀ e ∈ events, ¬ e.Ends start row.username) :
    ∃ row' ∈ (s.run events).table.rows, Table.SameAccount row row' := by
  induction events generalizing s row with
  | nil => exact ⟨row, hr, .refl row⟩
  | cons e rest ih =>
    obtain ⟨sound, turn⟩ := h.step (spared e List.mem_cons_self)
    obtain ⟨mid, hmid, same⟩ := turn.lasts hr (lives e List.mem_cons_self)
    -- the row goes on under the same name, so what is left of the run does not end it either
    have lives' : ∀ e' ∈ rest, ¬ e'.Ends start mid.username := fun e' he' ↦
      same.username ▸ lives e' (List.mem_cons_of_mem _ he')
    obtain ⟨row', hrow', same'⟩ :=
      ih sound (fun e' he' ↦ spared e' (List.mem_cons_of_mem _ he')) hmid lives'
    exact ⟨row', hrow', same.trans same'⟩

/-! ### Staying in reach -/

/-- The database of a site is in reach: it stands where the place leads, and is connected if it is
one in memory. -/
structure InReach (start s : Site) : Prop where
  reaches : Disk.Reaches s.accounts.place s.machine.disk.tree start.opened
  connected : s.accounts.place = .memory → s.accounts.number.isSome = true

theorem inReach_of_open? {m : Machine} {url : String} {credentials : Credential.Store}
    (h : open? m url credentials = .ok start) : InReach start start := by
  obtain ⟨url', place, disk, number, read, named, opened, rfl⟩ := open?_eq_ok h
  exact ⟨Disk.reaches_of_openAt opened, fun _ ↦ rfl⟩

theorem InReach.step (reach : InReach start s) (h : Sound start s) (kept : e.KeepsInReach start) :
    InReach start (s.step e) := by
  -- within reach the database stays open or can be opened at its place
  cases e with
  | use u =>
    show InReach start (s.use u)
    rcases h.use_eq u with used | used <;> rw [used]
    · exact ⟨reach.reaches, reach.connected⟩
    · exact ⟨reach.reaches, fun _ ↦ rfl⟩
  | close => exact ⟨reach.reaches, fun memory ↦ absurd (h.place.symm.trans memory) kept⟩
  | around tree now credentials => exact ⟨h.place ▸ kept, reach.connected⟩
  | reopen =>
    rw [Site.step]
    cases reopened : open? s.machine s.url s.credentials with
    | error problem => exact reach
    | ok s' =>
      have sound := (h.reopen reopened).1
      obtain ⟨url, place, disk, number, read, named, opened, rfl⟩ := open?_eq_ok reopened
      refine ⟨?_, fun _ ↦ rfl⟩
      rcases sound.same with memory | same
      · show Disk.Reaches place disk.tree start.opened
        rw [show place = .memory from memory]
        exact trivial
      · exact same ▸ Disk.reaches_of_openAt opened

theorem InReach.run (reach : InReach start s) (h : Sound start s)
    (kept : ∀ e ∈ events, e.KeepsInReach start) : InReach start (s.run events) := by
  induction events generalizing s with
  | nil => exact reach
  | cons e rest ih =>
    have first := kept e List.mem_cons_self
    exact ih (reach.step h first) (h.step first.spares).1
      fun e' he' ↦ kept e' (List.mem_cons_of_mem _ he')

theorem InReach.exists_connect (reach : InReach start s) :
    ∃ found, s.accounts.connect s.machine.disk = .ok found := by
  obtain ⟨m, url, credentials, ⟨url', place, number?⟩, opened⟩ := s
  cases number? with
  | some number => exact ⟨_, rfl⟩
  | none =>
    cases place with
    | memory => exact absurd (reach.connected rfl) nofun
    | file path =>
      have opened' : m.disk.openAt false (.file path) = _ := Disk.openAt_of_reaches reach.reaches
      exact ⟨_, by rw [Connection.connect, opened']⟩

/-! ### Listings -/

/-- A store lists the rows of its table by name, if it can be connected. -/
theorem Sound.list (h : Sound start s) :
    (∃ fault, s.accounts.connect s.machine.disk = .error fault ∧
      s.list = .error (.database fault)) ∨ s.list = .ok s.table.sorted := by
  cases connected : s.accounts.connect s.machine.disk with
  | error fault =>
    exact .inl ⟨fault, rfl, by simp [Site.list, Action.run, connected, Store.list,
      Action.bind_apply, Action.accounts_of_fault]⟩
  | ok found =>
    obtain ⟨disk, accounts, number⟩ := found
    obtain ⟨rfl, rfl, rfl⟩ := h.connect connected
    exact .inr (by simp [Site.list, Action.run, connected, Store.list, Action.bind_apply,
      Action.accounts_of_usable, Site.table])

/-! ### All of it -/

/-- **What is true of the accounts of a site**, wherever a run has led. -/
structure Orderly (start s : Site) : Prop where
  /-- No name occurs twice, -/
  names : (s.table.rows.map (·.username)).Nodup
  /-- nor does a number, and numbers begin with one. -/
  ids : (s.table.rows.map (·.id)).Nodup
  positive : ∀ row ∈ s.table.rows, 1 ≤ row.id
  /-- Records of rows lack nothing that a row has: name and kind are part of every record, and the
  rest is there. -/
  complete : ∀ row ∈ s.table.rows, row.record.id = some (row.id : Int) ∧
    row.record.role = some row.role ∧ row.record.createdAt = some row.createdAt
  /-- What has no role does not become a row. -/
  roleless : ∀ record : Record, record.role = none →
    ∀ w : Write, w = .create record ∨ w = .update record →
      (s.step (.use (.write w))).table = s.table
  /-- A listing has each row once, and its names ascend strictly, character by character. -/
  lists : ∀ listed, s.list = .ok listed →
    listed.Perm s.table.rows ∧ listed.Pairwise fun r r' ↦ r.username < r'.username
  /-- There is one unless the database cannot be used. -/
  fails : ∀ failure, s.list = .error failure →
    ∃ fault, s.accounts.connect s.machine.disk = .error fault ∧ failure = .database fault
  /-- Whatever happens next, a row is of an account that was there, or it is new and has the number
  after the largest, or one where there is none. -/
  next : ∀ e : Event, e.Spares start → ∀ row ∈ (s.step e).table.rows,
    (∃ old ∈ s.table.rows, Table.SameAccount old row) ∨
      row.id = (s.table.rows.map (·.id)).max?.getD 0 + 1
  /-- A new name is given a row by either write, if the database can be used. -/
  added : ∀ (record : Record) (role : String), record.role = some role →
    (∀ row ∈ s.table.rows, row.username ≠ record.username) →
    (∃ found, s.accounts.connect s.machine.disk = .ok found) →
    ∀ w : Write, w = .create record ∨ w = .update record →
      (s.step (.use (.write w))).table.rows = s.table.rows ++
        [Table.rowOf record role ((s.table.rows.map (·.id)).max?.getD 0 + 1) s.machine.now.text]
  /-- And whatever happens from now on, a row keeps its number, its name and its time of creation
  until its account is ended. -/
  lasting : ∀ events : List Event, (∀ e ∈ events, e.Spares start) →
    ∀ row ∈ s.table.rows, (∀ e ∈ events, ¬ e.Ends start row.username) →
      ∃ row' ∈ (s.run events).table.rows, Table.SameAccount row row'

theorem Sound.orderly (h : Sound start s) : Orderly start s where
  -- each field is one lemma on sound sites
  names := h.wellFormed.names
  ids := h.wellFormed.ids.imp Nat.ne_of_lt
  positive := fun _ hr ↦ h.wellFormed.positive _ (List.mem_map_of_mem hr)
  complete := fun _ _ ↦ ⟨rfl, rfl, rfl⟩
  roleless := fun _ hrole _ hw ↦ h.table_use_of_no_role hrole hw
  lists := by
    intro listed answer
    rcases h.list with ⟨fault, -, refused⟩ | listing
    · exact absurd (refused.symm.trans answer) nofun
    · obtain rfl : s.table.sorted = listed := Except.ok.inj (listing.symm.trans answer)
      exact ⟨s.table.perm_sorted, h.wellFormed.pairwise_sorted⟩
  fails := by
    intro failure answer
    rcases h.list with ⟨fault, broken, refused⟩ | listing
    · exact ⟨fault, broken, Except.error.inj (answer.symm.trans refused)⟩
    · exact absurd (answer.symm.trans listing) nofun
  next := by
    intro e spared row hr
    rw [← Table.nextId_eq]
    exact (h.step spared).2.sameAccount_or_next hr
  added := by
    intro record role hrole fresh connected w hw
    rw [← Table.nextId_eq]
    exact h.rows_added hrole fresh connected hw
  lasting := fun _ spared _ hr lives ↦ h.lasts spared hr lives

/-- **Accounts last.** Open an account store over an empty table, and let anything happen to it that
spares its database: writes, logins and calls of realms that succeed or fail, closing and opening it
again, and changes of everything around it. Wherever that leads, names and numbers of the table are
pairwise distinct, a listing has every row once in strictly ascending order, a new row gets the
number after the largest, and a row keeps its number, its name and its time of creation until its
name is deleted (or, in memory, the database is closed). As long as the database stays in reach,
there is a listing. -/
theorem accounts_last {m : Machine} {url : String} {credentials : Credential.Store}
    (opened : open? m url credentials = .ok start) (empty : start.table = {}) {events : List Event}
    (spared : ∀ e ∈ events, e.Spares start) :
    Orderly start (start.run events) ∧
      ((∀ e ∈ events, e.KeepsInReach start) → ∃ listed, (start.run events).list = .ok listed) := by
  have sound := sound_of_open? opened empty
  refine ⟨(sound.run spared).orderly, fun kept ↦ ?_⟩
  obtain ⟨found, connected⟩ := ((inReach_of_open? opened).run sound kept).exists_connect
  rcases (sound.run spared).list with ⟨fault, broken, -⟩ | listing
  · exact absurd (connected.symm.trans broken) nofun
  · exact ⟨_, listing⟩

/-- Two accounts are created. Then the store is closed, the first account is deleted over a new
connection, the store is opened again, and the second fails to log in: it is still what it was. -/
theorem accounts_last_through_reopening :
    let credentials : Credential.Store := { path := ⟨"/", ["htpasswd"]⟩ }
    ∃ start, open? {} "sqlite:///users.db" credentials = .ok start ∧ start.table = {} ∧
      let s := start.run [.use (.write (.create { username := "ada" })),
        .use (.write (.create { username := "bob" }))]
      let more := [.close, .use (.write (.delete "ada")), .reopen,
        .around start.machine.disk.tree ⟨2024, 1, 2, 0, 0, 0, 0⟩ credentials,
        .use (.call {} (.authenticate "bob" "x"))]
      s.table.rows.map (fun row ↦ (row.username, row.id)) = [("ada", 1), ("bob", 2)] ∧
        (∃ row ∈ (s.run more).table.rows, row.username = "bob" ∧ row.id = 2) ∧
        ∃ listed, s.list = .ok listed ∧ listed.Perm s.table.rows := by
  intro credentials
  let url : StoreUrl := { dialect := "sqlite", database := some "users.db" }
  let created : Disk := (({} : Disk).newDatabaseAt ["users.db"]).1
  let start : Site :=
    ⟨{ disk := created }, "sqlite:///users.db", credentials, ⟨url, .file ["users.db"], some 0⟩, 0⟩
  have leads : ({} : Tree).walk true Tree.maxLinks [] ["users.db"] = .ok ["users.db"] := by
    have short : ¬ Tree.maxNameBytes < "users.db".utf8ByteSize := by decide
    have unlocked : ({} : Tree).obstacle? [] = none := by decide
    simp [Tree.walk, unlocked, Tree.get?, short]
  have found : ({} : Disk).openAt true (.file ["users.db"]) = .ok (created, 0) := by
    rw [Disk.openAt, leads]
    rfl
  have read : StoreUrl.ofText? "sqlite:///users.db" = some url := by decide
  have named : url.place ({} : Machine).drivers [] = .ok (.file ["users.db"]) := by decide
  -- the database is created at the path, with number 0
  have opened : open? {} "sqlite:///users.db" credentials = .ok start := by
    simp only [open?, Connection.openUrl, read, named, found]
    rfl
  have reaches : Disk.Reaches (.file ["users.db"]) created.tree 0 := Disk.reaches_of_openAt found
  refine ⟨start, opened, rfl, ?_⟩
  intro s more
  have spared : ∀ e ∈ [Event.use (.write (.create { username := "ada" })),
      .use (.write (.create { username := "bob" }))], e.KeepsInReach start := by
    simp [Event.KeepsInReach]
  obtain ⟨orderly, lists⟩ := accounts_last opened rfl fun e he ↦ (spared e he).spares
  obtain ⟨listed, listing⟩ := lists spared
  have rows : s.table.rows.map (fun row ↦ (row.username, row.id)) = [("ada", 1), ("bob", 2)] := by
    decide
  have second : ("bob", 2) ∈ s.table.rows.map fun row ↦ (row.username, row.id) := by
    rw [rows]
    exact .tail _ (.head _)
  obtain ⟨bob, hbob, bob'⟩ := List.mem_map.1 second
  obtain ⟨name, number⟩ := Prod.mk.inj bob'
  -- nothing of what follows touches the database or deletes `bob`
  have spared' : ∀ e ∈ more, e.Spares start := by
    simp [more, Event.Spares, start, reaches.leadsTo]
  have lives : ∀ e ∈ more, ¬ e.Ends start bob.username := by
    simp [more, name, Event.Ends, Event.deletes?, Use.deletes?, Write.deletes?, start]
  obtain ⟨row, hrow, same⟩ := orderly.lasting more spared' bob hbob lives
  exact ⟨rows, ⟨row, hrow, same.username.trans name, same.id.trans number⟩, listed, listing,
    (orderly.lists listed listing).1⟩

end Site

end AuthRealm
