import AuthRealm.Account.Database
import AuthRealm.Proofs.Storage.Walk

/-!
# Coming back to a database

A store that is opened again has to find the database that it had. For a database in a file that is
so as long as nobody takes the file away: `LeadsTo` says of a tree that whoever follows a path finds
that database, or is stopped on the way. Then **opening the place changes nothing and gives that
database** (`openAt_of_leadsTo`). A place that has just been opened reaches the database that was
opened (`reaches_of_openAt`), also where it was created then.

A database in memory is gone with its connection. Opening it again gives a new one, which is empty.
-/

namespace AuthRealm.Account

open Storage

namespace Disk

variable {d d' : Disk} {creating : Bool} {place : StoreUrl.Place} {number : Nat}

/-! ### Tables -/

@[simp] theorem table_setTable (d : Disk) (number : Nat) (t : Table) :
    (d.setTable number t).table number = t := by
  simp [table, setTable]

theorem table_setTable_of_ne {other : Nat} (d : Disk) (t : Table) (h : other ≠ number) :
    (d.setTable number t).table other = d.table other := by
  rw [table, setTable, List.find?_cons_of_neg (by simpa using Ne.symm h),
    find?_filter_of_ne h, table]

/-- A table that is put in its own place changes no table. -/
theorem table_setTable_self (d : Disk) (number other : Nat) :
    (d.setTable number (d.table number)).table other = d.table other := by
  by_cases same : other = number
  · rw [same, table_setTable]
  · exact table_setTable_of_ne d _ same

theorem table_newDatabase (d : Disk) : d.newDatabase.1.table d.newDatabase.2 = {} := by
  simp [table, newDatabase]

/-! ### Opening -/

/-- A database can be created at a location: nothing stands there, or an empty file. -/
def IsVacant (tree : Tree) (l : Location) : Prop :=
  tree.get? l = none ∨ ∃ time, tree.get? l = some (.file [] time)

/-- The path of a location is one that a driver opens. -/
def HasRoom (l : Location) : Prop :=
  (Path.ofLocation l).text.utf8ByteSize ≤ maxFileBytes

/-- **Everything that opening a place can come to.** -/
inductive Opens (d : Disk) (creating : Bool) : StoreUrl.Place → Disk → Nat → Prop where
  /-- A new database in memory. -/
  | memory (allowed : creating = true) : Opens d creating .memory d.newDatabase.1 d.newDatabase.2
  /-- The database of a file. -/
  | found {path : List String} {l : Location} {number : Nat}
      (leads : d.tree.walk true Tree.maxLinks [] path = .ok l) (room : HasRoom l)
      (stands : d.tree.get? l = some (.database number)) :
      Opens d creating (.file path) d number
  /-- A new database in a file. -/
  | created {path : List String} {l : Location} (allowed : creating = true)
      (leads : d.tree.walk true Tree.maxLinks [] path = .ok l) (room : HasRoom l)
      (vacant : IsVacant d.tree l) :
      Opens d creating (.file path) (d.newDatabaseAt l).1 (d.newDatabaseAt l).2

theorem opens_of_openAt (h : d.openAt creating place = .ok (d', number)) :
    Opens d creating place d' number := by
  cases place with
  | memory =>
    cases creating with
    | false => exact absurd h nofun
    | true =>
      obtain ⟨rfl, rfl⟩ := Prod.mk.inj (Except.ok.inj h)
      exact .memory rfl
  | file path =>
    -- in the order of `openAt`: where the path leads, whether there is room, what stands there
    rw [openAt] at h
    split at h
    · exact absurd h nofun
    · rename_i l leads
      split at h
      · exact absurd h nofun
      · rename_i short
        have room : HasRoom l := Nat.not_lt.1 short
        split at h
        · rename_i absent
          split at h
          · rename_i allowed
            obtain ⟨rfl, rfl⟩ := Prod.mk.inj (Except.ok.inj h)
            exact .created allowed leads room (.inl absent)
          · exact absurd h nofun
        · rename_i n stands
          obtain ⟨rfl, rfl⟩ := Prod.mk.inj (Except.ok.inj h)
          exact .found leads room stands
        · rename_i time empty
          split at h
          · rename_i allowed
            obtain ⟨rfl, rfl⟩ := Prod.mk.inj (Except.ok.inj h)
            exact .created allowed leads room (.inr ⟨time, empty⟩)
          · exact absurd h nofun
        · exact absurd h nofun
        · exact absurd h nofun

/-- Opening a database that need not be created creates nothing. -/
theorem eq_of_openAt (h : d.openAt false place = .ok (d', number)) : d' = d := by
  cases opens_of_openAt h with
  | memory allowed => cases allowed
  | found => rfl
  | created allowed => cases allowed

/-! ### Coming back -/

/-- The database of a place is in reach: it stands where the place leads, under a path that a driver
opens. No tree is in the way of memory. -/
def Reaches (place : StoreUrl.Place) (tree : Tree) (number : Nat) : Prop :=
  match place with
  | .memory => True
  | .file path => ∃ l, tree.walk true Tree.maxLinks [] path = .ok l ∧ HasRoom l ∧
      tree.get? l = some (.database number)

/-- **A place leads to a database**: whoever follows it in a tree finds that database, or is
stopped; no other stands there, and none can be created. Nothing leads to memory or away from it. -/
def LeadsTo (place : StoreUrl.Place) (tree : Tree) (number : Nat) : Prop :=
  match place with
  | .memory => True
  | .file path => ∀ l, tree.walk true Tree.maxLinks [] path = .ok l →
      ¬ IsVacant tree l ∧ ∀ other, tree.get? l = some (.database other) → other = number

theorem Reaches.leadsTo {tree : Tree} (h : Reaches place tree number) :
    LeadsTo place tree number := by
  cases place with
  | memory => exact trivial
  | file path =>
    obtain ⟨l, leads, -, stands⟩ := h
    intro l' leads'
    obtain rfl : l = l' := Except.ok.inj (leads.symm.trans leads')
    rw [IsVacant, stands]
    exact ⟨by simp, fun other same ↦ (Node.database.inj (Option.some.inj same)).symm⟩

/-- A place that has been opened reaches the database that was opened. -/
theorem reaches_of_openAt (h : d.openAt creating place = .ok (d', number)) :
    Reaches place d'.tree number := by
  cases opens_of_openAt h with
  | memory allowed => exact trivial
  | found leads room stands => exact ⟨_, leads, room, stands⟩
  | created allowed leads room vacant =>
    have ends : d.tree.IsEnd _ := vacant.imp_right fun ⟨time, empty⟩ ↦ ⟨[], time, empty⟩
    obtain ⟨leads', stands⟩ := Tree.walk_place d.nextNumber ends leads
    exact ⟨_, leads', room, stands⟩

/-- A place in a file that reaches its database can be opened. -/
theorem openAt_of_reaches {path : List String} (h : Reaches (.file path) d.tree number) :
    d.openAt creating (.file path) = .ok (d, number) := by
  obtain ⟨l, leads, room, stands⟩ := h
  rw [openAt, leads]
  simp only [if_neg (Nat.not_lt.2 room), stands]

/-- Opening a place in a file again changes nothing and gives the same database. -/
theorem openAt_of_leadsTo {path : List String} (leads : LeadsTo (.file path) d.tree number)
    {other : Nat} (h : d.openAt creating (.file path) = .ok (d', other)) :
    d' = d ∧ other = number := by
  cases opens_of_openAt h with
  | found walked room stands => exact ⟨rfl, (leads _ walked).2 _ stands⟩
  | created allowed walked room vacant => exact absurd vacant (leads _ walked).1

/-- A database that is opened in memory is empty. -/
theorem table_of_openAt_memory (h : d.openAt creating .memory = .ok (d', number)) :
    d'.table number = {} := by
  cases opens_of_openAt h with
  | memory allowed => exact d.table_newDatabase

end Disk

namespace Connection

/-! ### Connecting -/

/-- The store of a URL is opened at the place that the URL names. -/
theorem openUrl_eq_ok {drivers : StoreUrl.Drivers} {d d' : Disk} {workDir : Location}
    {text : String} {c : Connection} (h : openUrl drivers d workDir text = .ok (d', c)) :
    ∃ url place number, StoreUrl.ofText? text = some url ∧ url.place drivers workDir = .ok place ∧
      d.openAt true place = .ok (d', number) ∧ c = ⟨url, place, some number⟩ := by
  rw [openUrl] at h
  split at h
  · exact absurd h nofun
  · rename_i url read
    split at h
    · exact absurd h nofun
    · rename_i place named
      split at h
      · exact absurd h nofun
      · rename_i disk number opened
        obtain ⟨rfl, rfl⟩ := Prod.mk.inj (Except.ok.inj h)
        exact ⟨url, place, number, read, named, opened, rfl⟩

end Connection

end AuthRealm.Account
