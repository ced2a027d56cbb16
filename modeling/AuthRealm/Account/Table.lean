import AuthRealm.Account.Record

/-!
# The table of accounts

Rows with distinct numbers and distinct user names, in the order in which they were added. A new row
has the number after the largest one, so numbers ascend along the table.

Every write is a whole new table or a `Refusal`; there is no half-done write. A write without a role
is refused before a write for a name that is taken. `upsert` is the write that the realm uses: it
adds a row or overwrites the one of the same name, and hands back the record with the number and the
creation time of its row.
-/

namespace AuthRealm.Account

/-- A constraint of the table that a write would break. -/
inductive Refusal where
  | roleMissing
  | usernameTaken
  deriving DecidableEq, Repr

/-- The wording of a refusal. -/
def Refusal.message : Refusal → String
  | .roleMissing => "NOT NULL constraint failed: users.role"
  | .usernameTaken => "UNIQUE constraint failed: users.username"

/-- The accounts of a store. -/
structure Table where
  rows : List Row := []
  deriving DecidableEq, Repr

namespace Table

/-- The row of a user name. -/
def find? (t : Table) (username : String) : Option Row :=
  t.rows.find? fun r ↦ r.username == username

/-- The first row, by number, of an active account with the given cookie. An empty cookie belongs
to nobody. -/
def findByCookie? (t : Table) (cookie : String) : Option Row :=
  if cookie = "" then none
  else t.rows.find? fun r ↦ r.cookie == some cookie && r.isActive

/-- The rows in ascending order of user names. -/
def sorted (t : Table) : List Row :=
  t.rows.mergeSort fun r s ↦ decide (r.username ≤ s.username)

/-- Whether the store itself checks the password of a user name. An unknown name is not local. -/
def isLocal (t : Table) (username : String) : Bool :=
  match t.find? username with
  | some r => r.isLocal
  | none => false

/-- The number of the next row. -/
def nextId (t : Table) : Nat :=
  t.rows.foldl (fun n r ↦ max n r.id) 0 + 1

/-- The row that a record becomes. -/
def rowOf (record : Record) (role : String) (id : Nat) (createdAt : String) : Row :=
  { record.toProfile with id := id, role := role, createdAt := createdAt }

/-- Adds a row for a record, created at `now`; gives the number of the row too. -/
def create (t : Table) (now : String) (record : Record) : Except Refusal (Table × Nat) :=
  match record.role with
  | none => .error .roleMissing
  | some role =>
    if (t.find? record.username).isSome then .error .usernameTaken
    else .ok (⟨t.rows ++ [rowOf record role t.nextId now]⟩, t.nextId)

/-- Overwrites the row with a number. -/
def overwrite (t : Table) (row : Row) : Table :=
  ⟨t.rows.map fun r ↦ if r.id = row.id then row else r⟩

/-- Adds a record or overwrites the row of the same user name. Gives the record with the number and
creation time of its row. -/
def upsert (t : Table) (now : String) (record : Record) : Except Refusal (Table × Record) :=
  match record.role with
  | none => .error .roleMissing
  | some role =>
    let row :=
      match t.find? record.username with
      | none => rowOf record role t.nextId now
      | some old => rowOf record role old.id old.createdAt
    let written := { record with id := some row.id, createdAt := some row.createdAt }
    match t.find? record.username with
    | none => .ok (⟨t.rows ++ [row]⟩, written)
    | some _ => .ok (t.overwrite row, written)

/-- Removes the row of a user name; tells whether there was one. -/
def delete (t : Table) (username : String) : Table × Bool :=
  (⟨t.rows.filter fun r ↦ r.username != username⟩, (t.find? username).isSome)

/-- Notes a login of a user name at `now`. -/
def stampLogin (t : Table) (now username : String) : Table :=
  ⟨t.rows.map fun r ↦ if r.username = username then { r with lastLogin := some now } else r⟩

end Table

end AuthRealm.Account
