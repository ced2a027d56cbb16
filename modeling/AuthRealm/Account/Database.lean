import AuthRealm.Failure

/-!
# Account databases

Where tables of accounts live. A disk is a file tree together with the tables of the databases in
it; a database file is a node that carries a number, and the number leads to the table. Tables stay
apart from the tree, so that no change of another file can touch one.

A connection opens its database on first use and holds it until it is closed. Opening fails if the
place cannot be reached, or its path is longer than a driver takes, or it holds something else or
what may not be read; a file that is absent or empty becomes a database, which has a table of
accounts only if it is opened in order to create one.
-/

namespace AuthRealm.Account

open Storage

/-- A file tree and the tables of its databases. -/
structure Disk where
  tree : Tree := {}
  tables : List (Nat × Table) := []
  nextNumber : Nat := 0
  deriving Repr

namespace Disk

/-- The table of a database. -/
def table (d : Disk) (number : Nat) : Table :=
  ((d.tables.find? fun t ↦ t.1 == number).map (·.2)).getD {}

/-- The disk with a table in place of that of a database. -/
def setTable (d : Disk) (number : Nat) (t : Table) : Disk :=
  { d with tables := (number, t) :: d.tables.filter fun e ↦ e.1 != number }

/-- The disk with a new, empty database that no file holds. -/
def newDatabase (d : Disk) : Disk × Nat :=
  ({ d with tables := (d.nextNumber, {}) :: d.tables, nextNumber := d.nextNumber + 1 },
    d.nextNumber)

/-- The disk with a new, empty database at a location. -/
def newDatabaseAt (d : Disk) (l : Location) : Disk × Nat :=
  let (d, number) := d.newDatabase
  ({ d with tree := d.tree.place l (.database number) }, number)

/-- The most bytes of the path of a database file, once links are followed: it has to leave room for
the names of the files that stand beside it. -/
def maxFileBytes : Nat := 504

/-- Opens the database at a place. With `creating` it is given a table if it has none. -/
def openAt (d : Disk) (creating : Bool) : StoreUrl.Place → Except DatabaseFault (Disk × Nat)
  | .memory => if creating then .ok d.newDatabase else .error .noTable
  | .file path =>
    match d.tree.walk true Tree.maxLinks [] path with
    | .error _ => .error .cannotOpen
    | .ok l =>
      if maxFileBytes < (Path.ofLocation l).text.utf8ByteSize then .error .cannotOpen
      else
        match d.tree.get? l with
        | none => if creating then .ok (d.newDatabaseAt l) else .error .noTable
        | some (.database number) => .ok (d, number)
        | some (.file [] _) => if creating then .ok (d.newDatabaseAt l) else .error .noTable
        | some (.file _ _) => .error .notDatabase
        | some _ => .error .cannotOpen

end Disk

/-- A store of accounts: its URL, the place of its database, and the database it is connected to. -/
structure Connection where
  url : StoreUrl
  place : StoreUrl.Place
  number : Option Nat := none
  deriving DecidableEq, Repr

namespace Connection

/-- How reports name a store. -/
def describe (c : Connection) : String :=
  "UserStore(" ++ Text.quoted c.url.text ++ ")"

/-- Why a store cannot be opened: its URL names no place, or the database fails. -/
inductive OpenError where
  | url (problem : StoreUrl.Problem)
  | database (fault : DatabaseFault)
  deriving DecidableEq, Repr

/-- Opens the store of a URL, with a table of accounts, for a program in a working directory, on a
machine with some drivers. -/
def openUrl (drivers : StoreUrl.Drivers) (d : Disk) (workDir : Location) (text : String) :
    Except OpenError (Disk × Connection) :=
  match StoreUrl.ofText? text with
  | none => .error (.url .unreadable)
  | some url =>
    match url.place drivers workDir with
    | .error problem => .error (.url problem)
    | .ok place =>
      match d.openAt true place with
      | .error fault => .error (.database fault)
      | .ok (d, number) => .ok (d, ⟨url, place, some number⟩)

/-- Connects a store that is not connected. -/
def connect (d : Disk) (c : Connection) : Except DatabaseFault (Disk × Connection × Nat) :=
  match c.number with
  | some number => .ok (d, c, number)
  | none =>
    match d.openAt false c.place with
    | .error fault => .error fault
    | .ok (d, number) => .ok (d, { c with number := some number }, number)

/-- Gives up the connection. The store connects again when it is next used. -/
def close (c : Connection) : Connection :=
  { c with number := none }

/-- Whether the database can be used now. -/
def isUsable (d : Disk) (c : Connection) : Bool :=
  match c.connect d with
  | .ok _ => true
  | .error .noTable => true
  | .error _ => false

end Connection

end AuthRealm.Account
