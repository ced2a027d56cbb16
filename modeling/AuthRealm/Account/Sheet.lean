import AuthRealm.Account.Table

/-!
# Sheets

A table as its database keeps it, in columns that hold a text, a number or nothing: the kind of an
account is a text there, and whether it is active is a number. A record is written column by column
(`Columns.ofRecord`) and a line is read back column by column (`Line.record?`).

The writes of an account store are made of three statements, which look up a line, insert one or
overwrite one. A caller hands in a record and keeps it. A write that has been done has filled in its
number and its creation time; a write that is refused ends before that. So what a write leaves is a
sheet and a record (`Held`).
-/

namespace AuthRealm.Account

/-- The columns that a record is written to. -/
structure Columns where
  username : String
  hashedPassword : Option String
  cookie : Option String
  kind : String
  displayName : Option String
  email : Option String
  role : Option String
  lastLogin : Option String
  isActive : Int
  deriving DecidableEq, Repr

/-- A record, column by column. -/
def Columns.ofRecord (r : Record) : Columns where
  username := r.username
  hashedPassword := r.hashedPassword
  cookie := r.cookie
  kind := r.kind.text
  displayName := r.displayName
  email := r.email
  role := r.role
  lastLogin := r.lastLogin
  isActive := if r.isActive then 1 else 0

/-- A line of a sheet: the columns of a record, its number and its creation time. -/
structure Line extends Columns where
  id : Nat
  createdAt : String
  deriving DecidableEq, Repr

/-- The record of a line, if its kind is the text of one. -/
def Line.record? (l : Line) : Option Record :=
  (Kind.ofText? l.kind).map fun kind ↦
    { username := l.username
      hashedPassword := l.hashedPassword
      cookie := l.cookie
      kind := kind
      displayName := l.displayName
      email := l.email
      lastLogin := l.lastLogin
      isActive := l.isActive != 0
      id := some l.id
      role := l.role
      createdAt := some l.createdAt }

/-- The lines of a database. -/
structure Sheet where
  lines : List Line := []
  deriving DecidableEq, Repr

namespace Sheet

/-- The line of a user name. -/
def select? (s : Sheet) (username : String) : Option Line :=
  s.lines.find? fun l ↦ l.username == username

/-- The number of the next line. -/
def nextId (s : Sheet) : Nat :=
  (s.lines.map (·.id)).max?.getD 0 + 1

/-- Inserts a line, created at `now`; gives its number. A line needs a role, and a user name that no
line has. -/
def insert (s : Sheet) (now : String) (columns : Columns) : Except Refusal (Sheet × Nat) :=
  if columns.role.isNone then .error .roleMissing
  else if s.lines.any fun l ↦ l.username == columns.username then .error .usernameTaken
  else .ok (⟨s.lines ++ [{ columns with id := s.nextId, createdAt := now }]⟩, s.nextId)

/-- Overwrites the lines with a number; tells how many there are. If there is one, it needs a role,
and a user name that no other line has. -/
def overwrite (s : Sheet) (id : Nat) (columns : Columns) : Except Refusal (Sheet × Nat) :=
  let count := s.lines.countP fun l ↦ l.id == id
  if count = 0 then .ok (s, 0)
  else if columns.role.isNone then .error .roleMissing
  else if s.lines.any fun l ↦ l.id != id && l.username == columns.username then
    .error .usernameTaken
  else
    .ok (⟨s.lines.map fun l ↦
      if l.id = id then { columns with id := l.id, createdAt := l.createdAt } else l⟩, count)

end Sheet

/-- A sheet, and the record that a caller keeps. -/
structure Held where
  sheet : Sheet
  record : Record
  deriving DecidableEq, Repr

namespace Held

/-- How a write ends, and what it leaves. -/
structure Ending (α : Type) where
  result : Except Refusal α
  after : Held

/-- The caller's record with its number and creation time filled in. -/
def filled (h : Held) (sheet : Sheet) (id : Nat) (createdAt : String) : Held :=
  ⟨sheet, { h.record with id := some id, createdAt := some createdAt }⟩

/-- Adds the record; gives its number. Nothing is filled in. -/
def create (h : Held) (now : String) : Ending Nat :=
  match h.sheet.insert now (.ofRecord h.record) with
  | .error refusal => ⟨.error refusal, h⟩
  | .ok (sheet, id) => ⟨.ok id, { h with sheet := sheet }⟩

/-- Adds the record or overwrites the line of its user name; tells whether a line was written. -/
def upsert (h : Held) (now : String) : Ending Bool :=
  match h.sheet.select? h.record.username with
  | none =>
    match h.sheet.insert now (.ofRecord h.record) with
    | .error refusal => ⟨.error refusal, h⟩
    | .ok (sheet, id) => ⟨.ok true, h.filled sheet id now⟩
  | some line =>
    match h.sheet.overwrite line.id (.ofRecord h.record) with
    | .error refusal => ⟨.error refusal, h⟩
    | .ok (sheet, count) => ⟨.ok (0 < count), h.filled sheet line.id line.createdAt⟩

/-- Adds or overwrites. What is refused is tried once more, for the case that someone else has just
added the name. -/
def update (h : Held) (now : String) : Ending Bool :=
  let first := h.upsert now
  match first.result with
  | .ok _ => first
  | .error _ => first.after.upsert now

end Held

end AuthRealm.Account
