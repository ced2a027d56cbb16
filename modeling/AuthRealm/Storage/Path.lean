import AuthRealm.Text.Fields

/-!
# Paths

A path as it is written: a root, which may be absent, and a list of names. Reading a path drops
empty names and single dots but keeps double dots, since what those mean depends on links. A path
that starts with exactly two slashes keeps both.

A `Location` is a place in a file tree: the names from the root, none of them a dot or a double dot.
-/

namespace AuthRealm.Storage

open Text

/-- A place in a file tree, by the names from the root. -/
abbrev Location := List String

/-- A path as it is written. -/
structure Path where
  root : String := ""
  names : List String := []
  deriving DecidableEq, Repr

namespace Path

/-- The names between the slashes of a text, without empty ones and single dots. -/
def namesOf (s : List Char) : List String :=
  ((fields '/' s).filter fun n ↦ !n.isEmpty && n != ['.']).map String.ofList

/-- The slashes that a path keeps in front. -/
def rootOf (s : List Char) : String :=
  match s with
  | ['/', '/'] => "//"
  | '/' :: '/' :: '/' :: _ => "/"
  | '/' :: '/' :: _ => "//"
  | '/' :: _ => "/"
  | _ => ""

/-- Reads a path. -/
def ofText (s : String) : Path :=
  ⟨rootOf s.toList, namesOf s.toList⟩

/-- Whether a path starts at the root of the tree. -/
def isAbsolute (p : Path) : Bool :=
  p.root != ""

/-- The text of a path; a path with nothing in it is a dot. -/
def text (p : Path) : String :=
  if p.root == "" && p.names.isEmpty then "."
  else p.root ++ String.intercalate "/" p.names

/-- The path of a location. -/
def ofLocation (l : Location) : Path :=
  ⟨"/", l⟩

/-- The path without its last name. -/
def parent (p : Path) : Path :=
  { p with names := p.names.dropLast }

/-- A path read from the directory `base`. -/
def within (base : Location) (p : Path) : Path :=
  if p.isAbsolute then p else ⟨"/", base ++ p.names⟩

end Path

/-- The names of a location after one more name, where a dot stays and a double dot goes up. -/
def Location.step (l : Location) (name : String) : Location :=
  if name = "." || name = "" then l
  else if name = ".." then l.dropLast
  else l ++ [name]

/-- The location that names lead to if no link is followed. -/
def Location.normal (start : Location) (names : List String) : Location :=
  names.foldl Location.step start

end AuthRealm.Storage
