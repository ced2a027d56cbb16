import AuthRealm.Storage.Path
import AuthRealm.Text.Quoted

/-!
# File trees

A file tree as a value: files with their bytes, directories, symbolic links and account databases,
each at a `Location`. The root is always a directory that is open to all.

What permissions keep from the program is part of the tree. A file or a database may be locked, and
then cannot be opened; a directory may be locked against reading its list of names, against looking
a name up in it, or both. What keeps the program from writing is not: there is nothing here that can
be read and not be written.

`find` follows a path the way an operating system does: each link is followed where it occurs, a
double dot goes up from where the link led, at most forty links are followed, nothing is looked up
in a directory that is locked against it, and every way to fail is a `Fault`. `resolve` is the other
reading of a path, in which names that do not exist are kept; it answers with the location that the
path would have. It follows each link once, so it ends on any tree, and says when a link led back to
itself. It looks every link up by where it stands, so a link too deep for that, or behind a locked
directory, is taken for a name like any other.
-/

namespace AuthRealm.Storage

open Text

/-- What the permissions of a directory keep from the program: reading its list of names, searching
it for a name, or both. -/
inductive Lock where
  | reading
  | searching
  | both
  deriving DecidableEq, Repr

/-- Whether nothing can be looked up in a directory with a lock. -/
def Lock.stopsSearch : Lock → Bool
  | .reading => false
  | .searching => true
  | .both => true

/-- Whether the names in a directory with a lock cannot be listed. -/
def Lock.stopsReading : Lock → Bool
  | .reading => true
  | .searching => false
  | .both => true

/-- What stands at a location. A time is in nanoseconds. The time of a directory is known until one
of its entries comes or goes. A database is known by a number that no other database ever has. -/
inductive Node where
  | file (bytes : List UInt8) (time : Int)
  | directory (time : Option Int)
  | link (target : String)
  | database (number : Nat)
  | lockedFile (bytes : List UInt8) (time : Int)
  | lockedDirectory (lock : Lock) (time : Option Int)
  | lockedDatabase (number : Nat)
  deriving DecidableEq, Repr

namespace Node

/-- Whether a node is a directory, locked or not. -/
def isDirectory : Node → Bool
  | .directory _ => true
  | .lockedDirectory _ _ => true
  | _ => false

/-- Whether a node is a file, locked or not. A database is one. -/
def isFile : Node → Bool
  | .file _ _ => true
  | .database _ => true
  | .lockedFile _ _ => true
  | .lockedDatabase _ => true
  | _ => false

/-- The node with other bytes written to it at a time; a lock stays. -/
def written (n : Option Node) (bytes : List UInt8) (time : Int) : Node :=
  match n with
  | some (.lockedFile _ _) => .lockedFile bytes time
  | some (.lockedDatabase _) => .lockedFile bytes time
  | _ => .file bytes time

/-- The node with another time, where it has one. -/
def withTime (time : Option Int) : Node → Node
  | .file bytes old => .file bytes (time.getD old)
  | .lockedFile bytes old => .lockedFile bytes (time.getD old)
  | .directory _ => .directory time
  | .lockedDirectory lock _ => .lockedDirectory lock time
  | n => n

/-- The node with other permissions: whether it can be read, and, for a directory, searched. -/
def permitting (readable searchable : Bool) : Node → Node
  | .file bytes time | .lockedFile bytes time =>
    if readable then .file bytes time else .lockedFile bytes time
  | .database number | .lockedDatabase number =>
    if readable then .database number else .lockedDatabase number
  | .directory time | .lockedDirectory _ time =>
    match readable, searchable with
    | true, true => .directory time
    | true, false => .lockedDirectory .searching time
    | false, true => .lockedDirectory .reading time
    | false, false => .lockedDirectory .both time
  | .link target => .link target

end Node

/-- Why an operation on the tree fails. -/
inductive Fault where
  | missing
  | denied
  | exists
  | notDirectory
  | isDirectory
  | nameTooLong
  | tooManyLinks
  deriving DecidableEq, Repr

namespace Fault

/-- The number of a fault. -/
def number : Fault → Nat
  | .missing => 2
  | .denied => 13
  | .exists => 17
  | .notDirectory => 20
  | .isDirectory => 21
  | .nameTooLong => 36
  | .tooManyLinks => 40

/-- The wording of a fault. -/
def text : Fault → String
  | .missing => "No such file or directory"
  | .denied => "Permission denied"
  | .exists => "File exists"
  | .notDirectory => "Not a directory"
  | .isDirectory => "Is a directory"
  | .nameTooLong => "File name too long"
  | .tooManyLinks => "Too many levels of symbolic links"

/-- Whether a fault means that a path names nothing, to whoever only asks if it does. -/
def meansAbsent : Fault → Bool
  | .missing => true
  | .notDirectory => true
  | .tooManyLinks => true
  | _ => false

/-- The message of a fault on a path. -/
def message (f : Fault) (path : String) : String :=
  "[Errno " ++ toString f.number ++ "] " ++ f.text ++ ": " ++ quoted path

end Fault

/-- A file tree: what stands at each location below the root. -/
structure Tree where
  nodes : List (Location × Node) := []
  deriving Repr

namespace Tree

/-- What stands at a location. -/
def get? (t : Tree) (l : Location) : Option Node :=
  if l = [] then some (.directory none)
  else (t.nodes.find? fun e ↦ e.1 == l).map (·.2)

/-- The tree with a node at a location, in place of what stood there. -/
def put (t : Tree) (l : Location) (n : Node) : Tree :=
  ⟨(l, n) :: t.nodes.filter fun e ↦ e.1 != l⟩

/-- The tree without what stands at a location and below it. -/
def erase (t : Tree) (l : Location) : Tree :=
  ⟨t.nodes.filter fun e ↦ !l.isPrefixOf e.1⟩

/-! ### Finding what a path names -/

/-- The most bytes of a name and of a path. -/
def maxNameBytes : Nat := 255
def maxPathBytes : Nat := 4095

/-- The most links that are followed on one path. -/
def maxLinks : Nat := 40

/-- Whether a location is a directory. -/
def isDirectoryAt (t : Tree) (l : Location) : Bool :=
  (t.get? l).any Node.isDirectory

/-- Whether nothing can be looked up in what stands at a location. -/
def isSealedAt (t : Tree) (l : Location) : Bool :=
  match t.get? l with
  | some (.lockedDirectory lock _) => lock.stopsSearch
  | _ => false

/-- Why no name can be looked up at a location, if there is a reason. -/
def obstacle? (t : Tree) (l : Location) : Option Fault :=
  if !t.isDirectoryAt l then some .notDirectory
  else if t.isSealedAt l then some .denied
  else none

/-- Where names lead from a location, following links. The names are read as the operating system
reads them: whatever has a name behind it has to be a directory that can be searched. With
`creating` the last name need not exist; the location is then where it would come to be. -/
def walk (t : Tree) (creating : Bool) (links : Nat) (at' : Location) :
    List String → Except Fault Location
  | [] => .ok at'
  | name :: rest =>
    match t.obstacle? at' with
    | some fault => .error fault
    | none =>
      if name = "." || name = "" then walk t creating links at' rest
      else if name = ".." then walk t creating links at'.dropLast rest
      else if maxNameBytes < name.utf8ByteSize then .error .nameTooLong
      else
        match t.get? (at' ++ [name]) with
        | none => if creating && rest.isEmpty then .ok (at' ++ [name]) else .error .missing
        | some (.link target) =>
          match links with
          | 0 => .error .tooManyLinks
          | links + 1 =>
            let path := Path.ofText target
            walk t creating links (if path.isAbsolute then [] else at') (path.names ++ rest)
        | some _ => walk t creating links (at' ++ [name]) rest
  termination_by names => (links, names.length)

/-- Where an absolute path leads, following links. -/
def find (t : Tree) (p : Path) : Except Fault Location :=
  if maxPathBytes < p.text.utf8ByteSize then .error .nameTooLong
  else t.walk false maxLinks [] p.names

/-- What an absolute path names. -/
def findNode (t : Tree) (p : Path) : Except Fault Node :=
  match t.find p with
  | .error f => .error f
  | .ok l =>
    match t.get? l with
    | some n => .ok n
    | none => .error .missing

/-- Whether what an absolute path names passes a test. A fault that does not mean that it names
nothing is passed on. -/
def namesWhere (t : Tree) (test : Node → Bool) (p : Path) : Except Fault Bool :=
  match t.findNode p with
  | .ok n => .ok (test n)
  | .error f => if f.meansAbsent then .ok false else .error f

/-- Whether an absolute path names a directory. -/
def isDirectory (t : Tree) (p : Path) : Except Fault Bool :=
  t.namesWhere Node.isDirectory p

/-- Whether an absolute path names a file. -/
def isFile (t : Tree) (p : Path) : Except Fault Bool :=
  t.namesWhere Node.isFile p

/-- Whether an absolute path names a directory that can be both read and searched. -/
def isOpenDirectory (t : Tree) (p : Path) : Bool :=
  match t.findNode p with
  | .ok (.directory _) => true
  | _ => false

/-! ### Resolving a path that need not exist -/

/-- What remains to be read of a path while it is resolved: a name, or the end of the target of the
link at a location. -/
inductive Pending where
  | name (n : String)
  | endOfLink (l : Location)

/-- The names among what remains. -/
def Pending.names : List Pending → List String
  | [] => []
  | .name n :: r => n :: Pending.names r
  | .endOfLink _ :: r => Pending.names r

/-- The outcome of resolving: a location, and whether a link led back to itself on the way. -/
structure Resolved where
  location : Location
  looped : Bool

/-- Whether a directory above a location keeps it from being looked up. -/
def hides (t : Tree) (l : Location) : Bool :=
  (List.range l.length).any fun n ↦ t.isSealedAt (l.take n)

/-- What a look at a location shows. A path that is too long to look up shows nothing, and so does
one behind a directory that cannot be searched. -/
def look? (t : Tree) (l : Location) : Option Node :=
  if maxPathBytes < (Path.ofLocation l).text.utf8ByteSize || t.hides l then none else t.get? l

/-- What a look shows stands there. -/
theorem get?_of_look? {t : Tree} {l : Location} {n : Node} (h : t.look? l = some n) :
    t.get? l = some n := by
  unfold look? at h
  split at h
  · exact absurd h nofun
  · exact h

/-- Resolves what remains from a location. `seen` maps the links met so far to where they led, or
to nothing while their target is being read. A link that is met again before its end leads back to
itself: the rest is then taken without following any link. The fuel is a bound on the steps. -/
def resolveFrom (t : Tree) : Nat → List (Location × Option Location) → Location → List Pending →
    Resolved
  | 0, _, at', rest => ⟨Location.normal at' (Pending.names rest), true⟩
  | _ + 1, _, at', [] => ⟨at', false⟩
  | fuel + 1, seen, at', .endOfLink l :: rest => resolveFrom t fuel ((l, some at') :: seen) at' rest
  | fuel + 1, seen, at', .name n :: rest =>
    let next := Location.step at' n
    if n = "" || n = "." || n = ".." then resolveFrom t fuel seen next rest
    else
      match t.look? next with
      | some (.link target) =>
        match (seen.find? fun e ↦ e.1 == next).map (·.2) with
        | some (some done) => resolveFrom t fuel seen done rest
        | some none => ⟨Location.normal next (Pending.names rest), true⟩
        | none =>
          let path := Path.ofText target
          resolveFrom t fuel ((next, none) :: seen) (if path.isAbsolute then [] else at')
            (path.names.map .name ++ .endOfLink next :: rest)
      | _ => resolveFrom t fuel seen next rest

/-- A bound on the steps of resolving `names`: each name, and each link's target once. -/
def resolveFuel (t : Tree) (names : List String) : Nat :=
  t.nodes.foldl (fun n e ↦
    match e.2 with
    | .link target => n + (Path.ofText target).names.length + 2
    | _ => n) (names.length + 1)

/-- The location that an absolute path would have. -/
def resolve (t : Tree) (p : Path) : Resolved :=
  t.resolveFrom (t.resolveFuel p.names) [] [] (p.names.map .name)

/-! ### Changing the tree -/

/-- The parent directory of a location has lost or gained an entry. -/
def touchParent (t : Tree) (l : Location) : Tree :=
  match l with
  | [] => t
  | _ =>
    match l.dropLast with
    | [] => t
    | parent =>
      match t.get? parent with
      | some n => if n.isDirectory then t.put parent (n.withTime none) else t
      | none => t

/-- Adds or replaces a node, and tells the parent directory if the node is new. -/
def place (t : Tree) (l : Location) (n : Node) : Tree :=
  if (t.get? l).isSome then t.put l n else (t.put l n).touchParent l

/-- Changes what stands at a location, if anything does. The root stays as it is. -/
def change (t : Tree) (l : Location) (f : Node → Node) : Tree :=
  match l, t.get? l with
  | _ :: _, some n => t.put l (f n)
  | _, _ => t

/-- Creates the directories along a path that do not exist. -/
def makeDirectories (t : Tree) (time : Option Int) (done : List String) :
    List String → Except Fault Tree
  | [] => .ok t
  | name :: rest =>
    match t.walk true maxLinks [] (done ++ [name]) with
    | .error f => .error f
    | .ok l =>
      match t.get? l with
      | some n =>
        if n.isDirectory then makeDirectories t time (done ++ [name]) rest
        else .error (if rest.isEmpty then .exists else .notDirectory)
      | none => makeDirectories (t.place l (.directory time)) time (done ++ [name]) rest

/-- Writes a file at an absolute path, with the directories that lead to it. -/
def writeFile (t : Tree) (p : Path) (bytes : List UInt8) (time : Int) : Except Fault Tree :=
  match t.makeDirectories none [] p.names.dropLast with
  | .error f => .error f
  | .ok t =>
    match t.walk true maxLinks [] p.names with
    | .error f => .error f
    | .ok l =>
      if t.isDirectoryAt l then .error .isDirectory
      else .ok (t.place l (.written (t.get? l) bytes time))

/-- Creates a directory at an absolute path, with those that lead to it, and sets its time. -/
def makeDirectory (t : Tree) (p : Path) (time : Int) : Except Fault Tree :=
  match t.makeDirectories none [] p.names with
  | .error f => .error f
  | .ok t =>
    match t.walk false maxLinks [] p.names with
    | .error f => .error f
    | .ok l => .ok (t.change l (.withTime (some time)))

/-- Sets the time of what an absolute path names, if it names anything. -/
def setTime (t : Tree) (p : Path) (time : Int) : Tree :=
  match t.walk false maxLinks [] p.names with
  | .error _ => t
  | .ok l => t.change l (.withTime (some time))

/-- Sets the permissions of what an absolute path names. Those of the root stay. -/
def permit (t : Tree) (p : Path) (readable searchable : Bool) : Except Fault Tree :=
  match t.walk false maxLinks [] p.names with
  | .error f => .error f
  | .ok l => .ok (t.change l (.permitting readable searchable))

/-- Where an absolute path leads if its last name is not followed. -/
def entryOf (t : Tree) (p : Path) : Except Fault Location :=
  match p.names.getLast? with
  | none => .ok []
  | some name =>
    match t.walk false maxLinks [] p.names.dropLast with
    | .error f => .error f
    | .ok parent =>
      match t.obstacle? parent with
      | some fault => .error fault
      | none => .ok (Location.step parent name)

/-- Removes a file, a link or a whole directory, if there is one. -/
def remove (t : Tree) (p : Path) : Tree :=
  match t.entryOf p with
  | .error _ => t
  | .ok [] => t
  | .ok l => if (t.get? l).isSome then (t.erase l).touchParent l else t

/-- Creates a symbolic link at an absolute path. -/
def makeLink (t : Tree) (p : Path) (target : String) : Except Fault Tree :=
  match t.makeDirectories none [] p.names.dropLast with
  | .error f => .error f
  | .ok t =>
    match t.entryOf p with
    | .error f => .error f
    | .ok l => if (t.get? l).isSome then .error .exists else .ok (t.place l (.link target))

end Tree

end AuthRealm.Storage
