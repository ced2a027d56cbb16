import AuthRealm.Credential.Entries
import AuthRealm.Failure
import AuthRealm.Log

/-!
# The credential store

A store keeps what a credential file said when it was last read. Before it answers it can be
refreshed: the file is read again if its time differs from the one recorded at the last reading.

A refresh replaces entries and time together or leaves both alone. It reports which of four things
happened; a file that is missing or cannot be read is such a report, and keeps the entries. Only a
charset that is none, a text that its decoder refuses without pointing to a byte of it and a path
with a NUL end a refresh without a report.

An account database at the path is a limit of this model. To a reader it is a file with bytes and a
time like any other, but a tree holds neither of them: that it is never read, and always reported,
is what reading its binary bytes as a text comes to wherever they are malformed in the charset.
-/

namespace AuthRealm.Credential

open Storage Text

/-- What a refresh found. -/
inductive Status where
  | unchanged
  | reloaded
  | missing
  | failed (reason : String)
  deriving DecidableEq, Repr

/-- The name of what a refresh found. -/
def Status.name : Status → String
  | .unchanged => "unchanged"
  | .reloaded => "reloaded"
  | .missing => "missing"
  | .failed _ => "failed"

/-- The message of a file that could not be read. -/
def readErrorMessage (path reason : String) : String :=
  "Failed to read " ++ path ++ ": " ++ reason

/-- What a credential file said when it was last read. -/
structure Store where
  path : Path
  charset : Encoding := {}
  entries : Entries := {}
  modifiedAt : Option Int := none
  deriving Repr

/-- The report of a refresh: what it found, and how many entries there are now. -/
structure Report where
  status : Status
  size : Nat
  deriving DecidableEq, Repr

/-- A refresh: the store after it, its report or why there is none, and what it logged. -/
structure Refresh where
  store : Store
  result : Except Failure Report
  log : List LogRecord := []

namespace Store

/-- The time of a node, where it is known. -/
def timeOf : Node → Option Int
  | .file _ time => some time
  | .directory time => time
  | .lockedFile _ time => some time
  | .lockedDirectory _ time => time
  | .link _ => none
  | .database _ => none
  | .lockedDatabase _ => none

/-- The reason given for an account database. A tree does not hold its bytes, so the decoder's own
wording for them is not known here. -/
def binaryReason : String :=
  "the bytes of a database are no text"

/-- What reading bytes gives: the lines of the text that they spell, or why they spell none. -/
def readBytes (charset : Encoding) (bytes : List UInt8) :
    Except Failure (Except String (List (List Char))) :=
  match Charset.ofName charset.name with
  | .error e => .error (.charset e)
  | .ok cs =>
    match cs.decode charset.decoders bytes with
    | .ok text => .ok (.ok (lines text))
    | .error e => if e.isReport then .ok (.error e.message) else .error (.decoding e)

/-- What reading a node gives: the lines of its text, or why there is none. A directory that can be
opened is still none to read from. No path leads to a link. -/
def readLines (charset : Encoding) (path : String) :
    Node → Except Failure (Except String (List (List Char)))
  | .file bytes _ => readBytes charset bytes
  | .directory _ => .ok (.error (Fault.isDirectory.message path))
  | .lockedDirectory lock _ =>
    .ok (.error (Fault.message (if lock.stopsReading then .denied else .isDirectory) path))
  | .lockedFile _ _ => .ok (.error (Fault.denied.message path))
  | .lockedDatabase _ => .ok (.error (Fault.denied.message path))
  | .database _ => .ok (.error binaryReason)
  | .link _ => .ok (.error (Fault.tooManyLinks.message path))

/-- The refresh of a store whose file could not be read. -/
def failed (s : Store) (reason : String) : Refresh :=
  { store := s
    result := .ok ⟨.failed reason, s.entries.size⟩
    log := [.readFailed s.path.text reason s.entries.size] }

/-- The refresh of a store whose file was read. -/
def reloaded (s : Store) (time : Option Int) (ls : List (List Char)) : Refresh :=
  let entries := Entries.ofLines ls
  let skipped := Entries.malformedCount ls
  { store := { s with entries := entries, modifiedAt := time }
    result := .ok ⟨.reloaded, entries.size⟩
    log := (if skipped = 0 then [] else [.skippedLines skipped]) ++
      [.readFile entries.size s.path.text] }

/-- Reads the file again if its time is not the one recorded. -/
def refresh (tree : Tree) (s : Store) : Refresh :=
  if hasNul s.path.text then { store := s, result := .error (.path .embeddedNul) }
  else
    match tree.findNode s.path with
    | .error .missing => { store := s, result := .ok ⟨.missing, s.entries.size⟩ }
    | .error fault => s.failed (fault.message s.path.text)
    | .ok node =>
      if (timeOf node).isSome && timeOf node == s.modifiedAt then
        { store := s, result := .ok ⟨.unchanged, s.entries.size⟩ }
      else
        match readLines s.charset s.path.text node with
        | .error failure => { store := s, result := .error failure }
        | .ok (.error reason) => s.failed reason
        | .ok (.ok ls) => s.reloaded (timeOf node) ls

/-- The secret of a user name. -/
def secret? (s : Store) (username : String) : Option String :=
  s.entries.secret? username

/-- Whether a user name has an entry. -/
def lists (s : Store) (username : String) : Bool :=
  s.entries.contains username

end Store

end AuthRealm.Credential
