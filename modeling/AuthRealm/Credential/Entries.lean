import AuthRealm.Credential.Line
import AuthRealm.Text.LineEnding

/-!
# Entries

What a credential file says: a secret for each of its user names. Entries are kept in the order in
which their names first occur; a later line for a name replaces the secret in place. The view of
entries is `secret?`, and `secret?_insert` says what one line does to it.
-/

namespace AuthRealm.Credential

/-- A secret for each of some user names. -/
structure Entries where
  pairs : List (String × String) := []
  deriving DecidableEq, Repr

namespace Entries

/-- The secret of a user name. -/
def secret? (e : Entries) (username : String) : Option String :=
  (e.pairs.find? fun p ↦ p.1 == username).map (·.2)

/-- Whether a user name has an entry. -/
def contains (e : Entries) (username : String) : Bool :=
  (e.secret? username).isSome

/-- The number of entries. -/
def size (e : Entries) : Nat :=
  e.pairs.length

/-- Replaces the secret of a name that occurs, or adds the pair at the end. -/
def insertPair (username secret : String) : List (String × String) → List (String × String)
  | [] => [(username, secret)]
  | p :: ps => if p.1 = username then (username, secret) :: ps
    else p :: insertPair username secret ps

/-- The entries with a secret for a name, in place of any it had. -/
def insert (e : Entries) (username secret : String) : Entries :=
  ⟨insertPair username secret e.pairs⟩

/-- The pairs in ascending order of their names. -/
def sorted (e : Entries) : List (String × String) :=
  e.pairs.mergeSort fun p q ↦ decide (p.1 ≤ q.1)

/-- The names in ascending order. -/
def usernames (e : Entries) : List String :=
  e.sorted.map (·.1)

/-- The entries after one more line. -/
def addLine (e : Entries) (line : Line) : Entries :=
  match line with
  | .entry username secret => e.insert (String.ofList username) (String.ofList secret)
  | _ => e

/-- The entries that lines make, from the first to the last. -/
def ofLines (ls : List (List Char)) : Entries :=
  (ls.map Line.ofText).foldl addLine {}

/-- How many lines are malformed. -/
def malformedCount (ls : List (List Char)) : Nat :=
  (ls.map Line.ofText).count .malformed

/-- The entries of a whole text. -/
def ofText (text : List Char) : Entries :=
  ofLines (Text.lines text)

/-! ### The view of each operation -/

@[simp] theorem secret?_empty (u : String) : ({} : Entries).secret? u = none := rfl

theorem secret?_insert (e : Entries) (u s v : String) :
    (e.insert u s).secret? v = if v = u then some s else e.secret? v := by
  obtain ⟨ps⟩ := e
  simp only [secret?, insert]
  -- the pair of the name is replaced where it stands, so the look-ups agree pair by pair
  induction ps with
  | nil =>
    by_cases h : v = u
    · simp [insertPair, h]
    · simp [insertPair, h, Ne.symm h]
  | cons p ps ih =>
    by_cases hp : p.1 = u
    · subst hp
      by_cases h : v = p.1
      · simp [insertPair, h]
      · simp [insertPair, h, Ne.symm h]
    · by_cases h : p.1 = v
      · subst h
        simp [insertPair, hp]
      · simpa [insertPair, hp, h] using ih

end Entries

end AuthRealm.Credential
