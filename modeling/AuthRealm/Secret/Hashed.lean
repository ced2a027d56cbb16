import AuthRealm.Digest.Sha1
import AuthRealm.Secret.DesHash
import AuthRealm.Secret.Md5Hash
import AuthRealm.Secret.ShaHash
import AuthRealm.Text.Base64
import AuthRealm.Text.Fields
import AuthRealm.Text.Numeral

/-!
# Hashed secrets

A stored secret that is not cleartext is taken apart once, by `Hashed.ofText?`, into its scheme's
parameters and its digest field. Comparison with a candidate is then one equation between digest
fields. Reading is total: a secret that is not well formed is no `Hashed`, and matches nothing.

The mark at the start selects the reader, and there is no second try: text behind a known mark that
does not have the shape of that scheme is no secret of any other.
-/

namespace AuthRealm.Secret

open Text

/-- The characters that open an unsalted SHA-1 secret. -/
def sha1Mark : String := "\x7bSHA\x7d"

/-- The unsalted SHA-1 of a text, in base 64. -/
def sha1Text (plain : String) : String :=
  String.ofList (Base64.encode (Digest.sha1 plain.toUTF8).toList)

/-- A hashed secret, taken apart. The digest is the text of the digest field. -/
inductive Hashed where
  | md5 (family : Md5Family) (salt digest : List Char)
  | sha1 (digest : List Char)
  | sha (family : ShaFamily) (rounds : Nat) (salt digest : List Char)
  | des (salt digest : List Char)
  deriving DecidableEq, Repr

namespace Hashed

/-- Salt and digest fields have the given lengths and are written in the hash alphabet. -/
def fieldsOk (maxSalt digestLength : Nat) (salt digest : List Char) : Bool :=
  salt.length ≤ maxSalt && salt.all isHashChar &&
    digest.length == digestLength && digest.all isHashChar

/-- What follows the mark of a salted MD5 secret: a salt and a digest. -/
def ofMd5Text? (family : Md5Family) (rest : List Char) : Option Hashed :=
  match fields '$' rest with
  | [salt, digest] => if fieldsOk 8 22 salt digest then some (.md5 family salt digest) else none
  | _ => none

/-- The characters that open a field with a number of rounds. -/
def roundsMark : List Char := "rounds=".toList

/-- The fewest and the most rounds. -/
def minRounds : Nat := 1000
def maxRounds : Nat := 999999999

/-- The number of rounds when the secret states none. -/
def defaultRounds : Nat := 5000

/-- A stated number of rounds: an integer in range, written with no zero in front. -/
def rounds? (text : List Char) : Option Nat :=
  if text.head? = some '0' then none
  else
    match readInteger? text with
    | some n =>
      if (minRounds : Int) ≤ n ∧ n ≤ (maxRounds : Int) then some n.toNat else none
    | none => none

/-- A salt and a digest behind a known number of rounds. -/
def ofShaFields? (family : ShaFamily) (rounds : Nat) : List (List Char) → Option Hashed
  | [salt, digest] =>
    if fieldsOk 16 family.digestLength salt digest then some (.sha family rounds salt digest)
    else none
  | _ => none

/-- What follows the mark of a salted SHA-2 secret: a number of rounds or none, a salt and a
digest. -/
def ofShaText? (family : ShaFamily) (rest : List Char) : Option Hashed :=
  match fields '$' rest with
  | [] => none
  | first :: more =>
    match after? roundsMark first with
    | some text => (rounds? text).bind fun n ↦ ofShaFields? family n more
    | none => ofShaFields? family defaultRounds (first :: more)

/-- A traditional secret: two characters of salt and eleven of digest. -/
def ofDesText? (s : List Char) : Option Hashed :=
  let salt := s.take 2
  let digest := s.drop 2
  if salt.length == 2 && fieldsOk 2 11 salt digest then some (.des salt digest) else none

/-- A stored secret, taken apart by the reader that its mark selects. -/
def ofText? (stored : String) : Option Hashed :=
  let s := stored.toList
  if let some rest := after? (Md5Family.mark .apache).toList s then ofMd5Text? .apache rest
  else if let some rest := after? sha1Mark.toList s then some (.sha1 rest)
  else if let some rest := after? (Md5Family.mark .classic).toList s then ofMd5Text? .classic rest
  else if let some rest := after? (ShaFamily.mark .sha256).toList s then ofShaText? .sha256 rest
  else if let some rest := after? (ShaFamily.mark .sha512).toList s then ofShaText? .sha512 rest
  else ofDesText? s

/-! ### Comparison with a candidate -/

/-- The longest candidate, in characters, that a salted hash is computed of. -/
def maxCandidate : Nat := 4096

/-- Whether the scheme takes a candidate at all: the salted ones refuse long candidates and those
with a NUL. -/
def admits (h : Hashed) (candidate : String) : Bool :=
  match h with
  | .sha1 _ => true
  | _ => candidate.length ≤ maxCandidate && !candidate.toList.contains '\x00'

/-- The digest field as stored. -/
def digest : Hashed → List Char
  | .md5 _ _ d => d
  | .sha1 d => d
  | .sha _ _ _ d => d
  | .des _ d => d

/-- The digest field that a candidate has under the salt and rounds of the secret. -/
def digestOf (h : Hashed) (candidate : String) : List Char :=
  match h with
  | .md5 family salt _ => Md5Hash.digest family salt candidate
  | .sha1 _ => (sha1Text candidate).toList
  | .sha family rounds salt _ => ShaHash.digest family rounds salt candidate
  | .des salt _ => DesHash.digest salt candidate

/-- Whether a candidate is the password that the secret hashes. -/
def accepts (h : Hashed) (candidate : String) : Bool :=
  h.admits candidate && h.digest == h.digestOf candidate

theorem accepts_iff {h : Hashed} {candidate : String} :
    h.accepts candidate = true ↔
      h.admits candidate = true ∧ h.digest = h.digestOf candidate := by
  simp [accepts]

end Hashed

end AuthRealm.Secret
