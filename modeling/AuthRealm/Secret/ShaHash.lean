import AuthRealm.Digest.Sha256
import AuthRealm.Digest.Sha512
import AuthRealm.Secret.HashText

/-!
# Salted SHA-2 hashes

The many-fold SHA-256 or SHA-512 of a password, a salt of at most sixteen characters and a number
of rounds. The digest field has forty-three or eighty-six characters of the hash alphabet.
-/

namespace AuthRealm.Secret

/-- The two families, by the digest they iterate. -/
inductive ShaFamily where
  | sha256
  | sha512
  deriving DecidableEq, Repr

/-- The characters that open a secret of the family. -/
def ShaFamily.mark : ShaFamily → String
  | .sha256 => "$5$"
  | .sha512 => "$6$"

/-- The length of the family's digest field. -/
def ShaFamily.digestLength : ShaFamily → Nat
  | .sha256 => 43
  | .sha512 => 86

namespace ShaHash

open Digest

/-- The family's digest of a byte string. -/
def hash : ShaFamily → ByteArray → ByteArray
  | .sha256 => sha256
  | .sha512 => sha512

/-- Appends `part` `n` times. -/
def pushTimes (part : ByteArray) : Nat → ByteArray → ByteArray
  | 0, out => out
  | n + 1, out => pushTimes part n (out ++ part)

/-- Appends the first `n` bytes of `part` repeated for ever. -/
def pushRepeated (part : ByteArray) (n : Nat) (out : ByteArray) : ByteArray :=
  pushTimes part (n / part.size) out ++ part.extract 0 (n % part.size)

/-- Appends the digest for each one and the password for each zero among the binary digits of `n`,
the lowest first. -/
def pushLengthBits (digest password : ByteArray) (n : Nat) (out : ByteArray) : ByteArray :=
  if n = 0 then out
  else pushLengthBits digest password (n / 2) (out ++ if n % 2 = 1 then digest else password)

/-- The last `n` of `total` rounds over the stretched password `p` and salt `s`. -/
def rounds (family : ShaFamily) (total : Nat) (p s : ByteArray) : Nat → ByteArray → ByteArray
  | 0, value => value
  | n + 1, value =>
    let i := total - (n + 1)
    let odd := i % 2 = 1
    let opening := if odd then p else value
    let salted := if i % 3 = 0 then opening else opening ++ s
    let doubled := if i % 7 = 0 then salted else salted ++ p
    rounds family total p s n (hash family (doubled ++ if odd then value else p))

/-- The bytes of the hash. -/
def bytes (family : ShaFamily) (total : Nat) (salt password : ByteArray) : ByteArray :=
  let inner := hash family (password ++ salt ++ password)
  let first := hash family
    (pushLengthBits inner password password.size
      (pushRepeated inner password.size (password ++ salt)))
  let p := pushRepeated (hash family (pushTimes password password.size .empty)) password.size .empty
  let s := pushRepeated (hash family (pushTimes salt (16 + (byteAt first 0).toNat) .empty))
    salt.size .empty
  rounds family total p s total first

/-- The three bytes that each group of four characters writes, the highest first. -/
def groups : ShaFamily → List (Nat × Nat × Nat)
  | .sha256 =>
    [(0, 10, 20), (21, 1, 11), (12, 22, 2), (3, 13, 23), (24, 4, 14), (15, 25, 5), (6, 16, 26),
     (27, 7, 17), (18, 28, 8), (9, 19, 29)]
  | .sha512 =>
    [(0, 21, 42), (22, 43, 1), (44, 2, 23), (3, 24, 45), (25, 46, 4), (47, 5, 26), (6, 27, 48),
     (28, 49, 7), (50, 8, 29), (9, 30, 51), (31, 52, 10), (53, 11, 32), (12, 33, 54), (34, 55, 13),
     (56, 14, 35), (15, 36, 57), (37, 58, 16), (59, 17, 38), (18, 39, 60), (40, 61, 19),
     (62, 20, 41)]

/-- The digest field: forty-three or eighty-six characters. -/
def digestText (family : ShaFamily) (value : ByteArray) : List Char :=
  let at' (i : Nat) : Nat := (byteAt value i).toNat
  (groups family).flatMap (fun (a, b, c) ↦ lowFirst 4 (at' c + 256 * at' b + 65536 * at' a)) ++
    match family with
    | .sha256 => lowFirst 3 (at' 30 + 256 * at' 31)
    | .sha512 => lowFirst 2 (at' 63)

/-- The digest field of a password under a salt and a number of rounds. -/
def digest (family : ShaFamily) (total : Nat) (salt : List Char) (password : String) : List Char :=
  digestText family (bytes family total (String.ofList salt).toUTF8 password.toUTF8)

@[simp] theorem length_digest (family : ShaFamily) (total : Nat) (salt : List Char)
    (password : String) : (digest family total salt password).length = family.digestLength := by
  cases family <;> simp [digest, digestText, groups, ShaFamily.digestLength]

end ShaHash

end AuthRealm.Secret
