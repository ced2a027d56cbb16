import AuthRealm.Digest.Md5
import AuthRealm.Secret.HashText

/-!
# Salted MD5 hashes

The thousand-fold MD5 of a password and a salt of at most eight characters, in its two families:
they differ only in the mark that opens the secret and is stirred into the digest. The digest field
has twenty-two characters of the hash alphabet, whatever the password.
-/

namespace AuthRealm.Secret

/-- The two families, told apart by their mark. -/
inductive Md5Family where
  | classic
  | apache
  deriving DecidableEq, Repr

/-- The characters that open a secret of the family. -/
def Md5Family.mark : Md5Family → String
  | .classic => "$1$"
  | .apache => "$apr1$"

namespace Md5Hash

open Digest

/-- A byte string cut or repeated to `n` bytes; `i` is the next index. -/
def pushCyclic (part : ByteArray) : Nat → Nat → ByteArray → ByteArray
  | 0, _, out => out
  | n + 1, i, out => pushCyclic part n (i + 1) (out.push (byteAt part (i % part.size)))

/-- One byte for each binary digit of the password's length, the lowest first: zero for a one, and
the password's first byte for a zero. -/
def pushLengthBits (password : ByteArray) (n : Nat) (out : ByteArray) : ByteArray :=
  if n = 0 then out
  else pushLengthBits password (n / 2) (out.push (if n % 2 = 1 then 0 else byteAt password 0))

/-- The last `n` of the thousand rounds. -/
def rounds (password salt : ByteArray) : Nat → ByteArray → ByteArray
  | 0, value => value
  | n + 1, value =>
    let i := 999 - n
    let odd := i % 2 = 1
    let opening := if odd then password else value
    let salted := if i % 3 = 0 then opening else opening ++ salt
    let doubled := if i % 7 = 0 then salted else salted ++ password
    rounds password salt n (md5 (doubled ++ if odd then value else password))

/-- The sixteen bytes of the hash. -/
def bytes (family : Md5Family) (salt password : ByteArray) : ByteArray :=
  let inner := md5 (password ++ salt ++ password)
  let opening := password ++ family.mark.toUTF8 ++ salt
  let first := md5 (pushLengthBits password password.size
    (pushCyclic inner password.size 0 opening))
  rounds password salt 1000 first

/-- The three bytes that each group of four characters writes, the lowest first. -/
def groups : List (Nat × Nat × Nat) :=
  [(12, 6, 0), (13, 7, 1), (14, 8, 2), (15, 9, 3), (5, 10, 4)]

/-- The digest field: twenty-two characters. -/
def digestText (value : ByteArray) : List Char :=
  let at' (i : Nat) : Nat := (byteAt value i).toNat
  groups.flatMap (fun (a, b, c) ↦ lowFirst 4 (at' a + 256 * at' b + 65536 * at' c)) ++
    lowFirst 2 (at' 11)

/-- The digest field of a password under a salt. -/
def digest (family : Md5Family) (salt : List Char) (password : String) : List Char :=
  digestText (bytes family (String.ofList salt).toUTF8 password.toUTF8)

@[simp] theorem length_digest (family : Md5Family) (salt : List Char) (password : String) :
    (digest family salt password).length = 22 := by
  simp [digest, digestText, groups]

end Md5Hash

end AuthRealm.Secret
