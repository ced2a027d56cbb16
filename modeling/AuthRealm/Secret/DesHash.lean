import AuthRealm.Digest.Des
import AuthRealm.Digest.Block
import AuthRealm.Secret.HashText

/-!
# Traditional hashes

Thirteen characters with no mark at all: a salt of two and a digest of eleven. Only the first eight
bytes of the password count, and of each only seven bits.
-/

namespace AuthRealm.Secret.DesHash

open Digest

/-- The sixty-four key bits: seven bits of each of the first eight bytes of the password, the first
byte on top, with a zero below each. -/
def key (password : ByteArray) : UInt64 :=
  (List.range 8).foldl (fun k i ↦ (k <<< 8) ||| (((byteAt password i) &&& 127).toUInt64 <<< 1)) 0

/-- The digest field of a password under a salt: eleven characters. -/
def digest (salt : List Char) (password : String) : List Char :=
  let saltBits := salt.foldr (fun c v ↦ hashValue c + 64 * v) 0
  highFirst 11 ((saltedDes (UInt64.ofNat saltBits) (key password.toUTF8)).toNat * 4)

@[simp] theorem length_digest (salt : List Char) (password : String) :
    (digest salt password).length = 11 := by
  simp [digest]

end AuthRealm.Secret.DesHash
