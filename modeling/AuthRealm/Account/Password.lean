import AuthRealm.Digest.Blowfish
import AuthRealm.Text.Fields

/-!
# Passwords of local accounts

A local account keeps a hash of its password: a salt with a version and a cost, and the digest that
an expensive cipher key schedule leaves. The whole hash is again a readable salt, since reading a
salt ignores what follows its twenty-two characters; that is how a password is checked, by hashing
it under the stored hash and comparing the texts.

The cipher reads seventy-two bytes. A longer password is refused when a hash is asked for and
matches no stored hash, so no password is ever hashed as a prefix of itself. What the cipher reads
is `keyStream`, defined apart from the hash so that it can be compared on its own.
-/

namespace AuthRealm.Account.Password

open Text

/-- The most bytes of a password. -/
def maxBytes : Nat := 72

/-! ### Sixty-four characters of six bits -/

/-- The sixty-four characters, by value. -/
def alphabet : List Char :=
  "./ABCDEFGHIJKLMNOPQRSTUVWXYZabcdefghijklmnopqrstuvwxyz0123456789".toList

/-- The character of a value below sixty-four. -/
def char (v : Nat) : Char :=
  alphabet.getD (v % 64) '.'

/-- The value of a character. -/
def value? (c : Char) : Option Nat :=
  alphabet.findIdx? (· == c)

/-- Three bytes to four characters; a last group is as short as its bytes allow. -/
def encode : List UInt8 → List Char
  | [] => []
  | [a] =>
    let v := a.toNat * 16
    [char (v / 64), char v]
  | [a, b] =>
    let v := (a.toNat * 256 + b.toNat) * 4
    [char (v / 4096), char (v / 64), char v]
  | a :: b :: c :: r =>
    let v := (a.toNat * 256 + b.toNat) * 256 + c.toNat
    char (v / 262144) :: char (v / 4096) :: char (v / 64) :: char v :: encode r

/-- Reads what `encode` writes, and nothing else: the spare bits of the last character are zero. -/
def decode? : List Char → Option (List UInt8)
  | [] => some []
  | [_] => none
  | [p, q] => do
    let v := (← value? p) * 64 + (← value? q)
    if v % 16 = 0 then some [UInt8.ofNat (v / 16)] else none
  | [p, q, r] => do
    let v := ((← value? p) * 64 + (← value? q)) * 64 + (← value? r)
    if v % 4 = 0 then some [UInt8.ofNat (v / 1024), UInt8.ofNat (v / 4 % 256)] else none
  | p :: q :: r :: s :: t => do
    let v := (((← value? p) * 64 + (← value? q)) * 64 + (← value? r)) * 64 + (← value? s)
    let more ← decode? t
    some (UInt8.ofNat (v / 65536) :: UInt8.ofNat (v / 256 % 256) :: UInt8.ofNat (v % 256) :: more)

/-! ### Salts -/

/-- The variants of the format. They differ in history, not in what they compute. -/
inductive Version where
  | a
  | b
  | x
  | y
  deriving DecidableEq, Repr

/-- The text of a variant. -/
def Version.text : Version → List Char
  | .a => ['2', 'a']
  | .b => ['2', 'b']
  | .x => ['2', 'x']
  | .y => ['2', 'y']

/-- Reads the text of a variant. -/
def Version.ofText? : List Char → Option Version
  | ['2', 'a'] => some .a
  | ['2', 'b'] => some .b
  | ['2', 'x'] => some .x
  | ['2', 'y'] => some .y
  | _ => none

/-- A salt: the variant, the binary logarithm of the number of turns, and sixteen bytes. -/
structure Salt where
  version : Version
  cost : Nat
  bytes : List UInt8
  deriving DecidableEq, Repr

namespace Salt

/-- The least and the greatest cost. -/
def minCost : Nat := 4
def maxCost : Nat := 31

/-- A number in decimal digits, behind an optional plus sign. -/
def cost? (s : List Char) : Option Nat :=
  let digits := match s with
    | '+' :: r => r
    | r => r
  if digits.isEmpty || !digits.all Char.isDigit then none
  else
    let n := digits.foldl (fun n c ↦ 10 * n + (c.toNat - 48)) 0
    if minCost ≤ n ∧ n ≤ maxCost then some n else none

/-- Reads a salt: three nonempty fields between dollar signs. In the last field only the first
twenty-two characters are read. -/
def ofText? (s : List Char) : Option Salt :=
  match (fields '$' s).filter (!·.isEmpty) with
  | [version, cost, rest] => do
    let version ← Version.ofText? version
    let cost ← cost? cost
    if rest.length < 22 then none
    else
      let bytes ← decode? (rest.take 22)
      some ⟨version, cost, bytes⟩
  | _ => none

/-- Two decimal digits. -/
def twoDigits (n : Nat) : List Char :=
  [Char.ofNat (48 + n / 10 % 10), Char.ofNat (48 + n % 10)]

/-- The text of a salt. -/
def text (salt : Salt) : List Char :=
  '$' :: salt.version.text ++ '$' :: twoDigits salt.cost ++ '$' :: encode salt.bytes

end Salt

/-! ### Hashing and checking -/

/-- The seventy-two bytes that the cipher reads of a password: its bytes and a zero, repeated. -/
def keyStream (password : List UInt8) : List UInt8 :=
  (List.range maxBytes).map fun i ↦ (password ++ [0]).getD (i % (password.length + 1)) 0

/-- The hash of a password's bytes under a salt. -/
def hashUnder (salt : Salt) (password : List UInt8) : List Char :=
  let key := ByteArray.mk (keyStream password).toArray
  let digest := Digest.costlyBlowfish salt.cost (ByteArray.mk salt.bytes.toArray) key
  salt.text ++ encode (digest.toList.take 23)

/-- Why a password has no hash. -/
inductive HashError where
  | tooLong
  | invalidSalt
  deriving DecidableEq, Repr

/-- The wording of a refusal. -/
def HashError.message : HashError → String
  | .tooLong => s!"password exceeds {maxBytes} bytes"
  | .invalidSalt => "Invalid salt"

/-- Whether a password has more bytes than the cipher reads. -/
def tooLong (plain : String) : Bool :=
  maxBytes < plain.utf8ByteSize

/-- The hash of a password under the text of a salt. -/
def hash (salt plain : String) : Except HashError String :=
  if tooLong plain then .error .tooLong
  else
    match Salt.ofText? salt.toList with
    | none => .error .invalidSalt
    | some s => .ok (String.ofList (hashUnder s plain.toUTF8.toList))

/-- Whether a password has the given hash. Whatever is no hash is matched by nothing. -/
def verify (plain hashed : String) : Bool :=
  match hash hashed plain with
  | .ok text => text == hashed
  | .error _ => false

end AuthRealm.Account.Password
