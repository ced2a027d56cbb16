import AuthRealm.Digest.Block

/-!
# Blowfish with an expensive key schedule

The cipher behind the hashes of local passwords. Its starting tables are the first bits of the
fractional part of π, which this module computes by Machin's formula: the tables are a fact about
a number, not data to be trusted.

The state is one array of 1042 words: eighteen subkeys, then four boxes of 256.
-/

namespace AuthRealm.Digest.Blowfish

/-! ### The starting tables -/

/-- The next `n` terms of the series of `unit * arctan (1 / x)`, the odd denominator `odd` first;
`power` is `unit / x ^ odd`. Positive and negative terms are summed apart. -/
def arctanTerms (square : Nat) : Nat → Nat → Nat → Nat → Nat → Nat
  | 0, _, _, plus, minus => plus - minus
  | n + 1, power, odd, plus, minus =>
    let term := power / odd
    if odd % 4 = 1 then arctanTerms square n (power / square) (odd + 2) (plus + term) minus
    else arctanTerms square n (power / square) (odd + 2) plus (minus + term)

/-- How many bits of π the tables take. -/
def tableBits : Nat := 1042 * 32

/-- `2 ^ tableBits` times the fractional part of π, rounded down. The sixty-four extra bits of the
series absorb the rounding of its terms. -/
def piFraction : Nat :=
  let unit := Nat.pow 2 (tableBits + 64)
  let pi := 16 * arctanTerms 25 7300 (unit / 5) 1 0 0 -
    4 * arctanTerms 57121 2200 (unit / 239) 1 0 0
  pi / Nat.pow 2 64 % Nat.pow 2 tableBits

/-- The words of the starting tables, read off from the top. -/
def start : Array UInt32 :=
  (Array.range 1042).map fun i ↦ UInt32.ofNat (piFraction >>> (32 * (1041 - i)))

/-! ### The cipher -/

/-- The round function. -/
@[inline] def mix (t : Array UInt32) (x : UInt32) : UInt32 :=
  ((t.getD (18 + (x >>> 24).toNat) 0 + t.getD (274 + ((x >>> 16) &&& 255).toNat) 0) ^^^
    t.getD (530 + ((x >>> 8) &&& 255).toNat) 0) + t.getD (786 + (x &&& 255).toNat) 0

/-- The last `n` of the sixteen rounds, and the two subkeys that close a block. -/
def rounds (t : Array UInt32) : Nat → UInt32 → UInt32 → UInt32 × UInt32
  | 0, l, r => (r ^^^ t.getD 17 0, l ^^^ t.getD 16 0)
  | n + 1, l, r =>
    let l := l ^^^ t.getD (15 - n) 0
    rounds t n (r ^^^ mix t l) l

/-- A block under the tables `t`. -/
@[inline] def encipher (t : Array UInt32) (l r : UInt32) : UInt32 × UInt32 :=
  rounds t 16 l r

/-! ### The key schedule -/

/-- Adds the key to the first `n` subkeys; `key` is the key's eighteen words. -/
def addKey (key : Array UInt32) : Nat → Array UInt32 → Array UInt32
  | 0, t => t
  | n + 1, t => addKey key n (t.setIfInBounds n (t.getD n 0 ^^^ key.getD n 0))

/-- Replaces the last `n` pairs of words by successive encipherments, each stirred with the next
two of the four salt words. -/
def replaceWords (salt : Array UInt32) : Nat → UInt32 → UInt32 → Array UInt32 → Array UInt32
  | 0, _, _, t => t
  | n + 1, l, r, t =>
    let i := 521 - (n + 1)
    let (l, r) := encipher t (l ^^^ salt.getD (2 * i % 4) 0) (r ^^^ salt.getD ((2 * i + 1) % 4) 0)
    replaceWords salt n l r ((t.setIfInBounds (2 * i) l).setIfInBounds (2 * i + 1) r)

/-- The tables after a key and a salt have been stirred in. -/
def expand (salt key t : Array UInt32) : Array UInt32 :=
  replaceWords salt 521 0 0 (addKey key 18 t)

/-- The tables after `n` turns of the costly loop: the key alone, then the salt in the key's place,
each without a salt. -/
def costly (key salt : Array UInt32) : Nat → Array UInt32 → Array UInt32
  | 0, t => t
  | n + 1, t => costly key salt n (expand #[] salt (expand #[] key t))

/-- A pair of words after `n` encipherments. -/
def encipherTimes (t : Array UInt32) : Nat → UInt32 → UInt32 → UInt32 × UInt32
  | 0, l, r => (l, r)
  | n + 1, l, r =>
    let (l, r) := encipher t l r
    encipherTimes t n l r

/-- The first `n` words of a byte string repeated for ever, most significant byte first. -/
def cyclicWords (bytes : ByteArray) (n : Nat) : Array UInt32 :=
  let at' (i : Nat) : UInt32 := (byteAt bytes (i % bytes.size)).toUInt32
  (Array.range n).map fun i ↦
    (at' (4 * i) <<< 24) ||| (at' (4 * i + 1) <<< 16) ||| (at' (4 * i + 2) <<< 8) |||
      at' (4 * i + 3)

end Blowfish

/-- The twenty-four bytes that the costly key schedule leaves of the text
`OrpheanBeholderScryDoubt`: `2 ^ cost` turns over a key of seventy-two bytes and a salt of
sixteen. -/
def costlyBlowfish (cost : Nat) (salt key : ByteArray) : ByteArray :=
  let keyWords := Blowfish.cyclicWords key 18
  let t := Blowfish.expand (Blowfish.cyclicWords salt 4) keyWords Blowfish.start
  let t := Blowfish.costly keyWords (Blowfish.cyclicWords salt 18) (Nat.pow 2 cost) t
  let text := "OrpheanBeholderScryDoubt".toUTF8
  [0, 8, 16].foldl (fun out offset ↦
    let (l, r) := Blowfish.encipherTimes t 64 (bigWord32 text offset) (bigWord32 text (offset + 4))
    pushBig32 (pushBig32 out l) r) .empty

end AuthRealm.Digest
