import AuthRealm.Digest.Block
import AuthRealm.Digest.RootFraction

/-!
# SHA-256

Messages of bytes to digests of thirty-two bytes, with the constants taken from `rootFraction`.
-/

namespace AuthRealm.Digest.Sha256

/-- The eight words of the running value. -/
structure State where
  a : UInt32
  b : UInt32
  c : UInt32
  d : UInt32
  e : UInt32
  f : UInt32
  g : UInt32
  h : UInt32

/-- Word-wise sum of two values. -/
def State.add (s t : State) : State :=
  ⟨s.a + t.a, s.b + t.b, s.c + t.c, s.d + t.d, s.e + t.e, s.f + t.f, s.g + t.g, s.h + t.h⟩

/-- The first thirty-two bits of the fractional part of the square root of the `i`-th prime. -/
def start (i : Nat) : UInt32 :=
  UInt32.ofNat (rootFraction 2 32 (smallPrimes.getD i 0))

/-- The value before the first block. -/
def State.initial : State :=
  ⟨start 0, start 1, start 2, start 3, start 4, start 5, start 6, start 7⟩

/-- The round constants: the first thirty-two bits of the fractional parts of the cube roots of the
first sixty-four primes. -/
def constants : Array UInt32 :=
  ((smallPrimes.take 64).map fun p ↦ UInt32.ofNat (rootFraction 3 32 p)).toArray

/-- Lengthens a message schedule by `n` words. -/
def extend : Nat → Array UInt32 → Array UInt32
  | 0, w => w
  | n + 1, w =>
    let i := w.size
    let x := w.getD (i - 15) 0
    let y := w.getD (i - 2) 0
    let s0 := turnRight32 7 x ^^^ turnRight32 18 x ^^^ (x >>> 3)
    let s1 := turnRight32 17 y ^^^ turnRight32 19 y ^^^ (y >>> 10)
    extend n (w.push (w.getD (i - 16) 0 + s0 + w.getD (i - 7) 0 + s1))

/-- The sixty-four words that the block at `offset` feeds to the rounds. -/
def schedule (m : ByteArray) (offset : Nat) : Array UInt32 :=
  extend 48 ((Array.range 16).map fun i ↦ bigWord32 m (offset + 4 * i))

/-- The last `n` rounds. -/
def rounds (w : Array UInt32) : Nat → State → State
  | 0, s => s
  | n + 1, s =>
    let t := 63 - n
    let s1 := turnRight32 6 s.e ^^^ turnRight32 11 s.e ^^^ turnRight32 25 s.e
    let choice := (s.e &&& s.f) ^^^ (~~~s.e &&& s.g)
    let t1 := s.h + s1 + choice + constants.getD t 0 + w.getD t 0
    let s0 := turnRight32 2 s.a ^^^ turnRight32 13 s.a ^^^ turnRight32 22 s.a
    let majority := (s.a &&& s.b) ^^^ (s.a &&& s.c) ^^^ (s.b &&& s.c)
    rounds w n ⟨t1 + (s0 + majority), s.a, s.b, s.c, s.d + t1, s.e, s.f, s.g⟩

/-- The running value after the block at `offset`. -/
def compress (m : ByteArray) (s : State) (offset : Nat) : State :=
  s.add (rounds (schedule m offset) 64 s)

/-- The thirty-two bytes of a running value. -/
def State.bytes (s : State) : ByteArray :=
  [s.a, s.b, s.c, s.d, s.e, s.f, s.g, s.h].foldl pushBig32 .empty

end Sha256

/-- The SHA-256 digest of a message. -/
def sha256 (message : ByteArray) : ByteArray :=
  let m := padded 64 8 List.reverse message
  (foldBlocks 64 (Sha256.compress m) (m.size / 64) 0 Sha256.State.initial).bytes

end AuthRealm.Digest
