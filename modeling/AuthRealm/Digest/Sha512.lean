import AuthRealm.Digest.Block
import AuthRealm.Digest.RootFraction

/-!
# SHA-512

Messages of bytes to digests of sixty-four bytes, with the constants taken from `rootFraction`.
-/

namespace AuthRealm.Digest.Sha512

/-- The eight words of the running value. -/
structure State where
  a : UInt64
  b : UInt64
  c : UInt64
  d : UInt64
  e : UInt64
  f : UInt64
  g : UInt64
  h : UInt64

/-- Word-wise sum of two values. -/
def State.add (s t : State) : State :=
  ⟨s.a + t.a, s.b + t.b, s.c + t.c, s.d + t.d, s.e + t.e, s.f + t.f, s.g + t.g, s.h + t.h⟩

/-- The first sixty-four bits of the fractional part of the square root of the `i`-th prime. -/
def start (i : Nat) : UInt64 :=
  UInt64.ofNat (rootFraction 2 64 (smallPrimes.getD i 0))

/-- The value before the first block. -/
def State.initial : State :=
  ⟨start 0, start 1, start 2, start 3, start 4, start 5, start 6, start 7⟩

/-- The round constants: the first sixty-four bits of the fractional parts of the cube roots of the
first eighty primes. -/
def constants : Array UInt64 :=
  (smallPrimes.map fun p ↦ UInt64.ofNat (rootFraction 3 64 p)).toArray

/-- Lengthens a message schedule by `n` words. -/
def extend : Nat → Array UInt64 → Array UInt64
  | 0, w => w
  | n + 1, w =>
    let i := w.size
    let x := w.getD (i - 15) 0
    let y := w.getD (i - 2) 0
    let s0 := turnRight64 1 x ^^^ turnRight64 8 x ^^^ (x >>> 7)
    let s1 := turnRight64 19 y ^^^ turnRight64 61 y ^^^ (y >>> 6)
    extend n (w.push (w.getD (i - 16) 0 + s0 + w.getD (i - 7) 0 + s1))

/-- The eighty words that the block at `offset` feeds to the rounds. -/
def schedule (m : ByteArray) (offset : Nat) : Array UInt64 :=
  extend 64 ((Array.range 16).map fun i ↦ bigWord64 m (offset + 8 * i))

/-- The last `n` rounds. -/
def rounds (w : Array UInt64) : Nat → State → State
  | 0, s => s
  | n + 1, s =>
    let t := 79 - n
    let s1 := turnRight64 14 s.e ^^^ turnRight64 18 s.e ^^^ turnRight64 41 s.e
    let choice := (s.e &&& s.f) ^^^ (~~~s.e &&& s.g)
    let t1 := s.h + s1 + choice + constants.getD t 0 + w.getD t 0
    let s0 := turnRight64 28 s.a ^^^ turnRight64 34 s.a ^^^ turnRight64 39 s.a
    let majority := (s.a &&& s.b) ^^^ (s.a &&& s.c) ^^^ (s.b &&& s.c)
    rounds w n ⟨t1 + (s0 + majority), s.a, s.b, s.c, s.d + t1, s.e, s.f, s.g⟩

/-- The running value after the block at `offset`. -/
def compress (m : ByteArray) (s : State) (offset : Nat) : State :=
  s.add (rounds (schedule m offset) 80 s)

/-- The sixty-four bytes of a running value. -/
def State.bytes (s : State) : ByteArray :=
  [s.a, s.b, s.c, s.d, s.e, s.f, s.g, s.h].foldl pushBig64 .empty

end Sha512

/-- The SHA-512 digest of a message. -/
def sha512 (message : ByteArray) : ByteArray :=
  let m := padded 128 16 List.reverse message
  (foldBlocks 128 (Sha512.compress m) (m.size / 128) 0 Sha512.State.initial).bytes

end AuthRealm.Digest
