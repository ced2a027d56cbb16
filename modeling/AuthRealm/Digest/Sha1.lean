import AuthRealm.Digest.Block

/-!
# SHA-1

Messages of bytes to digests of twenty bytes. Unsalted SHA-1 is one of the spellings of a stored
secret, and it is the token of a first login; both only ever see the twenty bytes.
-/

namespace AuthRealm.Digest.Sha1

/-- The five words of the running value. -/
structure State where
  a : UInt32
  b : UInt32
  c : UInt32
  d : UInt32
  e : UInt32

/-- The value before the first block. -/
def State.initial : State :=
  ⟨0x67452301, 0xefcdab89, 0x98badcfe, 0x10325476, 0xc3d2e1f0⟩

/-- Word-wise sum of two values. -/
def State.add (s t : State) : State :=
  ⟨s.a + t.a, s.b + t.b, s.c + t.c, s.d + t.d, s.e + t.e⟩

/-- Lengthens a message schedule by `n` words. -/
def extend : Nat → Array UInt32 → Array UInt32
  | 0, w => w
  | n + 1, w =>
    let i := w.size
    extend n (w.push (turnLeft32 1
      (w.getD (i - 3) 0 ^^^ w.getD (i - 8) 0 ^^^ w.getD (i - 14) 0 ^^^ w.getD (i - 16) 0)))

/-- The eighty words that the block at `offset` feeds to the rounds. -/
def schedule (m : ByteArray) (offset : Nat) : Array UInt32 :=
  extend 64 ((Array.range 16).map fun i ↦ bigWord32 m (offset + 4 * i))

/-- The mixing function and constant of round `t`. -/
def mix (t : Nat) (b c d : UInt32) : UInt32 :=
  if t < 20 then ((b &&& c) ||| (~~~b &&& d)) + 0x5a827999
  else if t < 40 then (b ^^^ c ^^^ d) + 0x6ed9eba1
  else if t < 60 then ((b &&& c) ||| (b &&& d) ||| (c &&& d)) + 0x8f1bbcdc
  else (b ^^^ c ^^^ d) + 0xca62c1d6

/-- The last `n` rounds. -/
def rounds (w : Array UInt32) : Nat → State → State
  | 0, s => s
  | n + 1, s =>
    let t := 79 - n
    rounds w n
      ⟨turnLeft32 5 s.a + mix t s.b s.c s.d + s.e + w.getD t 0, s.a, turnLeft32 30 s.b, s.c, s.d⟩

/-- The running value after the block at `offset`. -/
def compress (m : ByteArray) (s : State) (offset : Nat) : State :=
  s.add (rounds (schedule m offset) 80 s)

/-- The twenty bytes of a running value. -/
def State.bytes (s : State) : ByteArray :=
  pushBig32 (pushBig32 (pushBig32 (pushBig32 (pushBig32 .empty s.a) s.b) s.c) s.d) s.e

end Sha1

/-- The SHA-1 digest of a message. -/
def sha1 (message : ByteArray) : ByteArray :=
  let m := padded 64 8 List.reverse message
  (foldBlocks 64 (Sha1.compress m) (m.size / 64) 0 Sha1.State.initial).bytes

theorem size_sha1 (message : ByteArray) : (sha1 message).size = 20 := by
  simp only [sha1, Sha1.State.bytes, size_pushBig32, ByteArray.size_empty]

end AuthRealm.Digest
