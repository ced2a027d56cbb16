import AuthRealm.Digest.Block

/-!
# MD5

Messages of bytes to digests of sixteen bytes. MD5 stands here for the salted, iterated password
hashes that are built on it.
-/

namespace AuthRealm.Digest.Md5

/-- The four words of the running value. -/
structure State where
  a : UInt32
  b : UInt32
  c : UInt32
  d : UInt32

/-- The value before the first block. -/
def State.initial : State :=
  ⟨0x67452301, 0xefcdab89, 0x98badcfe, 0x10325476⟩

/-- Word-wise sum of two values. -/
def State.add (s t : State) : State :=
  ⟨s.a + t.a, s.b + t.b, s.c + t.c, s.d + t.d⟩

/-- The round constants: entry `i` is the whole part of `2 ^ 32 * |sin (i + 1)|`. -/
def sines : Array UInt32 := #[
  0xd76aa478, 0xe8c7b756, 0x242070db, 0xc1bdceee, 0xf57c0faf, 0x4787c62a,
  0xa8304613, 0xfd469501, 0x698098d8, 0x8b44f7af, 0xffff5bb1, 0x895cd7be,
  0x6b901122, 0xfd987193, 0xa679438e, 0x49b40821, 0xf61e2562, 0xc040b340,
  0x265e5a51, 0xe9b6c7aa, 0xd62f105d, 0x02441453, 0xd8a1e681, 0xe7d3fbc8,
  0x21e1cde6, 0xc33707d6, 0xf4d50d87, 0x455a14ed, 0xa9e3e905, 0xfcefa3f8,
  0x676f02d9, 0x8d2a4c8a, 0xfffa3942, 0x8771f681, 0x6d9d6122, 0xfde5380c,
  0xa4beea44, 0x4bdecfa9, 0xf6bb4b60, 0xbebfbc70, 0x289b7ec6, 0xeaa127fa,
  0xd4ef3085, 0x04881d05, 0xd9d4d039, 0xe6db99e5, 0x1fa27cf8, 0xc4ac5665,
  0xf4292244, 0x432aff97, 0xab9423a7, 0xfc93a039, 0x655b59c3, 0x8f0ccc92,
  0xffeff47d, 0x85845dd1, 0x6fa87e4f, 0xfe2ce6e0, 0xa3014314, 0x4e0811a1,
  0xf7537e82, 0xbd3af235, 0x2ad7d2bb, 0xeb86d391]

/-- How far each of the four groups of sixteen rounds turns, by round modulo four. -/
def turns : Array UInt32 := #[7, 12, 17, 22, 5, 9, 14, 20, 4, 11, 16, 23, 6, 10, 15, 21]

/-- The mixing function of round `t`, and which word of the block it reads. -/
@[inline] def mix (t : Nat) (b c d : UInt32) : UInt32 × Nat :=
  if t < 16 then ((b &&& c) ||| (~~~b &&& d), t)
  else if t < 32 then ((d &&& b) ||| (~~~d &&& c), (5 * t + 1) % 16)
  else if t < 48 then (b ^^^ c ^^^ d, (3 * t + 5) % 16)
  else (c ^^^ (b ||| ~~~d), (7 * t) % 16)

/-- The last `n` rounds over the block at `offset`. -/
def rounds (m : ByteArray) (offset : Nat) : Nat → State → State
  | 0, s => s
  | n + 1, s =>
    let t := 63 - n
    let (f, word) := mix t s.b s.c s.d
    let sum := s.a + f + sines.getD t 0 + littleWord32 m (offset + 4 * word)
    rounds m offset n
      ⟨s.d, s.b + turnLeft32 (turns.getD (t / 16 * 4 + t % 4) 0) sum, s.b, s.c⟩

/-- The running value after the block at `offset`. -/
def compress (m : ByteArray) (s : State) (offset : Nat) : State :=
  s.add (rounds m offset 64 s)

/-- The sixteen bytes of a running value. -/
def State.bytes (s : State) : ByteArray :=
  pushLittle32 (pushLittle32 (pushLittle32 (pushLittle32 .empty s.a) s.b) s.c) s.d

end Md5

/-- The MD5 digest of a message. -/
def md5 (message : ByteArray) : ByteArray :=
  let m := padded 64 8 id message
  (foldBlocks 64 (Md5.compress m) (m.size / 64) 0 Md5.State.initial).bytes

end AuthRealm.Digest
