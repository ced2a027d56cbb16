/-!
# Blocks of a message

What the digests of this library share: reading words out of a byte string in either byte order,
and the padding that brings a message to a whole number of blocks.

Every reader is total. A byte past the end reads as zero, so no digest needs a bound on its
indices; the padding sees to it that no such byte is ever read.
-/

namespace AuthRealm.Digest

/-- The byte at `i`, zero past the end. -/
@[inline] def byteAt (m : ByteArray) (i : Nat) : UInt8 :=
  if h : i < m.size then m[i] else 0

/-! ### Words -/

/-- The 32-bit word at `i`, most significant byte first. -/
@[inline] def bigWord32 (m : ByteArray) (i : Nat) : UInt32 :=
  ((byteAt m i).toUInt32 <<< 24) ||| ((byteAt m (i + 1)).toUInt32 <<< 16) |||
    ((byteAt m (i + 2)).toUInt32 <<< 8) ||| (byteAt m (i + 3)).toUInt32

/-- The 32-bit word at `i`, least significant byte first. -/
@[inline] def littleWord32 (m : ByteArray) (i : Nat) : UInt32 :=
  ((byteAt m (i + 3)).toUInt32 <<< 24) ||| ((byteAt m (i + 2)).toUInt32 <<< 16) |||
    ((byteAt m (i + 1)).toUInt32 <<< 8) ||| (byteAt m i).toUInt32

/-- The 64-bit word at `i`, most significant byte first. -/
@[inline] def bigWord64 (m : ByteArray) (i : Nat) : UInt64 :=
  ((bigWord32 m i).toUInt64 <<< 32) ||| (bigWord32 m (i + 4)).toUInt64

/-- Appends a 32-bit word, most significant byte first. -/
def pushBig32 (m : ByteArray) (w : UInt32) : ByteArray :=
  (((m.push (w >>> 24).toUInt8).push (w >>> 16).toUInt8).push (w >>> 8).toUInt8).push w.toUInt8

/-- Appends a 32-bit word, least significant byte first. -/
def pushLittle32 (m : ByteArray) (w : UInt32) : ByteArray :=
  (((m.push w.toUInt8).push (w >>> 8).toUInt8).push (w >>> 16).toUInt8).push (w >>> 24).toUInt8

/-- Appends a 64-bit word, most significant byte first. -/
def pushBig64 (m : ByteArray) (w : UInt64) : ByteArray :=
  pushBig32 (pushBig32 m (w >>> 32).toUInt32) w.toUInt32

@[simp] theorem size_pushBig32 (m : ByteArray) (w : UInt32) :
    (pushBig32 m w).size = m.size + 4 := by
  simp only [pushBig32, ByteArray.size_push]

/-- Turns a word left by `k` places, `0 < k < 32`. -/
@[inline] def turnLeft32 (k w : UInt32) : UInt32 :=
  (w <<< k) ||| (w >>> (32 - k))

/-- Turns a word right by `k` places, `0 < k < 32`. -/
@[inline] def turnRight32 (k w : UInt32) : UInt32 :=
  (w >>> k) ||| (w <<< (32 - k))

/-- Turns a word right by `k` places, `0 < k < 64`. -/
@[inline] def turnRight64 (k w : UInt64) : UInt64 :=
  (w >>> k) ||| (w <<< (64 - k))

/-! ### Padding -/

/-- Appends `n` zero bytes. -/
def pushZeros : Nat → ByteArray → ByteArray
  | 0, m => m
  | n + 1, m => pushZeros n (m.push 0)

/-- The `n` low bytes of a number, least significant first. -/
def lowBytes : Nat → Nat → List UInt8
  | 0, _ => []
  | n + 1, v => UInt8.ofNat (v % 256) :: lowBytes n (v / 256)

/-- The message, a single one bit, zeros up to the last field of the last block, and in that field
the message's length in bits. `field` is the field's width in bytes and `order` its byte order. -/
def padded (block field : Nat) (order : List UInt8 → List UInt8) (message : ByteArray) :
    ByteArray :=
  let marked := message.push 0x80
  let filled := pushZeros ((block - (marked.size + field) % block) % block) marked
  (order (lowBytes field (message.size * 8))).foldl ByteArray.push filled

/-- Runs `step` over the offsets `offset`, `offset + block`, … of `count` blocks. -/
@[specialize] def foldBlocks {σ : Type} (block : Nat) (step : σ → Nat → σ) :
    Nat → Nat → σ → σ
  | 0, _, s => s
  | count + 1, offset, s => foldBlocks block step count (offset + block) (step s offset)

end AuthRealm.Digest
