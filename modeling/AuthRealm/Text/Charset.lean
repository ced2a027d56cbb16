import AuthRealm.Text.CharsetName
import AuthRealm.Text.Quoted

/-!
# Charsets

Bytes to characters, in the charset that a name stands for.

Decoding works through the bytes in blocks of 8192, as a reader with a buffer of that size does, and
a message about malformed bytes counts from where the piece being decoded began: the start of the
block, or the start of a sequence that an earlier block left incomplete. `baseAt` holds that rule,
and nothing else depends on blocks: which text the bytes spell does not.

Of the charsets that are known by name not all have a table here. What the others make of bytes is
up to the machine, whose `Decoders` are a parameter; an `Encoding` is a name together with them.
-/

namespace AuthRealm.Text

/-- A charset. -/
inductive Charset where
  | utf8
  | utf8Signed
  | ascii
  | latin1
  | cp1252
  | utf16
  | utf16Little
  | utf16Big
  | foreign (name : String)
  deriving DecidableEq, Repr

/-- Why a name stands for no charset. -/
inductive CharsetError where
  | unknown (name : String)
  | notText (name : String)
  deriving DecidableEq, Repr

/-- The wording of a refusal. -/
def CharsetError.message : CharsetError → String
  | .unknown name => "unknown encoding: " ++ name
  | .notText name =>
    "'" ++ name ++ "' is not a text encoding; use codecs.open() to handle arbitrary codecs"

namespace Charset

/-- The charset with an entry of its own in the table of names. -/
def ofEntry : String → Charset
  | "utf_8" => .utf8
  | "utf_8_sig" => .utf8Signed
  | "ascii" => .ascii
  | "latin_1" => .latin1
  | "iso8859_1" => .latin1
  | "cp1252" => .cp1252
  | "utf_16" => .utf16
  | "utf_16_le" => .utf16Little
  | "utf_16_be" => .utf16Big
  | name => .foreign name

/-- The charset that a name stands for. -/
def ofName (name : String) : Except CharsetError Charset :=
  let normal := normalName name
  match entryNamed? charsetNames normal with
  | some entry => .ok (ofEntry entry)
  | none => if (entryNamed? transformNames normal).isSome then .error (.notText name)
    else .error (.unknown name)

end Charset

/-- Whether a name stands for anything at all, a charset or a mere transformation. -/
def isKnownName (name : String) : Bool :=
  match Charset.ofName name with
  | .error (.unknown _) => false
  | _ => true

/-! ### Malformed bytes -/

/-- What is wrong with a sequence of bytes. -/
inductive Flaw where
  | invalidStart
  | invalidContinuation
  | unexpectedEnd
  | truncated
  | illegalEncoding
  | illegalSurrogate
  | notAscii
  | undefinedCharacter
  deriving DecidableEq, Repr

/-- The wording of a flaw. -/
def Flaw.text : Flaw → String
  | .invalidStart => "invalid start byte"
  | .invalidContinuation => "invalid continuation byte"
  | .unexpectedEnd => "unexpected end of data"
  | .truncated => "truncated data"
  | .illegalEncoding => "illegal encoding"
  | .illegalSurrogate => "illegal UTF-16 surrogate"
  | .notAscii => "ordinal not in range(128)"
  | .undefinedCharacter => "character maps to <undefined>"

/-- Whether a flaw is only that the bytes end too soon. -/
def Flaw.isEnd : Flaw → Bool
  | .unexpectedEnd => true
  | .truncated => true
  | _ => false

/-- Why bytes spell no text: malformed bytes, with the decoder's name, their offset in the file and
in the piece being decoded; or sixteen-bit text that does not say its byte order. A decoder without
a table here may report malformed bytes in words of its own, or refuse a text without pointing to
any byte of it. -/
inductive DecodeError where
  | malformed (decoder : String) (offset position : Nat) (bytes : List UInt8) (flaw : Flaw)
  | noByteOrder
  | reported (wording : String)
  | refused (wording : String)
  deriving DecidableEq, Repr

/-- Whether an error points to malformed bytes. -/
def DecodeError.isReport : DecodeError → Bool
  | .malformed .. => true
  | .reported _ => true
  | .noByteOrder => false
  | .refused _ => false

/-- The wording of a refusal. -/
def DecodeError.message : DecodeError → String
  | .malformed decoder _ position bytes flaw =>
    let place :=
      match bytes with
      | [b] => "byte 0x" ++ String.ofList (hexDigits 2 b.toNat) ++ " in position " ++
          toString position
      | _ => "bytes in position " ++ toString position ++ "-" ++
          toString (position + bytes.length - 1)
    "'" ++ decoder ++ "' codec can't decode " ++ place ++ ": " ++ flaw.text
  | .noByteOrder => "UTF-16 stream does not start with BOM"
  | .reported wording => wording
  | .refused wording => wording

/-- What a machine's decoders make of the bytes of a whole file, for charsets without a table here.
A text is one of characters: lone halves of surrogate pairs, which the decoders of a few charsets
let through, have no place in it. -/
structure Decoders where
  decode (charset : String) (bytes : List UInt8) : Except DecodeError (List Char) :=
    .error (.refused ("no decoder for " ++ charset))

instance : Repr Decoders :=
  ⟨fun _ _ ↦ "decoders"⟩

/-- A name for a charset, and the decoders of the machine that reads it. -/
structure Encoding where
  name : String := "utf-8"
  decoders : Decoders := {}
  deriving Repr

namespace Charset

/-- The number of bytes that are decoded at a time. -/
def blockSize : Nat := 8192

/-- Where the piece began in which the byte at `offset` is looked at, for a sequence from `start`
in a piece from `base`: at the sequence itself if a block ended in between. -/
def baseAt (base start offset : Nat) : Nat :=
  if start / blockSize < offset / blockSize then start else base

/-- Where the piece began that holds the sequence after one from `start` up to `next`. -/
def nextBase (base start next : Nat) : Nat :=
  if next % blockSize = 0 then next else baseAt base start (next - 1)

/-- Whether a byte continues a sequence of UTF-8. -/
def isContinuation (b : UInt8) : Bool :=
  0x80 ≤ b && b ≤ 0xbf

/-- The low six bits of a continuation byte. -/
def low6 (b : UInt8) : Nat :=
  (b &&& 0x3f).toNat

/-- A refusal of the bytes from `start`, of which the one at `offset` decided it. -/
def malformedAt (decoder : String) (base start offset : Nat) (bytes : List UInt8) (flaw : Flaw) :
    Except DecodeError (List Char) :=
  .error (.malformed decoder start (start - baseAt base start offset) bytes flaw)

/-- A refusal of the last bytes of a file, which alone are looked at again when it ends. -/
def unfinished (decoder : String) (start : Nat) (bytes : List UInt8) (flaw : Flaw) :
    Except DecodeError (List Char) :=
  .error (.malformed decoder start 0 bytes flaw)

/-! ### Charsets of one byte to a character -/

/-- One byte to a character, where `table` knows the byte. -/
def decodeBytes (decoder : String) (flaw : Flaw) (table : UInt8 → Option Char) :
    Nat → List UInt8 → Except DecodeError (List Char)
  | _, [] => .ok []
  | start, b :: r =>
    match table b with
    | some c => (decodeBytes decoder flaw table (start + 1) r).map (c :: ·)
    | none => .error (.malformed decoder start (start % blockSize) [b] flaw)

/-- The character of an ASCII byte. -/
def asciiChar? (b : UInt8) : Option Char :=
  if b < 0x80 then some (Char.ofNat b.toNat) else none

/-- What the bytes 0x80 to 0x9f stand for in code page 1252; zero where nothing. -/
def cp1252High : List Nat := [
  0x20ac, 0, 0x201a, 0x0192, 0x201e, 0x2026, 0x2020, 0x2021,
  0x02c6, 0x2030, 0x0160, 0x2039, 0x0152, 0, 0x017d, 0,
  0, 0x2018, 0x2019, 0x201c, 0x201d, 0x2022, 0x2013, 0x2014,
  0x02dc, 0x2122, 0x0161, 0x203a, 0x0153, 0, 0x017e, 0x0178]

/-- The character of a byte in code page 1252. -/
def cp1252Char? (b : UInt8) : Option Char :=
  if 0x80 ≤ b && b ≤ 0x9f then
    match cp1252High.getD (b.toNat - 0x80) 0 with
    | 0 => none
    | n => some (Char.ofNat n)
  else some (Char.ofNat b.toNat)

/-! ### UTF-8 -/

/-- Whether `b` may follow the first byte `a` of a sequence of three or four bytes. This keeps out
spellings longer than needed, surrogates and what lies beyond Unicode. -/
def mayFollow (a b : UInt8) : Bool :=
  isContinuation b &&
    (a != 0xe0 || 0xa0 ≤ b) && (a != 0xed || b ≤ 0x9f) &&
    (a != 0xf0 || 0x90 ≤ b) && (a != 0xf4 || b ≤ 0x8f)

/-- The name that messages about UTF-8 give it. -/
def utf8Name : String := "utf-8"

/-- The text of bytes in UTF-8, from offset `start` in a piece from `base`. -/
def decodeUtf8 : Nat → Nat → List UInt8 → Except DecodeError (List Char)
  | _, _, [] => .ok []
  | base, start, a :: r =>
    if a < 0x80 then
      (decodeUtf8 (nextBase base start (start + 1)) (start + 1) r).map (Char.ofNat a.toNat :: ·)
    else if a < 0xc2 || 0xf4 < a then
      malformedAt utf8Name base start start [a] .invalidStart
    else if a < 0xe0 then
      match r with
      | [] => unfinished utf8Name start [a] .unexpectedEnd
      | b :: r =>
        if isContinuation b then
          (decodeUtf8 (nextBase base start (start + 2)) (start + 2) r).map
            (Char.ofNat ((a &&& 0x1f).toNat * 64 + low6 b) :: ·)
        else malformedAt utf8Name base start (start + 1) [a] .invalidContinuation
    else if a < 0xf0 then
      match r with
      | [] => unfinished utf8Name start [a] .unexpectedEnd
      | b :: r =>
        if !mayFollow a b then
          if a = 0xed && isContinuation b then
            -- half of a surrogate is only refused once a third byte or the end is seen
            if r.isEmpty then unfinished utf8Name start [a] .invalidContinuation
            else malformedAt utf8Name base start (start + 2) [a] .invalidContinuation
          else malformedAt utf8Name base start (start + 1) [a] .invalidContinuation
        else
          match r with
          | [] => unfinished utf8Name start [a, b] .unexpectedEnd
          | c :: r =>
            if isContinuation c then
              (decodeUtf8 (nextBase base start (start + 3)) (start + 3) r).map
                (Char.ofNat (((a &&& 0xf).toNat * 64 + low6 b) * 64 + low6 c) :: ·)
            else malformedAt utf8Name base start (start + 2) [a, b] .invalidContinuation
    else
      match r with
      | [] => unfinished utf8Name start [a] .unexpectedEnd
      | b :: r =>
        if !mayFollow a b then
          malformedAt utf8Name base start (start + 1) [a] .invalidContinuation
        else
          match r with
          | [] => unfinished utf8Name start [a, b] .unexpectedEnd
          | c :: r =>
            if !isContinuation c then
              malformedAt utf8Name base start (start + 2) [a, b] .invalidContinuation
            else
              match r with
              | [] => unfinished utf8Name start [a, b, c] .unexpectedEnd
              | d :: r =>
                if isContinuation d then
                  (decodeUtf8 (nextBase base start (start + 4)) (start + 4) r).map
                    (Char.ofNat
                      ((((a &&& 7).toNat * 64 + low6 b) * 64 + low6 c) * 64 + low6 d) :: ·)
                else malformedAt utf8Name base start (start + 3) [a, b, c] .invalidContinuation

/-- UTF-8 behind an optional signature. A file that ends inside the signature is empty. -/
def decodeUtf8Signed (bytes : List UInt8) : Except DecodeError (List Char) :=
  if bytes = [0xef] || bytes = [0xef, 0xbb] then .ok []
  else
    match bytes with
    | 0xef :: 0xbb :: 0xbf :: r => decodeUtf8 3 3 r
    | _ => decodeUtf8 0 0 bytes

/-! ### UTF-16 -/

/-- Whether a unit is the first, or the second, half of a surrogate pair. -/
def isHighHalf (u : Nat) : Bool := 0xd800 ≤ u && u < 0xdc00
def isLowHalf (u : Nat) : Bool := 0xdc00 ≤ u && u < 0xe000

/-- The unit that two bytes make. -/
def unit (big : Bool) (x y : UInt8) : Nat :=
  if big then x.toNat * 256 + y.toNat else y.toNat * 256 + x.toNat

/-- The name that messages about UTF-16 give it. -/
def utf16Name (big : Bool) : String :=
  if big then "utf-16-be" else "utf-16-le"

/-- The text of bytes in UTF-16 of a known byte order. -/
def decodeUtf16 (big : Bool) : Nat → Nat → List UInt8 → Except DecodeError (List Char)
  | _, _, [] => .ok []
  | _, start, [x] => unfinished (utf16Name big) start [x] .truncated
  | base, start, x :: y :: r =>
    let u := unit big x y
    if isLowHalf u then
      malformedAt (utf16Name big) base start start [x, y] .illegalEncoding
    else if isHighHalf u then
      match r with
      | [] => unfinished (utf16Name big) start [x, y] .unexpectedEnd
      | [z] => unfinished (utf16Name big) start [x, y, z] .unexpectedEnd
      | z :: w :: r =>
        let v := unit big z w
        if isLowHalf v then
          (decodeUtf16 big (nextBase base start (start + 4)) (start + 4) r).map
            (Char.ofNat (0x10000 + (u - 0xd800) * 1024 + (v - 0xdc00)) :: ·)
        else malformedAt (utf16Name big) base start (start + 2) [x, y] .illegalSurrogate
    else
      (decodeUtf16 big (nextBase base start (start + 2)) (start + 2) r).map (Char.ofNat u :: ·)

/-- UTF-16 that says its byte order. Without a byte order mark the first block is still decoded, as
little-endian, before the text is refused; what is malformed in it is found first. -/
def decodeUtf16Marked : List UInt8 → Except DecodeError (List Char)
  | 0xff :: 0xfe :: r => decodeUtf16 false 0 2 r
  | 0xfe :: 0xff :: r => decodeUtf16 true 0 2 r
  | bytes =>
    match decodeUtf16 false 0 0 (bytes.take blockSize) with
    | .ok [] => .ok []
    | .ok _ => .error .noByteOrder
    | .error (.malformed decoder offset position bad flaw) =>
      if flaw.isEnd && offset != 0 then .error .noByteOrder
      else .error (.malformed decoder offset position bad flaw)
    | .error e => .error e

/-! ### All of them -/

/-- The text that bytes spell in a charset, on a machine with some decoders. -/
def decode (decoders : Decoders) (charset : Charset) (bytes : List UInt8) :
    Except DecodeError (List Char) :=
  match charset with
  | .utf8 => decodeUtf8 0 0 bytes
  | .utf8Signed => decodeUtf8Signed bytes
  | .ascii => decodeBytes "ascii" .notAscii asciiChar? 0 bytes
  | .latin1 => .ok (bytes.map fun b ↦ Char.ofNat b.toNat)
  | .cp1252 => decodeBytes "charmap" .undefinedCharacter cp1252Char? 0 bytes
  | .utf16 => decodeUtf16Marked bytes
  | .utf16Little => decodeUtf16 false 0 0 bytes
  | .utf16Big => decodeUtf16 true 0 0 bytes
  | .foreign name => decoders.decode name bytes

end Charset

end AuthRealm.Text
