/-!
# Base 64

Three bytes to four characters, with `=` filling the last group. `encode` is the canonical writer;
`decode?` is the lenient reader that the Basic scheme of HTTP needs: it passes over characters
outside the alphabet, stops at complete padding, and fails only on an incomplete last group.
-/

namespace AuthRealm.Text.Base64

/-- The sixty-four characters, by value. -/
def alphabet : List Char :=
  "ABCDEFGHIJKLMNOPQRSTUVWXYZabcdefghijklmnopqrstuvwxyz0123456789+/".toList

/-- The character of a value below sixty-four. -/
def char (v : Nat) : Char :=
  alphabet.getD (v % 64) 'A'

/-- The value of a character of the alphabet. -/
def value? (c : Char) : Option Nat :=
  alphabet.findIdx? (· == c)

/-- The text of a byte string. -/
def encode : List UInt8 → List Char
  | [] => []
  | [a] =>
    let v := a.toNat * 16
    [char (v / 64), char v, '=', '=']
  | [a, b] =>
    let v := (a.toNat * 256 + b.toNat) * 4
    [char (v / 4096), char (v / 64), char v, '=']
  | a :: b :: c :: r =>
    let v := (a.toNat * 256 + b.toNat) * 256 + c.toNat
    char (v / 262144) :: char (v / 4096) :: char (v / 64) :: char v :: encode r

/-! ### Reading -/

/-- What has been read: bytes in reverse, the characters of the open group with the bits of the last
one that are still to be used, and the filling characters since. -/
structure Progress where
  bytes : List UInt8 := []
  count : Nat := 0
  bits : Nat := 0
  fill : Nat := 0
  deriving DecidableEq, Repr

/-- One more character of the alphabet. Each character but the first of a group completes a byte
with six, four or two of its bits. -/
def Progress.add (p : Progress) (v : Nat) : Progress :=
  match p.count with
  | 0 => { p with count := 1, bits := v, fill := 0 }
  | 1 => ⟨UInt8.ofNat (p.bits * 4 + v / 16) :: p.bytes, 2, v % 16, 0⟩
  | 2 => ⟨UInt8.ofNat (p.bits * 16 + v / 4) :: p.bytes, 3, v % 4, 0⟩
  | _ => ⟨UInt8.ofNat (p.bits * 64 + v) :: p.bytes, 0, 0, 0⟩

/-- Reads on from what has been read. A group is complete with four characters, filling included,
of which two are of the alphabet; behind filling that completes a group nothing is read. -/
def decodeFrom (p : Progress) : List Char → Option (List UInt8)
  | [] => if p.count = 0 then some p.bytes.reverse else none
  | c :: r =>
    if c = '=' then
      if 2 ≤ p.count && 4 ≤ p.count + p.fill + 1 then some p.bytes.reverse
      else decodeFrom { p with fill := if 2 ≤ p.count then p.fill + 1 else p.fill } r
    else
      match value? c with
      | some v => decodeFrom (p.add v) r
      | none => decodeFrom p r

/-- The bytes that a text spells. -/
def decode? (s : List Char) : Option (List UInt8) :=
  decodeFrom {} s

end AuthRealm.Text.Base64
