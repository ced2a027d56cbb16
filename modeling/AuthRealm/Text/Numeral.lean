import AuthRealm.Text.Blank

/-!
# Integers in text

How an integer is read where a person may have written it: in the digits of any script, with
single underscores between digits, a sign, and blanks around it. The four separators of information
that are blank at the ends of a line are not blank here. At most 4300 digits are read.
-/

namespace AuthRealm.Text

/-- The code points of the digit zero in every script that writes decimal digits. In each script
the other nine digits follow in order. -/
def digitZeros : List Nat := [
  0x30, 0x660, 0x6f0, 0x7c0, 0x966, 0x9e6, 0xa66, 0xae6, 0xb66, 0xbe6, 0xc66, 0xce6, 0xd66, 0xde6,
  0xe50, 0xed0, 0xf20, 0x1040, 0x1090, 0x17e0, 0x1810, 0x1946, 0x19d0, 0x1a80, 0x1a90, 0x1b50,
  0x1bb0, 0x1c40, 0x1c50, 0xa620, 0xa8d0, 0xa900, 0xa9d0, 0xa9f0, 0xaa50, 0xabf0, 0xff10, 0x104a0,
  0x10d30, 0x11066, 0x110f0, 0x11136, 0x111d0, 0x112f0, 0x11450, 0x114d0, 0x11650, 0x116c0,
  0x11730, 0x118e0, 0x11950, 0x11c50, 0x11d50, 0x11da0, 0x16a60, 0x16ac0, 0x16b50, 0x1d7ce,
  0x1d7d8, 0x1d7e2, 0x1d7ec, 0x1d7f6, 0x1e140, 0x1e2f0, 0x1e950, 0x1fbf0]

/-- The value of a decimal digit of any script. -/
def digitValue? (c : Char) : Option Nat :=
  (digitZeros.find? fun z ↦ z ≤ c.toNat && c.toNat ≤ z + 9).map (c.toNat - ·)

/-- Digits with single underscores between them: the number, and how many digits. The two
arguments before the text are the number and the count so far, and `fresh` says that the next
character has to be a digit. -/
def readDigits : Bool → Nat → Nat → List Char → Option (Nat × Nat)
  | fresh, value, count, [] => if fresh then none else some (value, count)
  | fresh, value, count, c :: r =>
    match digitValue? c with
    | some d => readDigits false (10 * value + d) (count + 1) r
    | none => if c = '_' && !fresh then readDigits true value count r else none

/-- A character that may stand around an integer. -/
def isMargin (c : Char) : Bool :=
  isBlank c && !(0x1c ≤ c.toNat && c.toNat ≤ 0x1f)

/-- The text without what may stand around an integer. -/
def withoutMargins (s : List Char) : List Char :=
  ((s.dropWhile isMargin).reverse.dropWhile isMargin).reverse

/-- The most digits that are read. -/
def maxDigits : Nat := 4300

/-- The integer that a text writes, if it writes one. -/
def readInteger? (s : List Char) : Option Int :=
  let (negative, digits) :=
    match withoutMargins s with
    | '-' :: r => (true, r)
    | '+' :: r => (false, r)
    | r => (false, r)
  match readDigits true 0 0 digits with
  | some (n, count) =>
    if count ≤ maxDigits then some (if negative then -(n : Int) else n) else none
  | none => none

end AuthRealm.Text
