/-!
# Hexadecimal digits

Numbers and bytes in base sixteen: written in lower case, read in either case. The value of a digit
that was written is the number it was written for (`hexValue?_hexDigit`), and bytes that were
written are read back (`hexBytes?_hexText`).
-/

namespace AuthRealm.Text

/-- A hexadecimal digit, in lower case. -/
def hexDigit (v : Nat) : Char :=
  "0123456789abcdef".toList.getD (v % 16) '0'

/-- The `n` low hexadecimal digits of a number, the highest first. -/
def hexDigits : Nat → Nat → List Char
  | 0, _ => []
  | n + 1, v => hexDigits n (v / 16) ++ [hexDigit v]

/-- A byte string in hexadecimal digits. -/
def hexText (bytes : List UInt8) : List Char :=
  bytes.flatMap fun b ↦ hexDigits 2 b.toNat

/-- The value of a hexadecimal digit. -/
def hexValue? (c : Char) : Option Nat :=
  if '0' ≤ c && c ≤ '9' then some (c.toNat - 48)
  else if 'a' ≤ c && c ≤ 'f' then some (c.toNat - 87)
  else if 'A' ≤ c && c ≤ 'F' then some (c.toNat - 55)
  else none

/-- The bytes that pairs of hexadecimal digits write. -/
def hexBytes? : List Char → Option (List UInt8)
  | [] => some []
  | [_] => none
  | a :: b :: r => do
    let high ← hexValue? a
    let low ← hexValue? b
    return UInt8.ofNat (16 * high + low) :: (← hexBytes? r)

/-- Reading a digit undoes writing it. -/
theorem hexValue?_hexDigit {v : Nat} (h : v < 16) : hexValue? (hexDigit v) = some v := by
  have : ∀ i : Fin 16, hexValue? (hexDigit i.val) = some i.val := by decide
  exact this ⟨v, h⟩

@[simp] theorem hexDigit_mod (v : Nat) : hexDigit (v % 16) = hexDigit v := by
  rw [hexDigit, Nat.mod_mod, hexDigit]

theorem hexDigits_two (v : Nat) : hexDigits 2 v = [hexDigit (v / 16), hexDigit v] := rfl

/-- A byte takes two digits. -/
theorem length_hexText (bytes : List UInt8) : (hexText bytes).length = 2 * bytes.length := by
  induction bytes with
  | nil => rfl
  | cons b r ih =>
    rw [hexText, List.flatMap_cons, List.length_append, hexDigits_two, ← hexText, ih,
      List.length_cons]
    simp only [List.length_cons, List.length_nil]
    omega

/-- Reading bytes undoes writing them. -/
theorem hexBytes?_hexText (bytes : List UInt8) : hexBytes? (hexText bytes) = some bytes := by
  induction bytes with
  | nil => rfl
  | cons b r ih =>
    have hb : b.toNat < 256 := b.toNat_lt
    -- a byte is two digits, each read back by itself
    have high : hexValue? (hexDigit (b.toNat / 16)) = some (b.toNat / 16) :=
      hexValue?_hexDigit (by omega)
    have low : hexValue? (hexDigit b.toNat) = some (b.toNat % 16) := by
      rw [← hexDigit_mod]
      exact hexValue?_hexDigit (Nat.mod_lt _ (by decide))
    have whole : UInt8.ofNat (16 * (b.toNat / 16) + b.toNat % 16) = b := by
      rw [Nat.div_add_mod, UInt8.ofNat_toNat]
    show hexBytes? (hexDigit (b.toNat / 16) :: hexDigit b.toNat :: hexText r) = some (b :: r)
    simp only [hexBytes?, high, low, ih, Option.bind_eq_bind, Option.bind_some, Option.pure_def,
      whole]

end AuthRealm.Text
