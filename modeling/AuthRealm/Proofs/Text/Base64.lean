import AuthRealm.Text.Base64
import AuthRealm.Text.Blank

/-!
# Base 64 is read as it was written

The reader of base 64 is lenient, and the writer is not. Whatever the writer writes, the reader
gives the bytes back (`decode?_encode`): by induction along the groups of three, with what has been
read so far as a parameter, since the reader goes on from there.

Written base 64 has ASCII characters alone and no blank (`isVisible_of_mem_encode`), so that it
passes unchanged through whatever reads the header that it stands in.
-/

namespace AuthRealm.Text.Base64

/-! ### Characters -/

theorem char_mod (v : Nat) : char (v % 64) = char v := by
  rw [char, Nat.mod_mod, char]

theorem value?_char_of_lt : ∀ v < 64, value? (char v) = some v ∧ char v ≠ '=' := by
  decide +kernel

/-- A character of the alphabet is read as its value. -/
theorem decodeFrom_char (p : Progress) (v : Nat) (r : List Char) :
    decodeFrom p (char v :: r) = decodeFrom (p.add (v % 64)) r := by
  obtain ⟨value, other⟩ := value?_char_of_lt (v % 64) (Nat.mod_lt v (by decide))
  rw [char_mod] at value other
  rw [decodeFrom, if_neg other, value]

/-! ### Groups -/

theorem ofNat_eq {n : Nat} {b : UInt8} (h : n = b.toNat) : UInt8.ofNat n = b := by
  rw [h, UInt8.ofNat_toNat]

/-- The first two characters of a group hold its first byte. -/
theorem add_add (read : List UInt8) {v w : Nat} {a : UInt8} (first : v * 4 + w / 16 = a.toNat) :
    (Progress.add { bytes := read } v).add w = ⟨a :: read, 2, w % 16, 0⟩ := by
  show Progress.mk (UInt8.ofNat (v * 4 + w / 16) :: read) 2 (w % 16) 0 = _
  rw [ofNat_eq first]

/-- The third character completes the second byte. -/
theorem add_third (read : List UInt8) {bits w : Nat} {b : UInt8}
    (second : bits * 16 + w / 4 = b.toNat) :
    Progress.add ⟨read, 2, bits, 0⟩ w = ⟨b :: read, 3, w % 4, 0⟩ := by
  show Progress.mk (UInt8.ofNat (bits * 16 + w / 4) :: read) 3 (w % 4) 0 = _
  rw [ofNat_eq second]

/-- The fourth character completes the third byte, and the group. -/
theorem add_fourth (read : List UInt8) {bits w : Nat} {c : UInt8}
    (third : bits * 64 + w = c.toNat) :
    Progress.add ⟨read, 3, bits, 0⟩ w = { bytes := c :: read } := by
  show Progress.mk (UInt8.ofNat (bits * 64 + w) :: read) 0 0 0 = _
  rw [ofNat_eq third]

/-- **Reading undoes writing**, behind whatever bytes have been read. -/
theorem decodeFrom_encode (bytes read : List UInt8) :
    decodeFrom { bytes := read } (encode bytes) = some (read.reverse ++ bytes) := by
  -- by the code's own cases: one, two or three bytes left, or three and more to come
  induction bytes using encode.induct generalizing read with
  | case1 => simp [encode, decodeFrom]
  | case2 a =>
    have ha := a.toNat_lt
    rw [encode, decodeFrom_char, decodeFrom_char, add_add (a := a) read (by omega)]
    simp [decodeFrom]
  | case3 a b =>
    have ha := a.toNat_lt
    have hb := b.toNat_lt
    rw [encode, decodeFrom_char, decodeFrom_char, decodeFrom_char, add_add (a := a) read (by omega),
      add_third (b := b) _ (by omega)]
    simp [decodeFrom]
  | case4 a b c r ih =>
    have ha := a.toNat_lt
    have hb := b.toNat_lt
    have hc := c.toNat_lt
    rw [encode, decodeFrom_char, decodeFrom_char, decodeFrom_char, decodeFrom_char,
      add_add (a := a) read (by omega), add_third (b := b) _ (by omega),
      add_fourth (c := c) _ (by omega), ih]
    simp

/-- **Base 64 is read as the bytes that were written.** -/
theorem decode?_encode (bytes : List UInt8) : decode? (encode bytes) = some bytes :=
  decodeFrom_encode bytes []

/-! ### What is written -/

/-- Whether a character is ASCII and has a form of its own. -/
def isVisible (c : Char) : Bool :=
  c.toNat < 0x80 && !isBlank c

theorem isVisible_char (v : Nat) : isVisible (char v) = true := by
  have all : alphabet.all isVisible = true := by decide +kernel
  have bound : v % 64 < alphabet.length := Nat.mod_lt v (by decide)
  rw [char, List.getD_eq_getElem?_getD, List.getElem?_eq_getElem bound, Option.getD_some]
  exact List.all_eq_true.1 all _ (List.getElem_mem bound)

/-- Nothing but visible ASCII characters is written. -/
theorem isVisible_of_mem_encode {bytes : List UInt8} {c : Char} (h : c ∈ encode bytes) :
    isVisible c = true := by
  have filling : isVisible '=' = true := by decide
  induction bytes using encode.induct with
  | case1 => exact absurd h List.not_mem_nil
  | case2 a =>
    simp only [encode, List.mem_cons, List.not_mem_nil, or_false] at h
    rcases h with rfl | rfl | rfl | rfl
    · exact isVisible_char _
    · exact isVisible_char _
    · exact filling
    · exact filling
  | case3 a b =>
    simp only [encode, List.mem_cons, List.not_mem_nil, or_false] at h
    rcases h with rfl | rfl | rfl | rfl
    · exact isVisible_char _
    · exact isVisible_char _
    · exact isVisible_char _
    · exact filling
  | case4 a b c r ih =>
    simp only [encode, List.mem_cons] at h
    rcases h with rfl | rfl | rfl | rfl | h
    · exact isVisible_char _
    · exact isVisible_char _
    · exact isVisible_char _
    · exact isVisible_char _
    · exact ih h

/-- There is no blank in what is written, so trimming leaves it as it is. -/
theorem trim_encode (bytes : List UInt8) : trim (encode bytes) = encode bytes := by
  have notBlank : ∀ c ∈ encode bytes, isBlank c = false := by
    intro c hc
    have visible := isVisible_of_mem_encode hc
    rw [isVisible, Bool.and_eq_true, Bool.not_eq_true'] at visible
    exact visible.2
  exact trim_eq_self (fun c hc ↦ notBlank c (List.mem_of_mem_head? hc))
    fun c hc ↦ notBlank c (List.mem_of_getLast? hc)

end AuthRealm.Text.Base64
