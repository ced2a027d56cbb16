import AuthRealm.Proofs.Text.Utf8
import AuthRealm.Text.Charset

/-!
# UTF-8 is read as it was written

The reader of files decodes UTF-8 byte by byte and keeps count of offsets, for the sake of its
reports about malformed bytes. On the bytes of a text there is nothing to report: **they are read as
that text**, at every offset (`decodeUtf8_flatMap`), character by character along the text.

A character is written in one to four bytes. Which of the four cases the reader takes is decided by
the first byte, and every further byte is one that may stand there; both are facts about the few
values that each byte can have, so they are checked value by value.
-/

namespace AuthRealm.Text.Charset

/-! ### The bytes of a character -/

/-- The byte of six low bits. -/
theorem isContinuation_ofNat : ∀ n < 64, isContinuation (UInt8.ofNat (n + 128)) = true ∧
    low6 (UInt8.ofNat (n + 128)) = n := by
  decide

/-- The byte of a character of seven bits. -/
theorem ofNat_lt_of_ascii : ∀ n < 128, UInt8.ofNat n < 0x80 ∧ (UInt8.ofNat n).toNat = n := by
  decide

/-- The first of two bytes. -/
theorem first_of_two : ∀ n < 32, 2 ≤ n →
    ¬ UInt8.ofNat (n + 192) < 0x80 ∧
      (UInt8.ofNat (n + 192) < 0xc2 || 0xf4 < UInt8.ofNat (n + 192)) = false ∧
      UInt8.ofNat (n + 192) < 0xe0 ∧ (UInt8.ofNat (n + 192) &&& 0x1f).toNat = n := by
  decide

/-- The first of three bytes. -/
theorem first_of_three : ∀ n < 16,
    ¬ UInt8.ofNat (n + 224) < 0x80 ∧
      (UInt8.ofNat (n + 224) < 0xc2 || 0xf4 < UInt8.ofNat (n + 224)) = false ∧
      ¬ UInt8.ofNat (n + 224) < 0xe0 ∧ UInt8.ofNat (n + 224) < 0xf0 ∧
      (UInt8.ofNat (n + 224) &&& 0xf).toNat = n := by
  decide

/-- The second of three bytes. Short spellings and surrogates have others. -/
theorem second_of_three : ∀ n < 16, ∀ m < 64, (n = 0 → 32 ≤ m) → (n = 13 → m < 32) →
    mayFollow (UInt8.ofNat (n + 224)) (UInt8.ofNat (m + 128)) = true := by
  decide

/-- The first of four bytes. -/
theorem first_of_four : ∀ n < 5,
    ¬ UInt8.ofNat (n + 240) < 0x80 ∧
      (UInt8.ofNat (n + 240) < 0xc2 || 0xf4 < UInt8.ofNat (n + 240)) = false ∧
      ¬ UInt8.ofNat (n + 240) < 0xe0 ∧ ¬ UInt8.ofNat (n + 240) < 0xf0 ∧
      (UInt8.ofNat (n + 240) &&& 7).toNat = n := by
  decide

/-- The second of four bytes. Short spellings and what lies beyond Unicode have others. -/
theorem second_of_four : ∀ n < 5, ∀ m < 64, (n = 0 → 16 ≤ m) → (n = 4 → m < 16) →
    mayFollow (UInt8.ofNat (n + 240)) (UInt8.ofNat (m + 128)) = true := by
  decide

/-! ### One character -/

variable {c : Char} (base start : Nat) (r : List UInt8)

/-- A code point is no surrogate and not beyond Unicode. -/
theorem toNat_cases (c : Char) : c.toNat < 0xd800 ∨ (0xdfff < c.toNat ∧ c.toNat < 0x110000) :=
  c.valid

theorem decodeUtf8_of_one (small : c.toNat < 0x80) :
    decodeUtf8 base start (String.utf8EncodeChar c ++ r) =
      (decodeUtf8 (nextBase base start (start + 1)) (start + 1) r).map (c :: ·) := by
  obtain ⟨ascii, value⟩ := ofNat_lt_of_ascii c.toNat small
  rw [utf8EncodeChar_of_ascii small, List.singleton_append, decodeUtf8.eq_def]
  simp only [ascii, value, if_true, Char.ofNat_toNat]

theorem decodeUtf8_of_two (least : ¬ c.toNat ≤ 0x7f) (most : c.toNat ≤ 0x7ff) :
    decodeUtf8 base start (String.utf8EncodeChar c ++ r) =
      (decodeUtf8 (nextBase base start (start + 2)) (start + 2) r).map (c :: ·) := by
  have spelt : String.utf8EncodeChar c = [UInt8.ofNat (c.toNat / 64 % 32 + 192),
      UInt8.ofNat (c.toNat % 64 + 128)] := (if_neg least).trans (if_pos most)
  obtain ⟨h₁, h₂, h₃, high⟩ := first_of_two (c.toNat / 64 % 32) (by omega) (by omega)
  obtain ⟨goesOn, low⟩ := isContinuation_ofNat (c.toNat % 64) (by omega)
  have value : c.toNat / 64 % 32 * 64 + c.toNat % 64 = c.toNat := by omega
  simp only [spelt, List.cons_append, List.nil_append, decodeUtf8.eq_def base start, h₁, h₂,
    h₃, high, goesOn, low, value, Char.ofNat_toNat, if_true, if_false, Bool.false_eq_true]

theorem decodeUtf8_of_three (least : ¬ c.toNat ≤ 0x7ff) (most : c.toNat ≤ 0xffff) :
    decodeUtf8 base start (String.utf8EncodeChar c ++ r) =
      (decodeUtf8 (nextBase base start (start + 3)) (start + 3) r).map (c :: ·) := by
  have spelt : String.utf8EncodeChar c = [UInt8.ofNat (c.toNat / 4096 % 16 + 224),
      UInt8.ofNat (c.toNat / 64 % 64 + 128), UInt8.ofNat (c.toNat % 64 + 128)] :=
    (if_neg (by show ¬ c.toNat ≤ 127; omega)).trans ((if_neg least).trans (if_pos most))
  have valid := toNat_cases c
  obtain ⟨h₁, h₂, h₃, h₄, high⟩ := first_of_three (c.toNat / 4096 % 16) (by omega)
  have follows := second_of_three (c.toNat / 4096 % 16) (by omega) (c.toNat / 64 % 64) (by omega)
    (by omega) (by omega)
  obtain ⟨-, middle⟩ := isContinuation_ofNat (c.toNat / 64 % 64) (by omega)
  obtain ⟨goesOn, low⟩ := isContinuation_ofNat (c.toNat % 64) (by omega)
  -- the three digits in base 64 make up the code point again
  have value : (c.toNat / 4096 % 16 * 64 + c.toNat / 64 % 64) * 64 + c.toNat % 64 = c.toNat := by
    omega
  simp only [spelt, List.cons_append, List.nil_append, decodeUtf8.eq_def base start, h₁, h₂,
    h₃, h₄, high, follows, middle, goesOn, low, value, Char.ofNat_toNat, if_true, if_false,
    Bool.false_eq_true, Bool.not_true]

theorem decodeUtf8_of_four (least : ¬ c.toNat ≤ 0xffff) :
    decodeUtf8 base start (String.utf8EncodeChar c ++ r) =
      (decodeUtf8 (nextBase base start (start + 4)) (start + 4) r).map (c :: ·) := by
  have spelt : String.utf8EncodeChar c = [UInt8.ofNat (c.toNat / 262144 % 8 + 240),
      UInt8.ofNat (c.toNat / 4096 % 64 + 128), UInt8.ofNat (c.toNat / 64 % 64 + 128),
      UInt8.ofNat (c.toNat % 64 + 128)] :=
    (if_neg (by show ¬ c.toNat ≤ 127; omega)).trans
      ((if_neg (by show ¬ c.toNat ≤ 2047; omega)).trans (if_neg least))
  have valid := toNat_cases c
  obtain ⟨h₁, h₂, h₃, h₄, high⟩ := first_of_four (c.toNat / 262144 % 8) (by omega)
  have follows := second_of_four (c.toNat / 262144 % 8) (by omega) (c.toNat / 4096 % 64) (by omega)
    (by omega) (by omega)
  obtain ⟨-, second⟩ := isContinuation_ofNat (c.toNat / 4096 % 64) (by omega)
  obtain ⟨goesOn, third⟩ := isContinuation_ofNat (c.toNat / 64 % 64) (by omega)
  obtain ⟨goesOn', low⟩ := isContinuation_ofNat (c.toNat % 64) (by omega)
  -- the four digits in base 64 make up the code point again
  have value : ((c.toNat / 262144 % 8 * 64 + c.toNat / 4096 % 64) * 64 + c.toNat / 64 % 64) * 64 +
      c.toNat % 64 = c.toNat := by omega
  simp only [spelt, List.cons_append, List.nil_append, decodeUtf8.eq_def base start, h₁, h₂,
    h₃, h₄, high, follows, second, goesOn, third, goesOn', low, value, Char.ofNat_toNat, if_true,
    if_false, Bool.false_eq_true, Bool.not_true]

/-- **A character is read as it was written**, whatever stands behind it. -/
theorem decodeUtf8_utf8EncodeChar (c : Char) :
    ∃ base' start', decodeUtf8 base start (String.utf8EncodeChar c ++ r) =
      (decodeUtf8 base' start' r).map (c :: ·) := by
  by_cases one : c.toNat ≤ 0x7f
  · exact ⟨_, _, decodeUtf8_of_one base start r (by omega)⟩
  by_cases two : c.toNat ≤ 0x7ff
  · exact ⟨_, _, decodeUtf8_of_two base start r one two⟩
  by_cases three : c.toNat ≤ 0xffff
  · exact ⟨_, _, decodeUtf8_of_three base start r two three⟩
  · exact ⟨_, _, decodeUtf8_of_four base start r three⟩

/-! ### A text -/

/-- **The bytes of a text are read as that text**, from every offset. -/
theorem decodeUtf8_flatMap (s : List Char) :
    decodeUtf8 base start (s.flatMap String.utf8EncodeChar) = .ok s := by
  induction s generalizing base start with
  | nil => rfl
  | cons c s ih =>
    obtain ⟨base', start', first⟩ :=
      decodeUtf8_utf8EncodeChar base start (s.flatMap String.utf8EncodeChar) c
    rw [List.flatMap_cons, first, ih base' start']
    rfl

/-- A file that holds the bytes of a text spells that text. -/
theorem decode_toUTF8 (decoders : Decoders) (s : String) :
    Charset.utf8.decode decoders s.toUTF8.toList = .ok s.toList := by
  rw [toList_toUTF8]
  exact decodeUtf8_flatMap 0 0 s.toList

end AuthRealm.Text.Charset
