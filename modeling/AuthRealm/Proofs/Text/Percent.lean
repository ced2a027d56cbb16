import AuthRealm.Text.Percent

/-!
# What percent escapes do to a text

A text without an escape is read as it stands (`unescape_of_not_hasEscape`). **A text with an escape
becomes shorter** (`length_unescape_lt`): the three characters of an escape give one byte, and no
more characters than bytes are ever read from them, malformed or not (`length_decodeLossy_le`).
-/

namespace AuthRealm.Text

/-! ### Bytes and characters -/

namespace Charset

/-- A decoder reads no more characters than it has bytes, and refuses a byte that it has. -/
def StaysWithin (start : Nat) (bytes : List UInt8) : Except DecodeError (List Char) → Prop
  | .ok s => s.length ≤ bytes.length
  | .error (.malformed _ offset _ _ _) => start ≤ offset ∧ offset < start + bytes.length
  | .error _ => True

/-- One more character in front takes at least one byte. -/
theorem StaysWithin.map {start taken : Nat} {bytes rest : List UInt8} {c : Char}
    {read : Except DecodeError (List Char)} (h : StaysWithin (start + taken) rest read)
    (length : bytes.length = rest.length + taken) (some : 0 < taken) :
    StaysWithin start bytes (read.map (c :: ·)) := by
  cases read with
  | ok s =>
    have := h
    simp only [Except.map, StaysWithin, List.length_cons] at this ⊢
    omega
  | error e =>
    cases e with
    | malformed _ offset _ _ _ =>
      obtain ⟨first, last⟩ := h
      exact ⟨by omega, by omega⟩
    | noByteOrder | reported | refused => exact trivial

theorem staysWithin_malformedAt {base start offset : Nat} {bytes bad : List UInt8} {flaw : Flaw}
    (nonempty : 0 < bytes.length) :
    StaysWithin start bytes (malformedAt utf8Name base start offset bad flaw) :=
  ⟨Nat.le_refl start, by omega⟩

theorem staysWithin_unfinished {start : Nat} {bytes bad : List UInt8} {flaw : Flaw}
    (nonempty : 0 < bytes.length) :
    StaysWithin start bytes (unfinished utf8Name start bad flaw) :=
  ⟨Nat.le_refl start, by omega⟩

theorem staysWithin_decodeUtf8 (base start : Nat) (bytes : List UInt8) :
    StaysWithin start bytes (decodeUtf8 base start bytes) := by
  -- each branch refuses a sequence, or reads a character and goes on
  fun_induction decodeUtf8 base start bytes <;>
    first
    | exact Nat.le_refl 0
    | exact staysWithin_malformedAt (by simp)
    | exact staysWithin_unfinished (by simp)
    | (rename_i rest
       exact rest.map rfl (by decide))

/-- No more characters are read than there are bytes. -/
theorem length_le_of_decodeUtf8 {base start : Nat} {bytes : List UInt8} {s : List Char}
    (read : decodeUtf8 base start bytes = .ok s) : s.length ≤ bytes.length := by
  have within := staysWithin_decodeUtf8 base start bytes
  rwa [read] at within

end Charset

/-- **No more characters are read than there are bytes**, malformed or not. -/
theorem length_decodeLossy_le (bytes : List UInt8) :
    (decodeLossy bytes).length ≤ bytes.length := by
  fun_induction decodeLossy bytes with
  | case1 bytes s read => exact Charset.length_le_of_decodeUtf8 read
  | case2 bytes decoder offset position bad flaw read ih =>
    have within := Charset.staysWithin_decodeUtf8 0 0 bytes
    rw [read] at within
    obtain ⟨-, within⟩ := within
    -- a flaw stands for one character and skips one byte at least
    have start :
        ((Charset.decodeUtf8 0 0 (bytes.take offset)).toOption.getD []).length ≤ offset := by
      cases taken : Charset.decodeUtf8 0 0 (bytes.take offset) with
      | error e => exact Nat.zero_le offset
      | ok s =>
        have short := Charset.length_le_of_decodeUtf8 taken
        rw [List.length_take] at short
        exact Nat.le_trans short (Nat.min_le_left ..)
    rw [List.length_drop] at ih
    rw [List.length_append, List.length_cons]
    omega
  | case3 => exact Nat.zero_le _

/-! ### Escapes -/

/-- **A text has an escape**: a percent sign in front of two hexadecimal digits. -/
def HasEscape (s : List Char) : Prop :=
  ∃ before a b after, s = before ++ '%' :: a :: b :: after ∧
    (hexValue? a).isSome = true ∧ (hexValue? b).isSome = true

theorem hasEscape_cons {c : Char} {s : List Char} (h : HasEscape s) : HasEscape (c :: s) := by
  obtain ⟨before, a, b, after, rfl, first, second⟩ := h
  exact ⟨c :: before, a, b, after, rfl, first, second⟩

/-- An escape is at the start of a text or behind its first character. -/
theorem hasEscape_cons_iff {c : Char} {s : List Char} : HasEscape (c :: s) ↔
    (∃ a b after, c :: s = '%' :: a :: b :: after ∧ (hexValue? a).isSome = true ∧
      (hexValue? b).isSome = true) ∨ HasEscape s := by
  constructor
  · rintro ⟨before, a, b, after, cut, first, second⟩
    cases before with
    | nil => exact .inl ⟨a, b, after, cut, first, second⟩
    | cons d before =>
      obtain ⟨rfl, rfl⟩ := List.cons.inj cut
      exact .inr ⟨before, a, b, after, rfl, first, second⟩
  · rintro (⟨a, b, after, cut, first, second⟩ | later)
    · exact ⟨[], a, b, after, cut, first, second⟩
    · exact hasEscape_cons later

theorem decodeLossy_nil : decodeLossy [] = [] := by
  rw [decodeLossy.eq_def]
  rfl

/-- Where no escape follows, the bytes in front are read and the text stands behind them. -/
theorem unescapeFrom_of_not_hasEscape {s : List Char} (bytes : List UInt8) (h : ¬ HasEscape s) :
    unescapeFrom bytes s = decodeLossy bytes.reverse ++ s := by
  fun_induction unescapeFrom bytes s with
  | case1 bytes a b r x y second first ih =>
    exact absurd ⟨[], a, b, r, rfl, by rw [first]; rfl, by rw [second]; rfl⟩ h
  | case2 bytes a b r others ih =>
    have rest := ih (mt hasEscape_cons h)
    rw [rest]
    simp [decodeLossy_nil]
  | case3 bytes c r others ih =>
    rw [ih (mt hasEscape_cons h)]
    simp [decodeLossy_nil]
  | case4 bytes => rw [List.append_nil]

/-- **Reading escapes makes no text longer, and one that has an escape shorter.** -/
theorem length_unescapeFrom (bytes : List UInt8) (s : List Char) :
    (unescapeFrom bytes s).length ≤ bytes.length + s.length ∧
      (HasEscape s → (unescapeFrom bytes s).length < bytes.length + s.length) := by
  have front (bytes : List UInt8) : (decodeLossy bytes.reverse).length ≤ bytes.length := by
    have length := length_decodeLossy_le bytes.reverse
    rwa [List.length_reverse] at length
  fun_induction unescapeFrom bytes s with
  | case1 bytes a b r x y second first ih =>
    -- three characters give one byte
    simp only [List.length_cons] at ih ⊢
    exact ⟨by omega, fun _ ↦ by omega⟩
  | case2 bytes a b r others ih =>
    have front := front bytes
    simp only [List.length_append, List.length_cons, List.length_nil, Nat.zero_add] at ih ⊢
    refine ⟨by omega, fun h ↦ ?_⟩
    rcases hasEscape_cons_iff.1 h with ⟨a', b', after, cut, first, second⟩ | later
    · obtain ⟨rfl, rfl, rfl⟩ : a = a' ∧ b = b' ∧ r = after := by simpa using cut
      obtain ⟨x, first⟩ := Option.isSome_iff_exists.1 first
      obtain ⟨y, second⟩ := Option.isSome_iff_exists.1 second
      exact absurd second (others x y first)
    · have shorter := ih.2 later
      omega
  | case3 bytes c r others ih =>
    have front := front bytes
    simp only [List.length_append, List.length_cons, List.length_nil, Nat.zero_add] at ih ⊢
    refine ⟨by omega, fun h ↦ ?_⟩
    rcases hasEscape_cons_iff.1 h with ⟨a, b, after, cut, first, second⟩ | later
    · obtain ⟨rfl, rfl⟩ := List.cons.inj cut
      exact absurd rfl (others a b after rfl)
    · have shorter := ih.2 later
      omega
  | case4 bytes =>
    rw [List.length_nil, Nat.add_zero]
    refine ⟨front bytes, ?_⟩
    rintro ⟨before, a, b, after, cut, -, -⟩
    exact absurd cut (by simp)

/-! ### A text with escapes read -/

theorem not_hasEscape_of_not_mem {s : List Char} (h : '%' ∉ s) : ¬ HasEscape s := by
  rintro ⟨before, a, b, after, rfl, -, -⟩
  exact h (List.mem_append_right _ List.mem_cons_self)

/-- **A text without an escape is read as it stands.** -/
theorem unescape_of_not_hasEscape {s : List Char} (h : ¬ HasEscape s) :
    unescape s = String.ofList s := by
  rw [unescape, unescapeFrom_of_not_hasEscape [] h, List.reverse_nil, decodeLossy_nil,
    List.nil_append, ite_self]

theorem toList_unescape (s : List Char) : (unescape s).toList = unescapeFrom [] s := by
  rw [unescape, String.toList_ofList]
  split
  · rfl
  · rename_i none
    have absent : '%' ∉ s := by simpa using none
    rw [unescapeFrom_of_not_hasEscape [] (not_hasEscape_of_not_mem absent), List.reverse_nil,
      decodeLossy_nil, List.nil_append]

theorem length_unescape_le (s : List Char) : (unescape s).toList.length ≤ s.length := by
  have length := (length_unescapeFrom [] s).1
  rwa [List.length_nil, Nat.zero_add, ← toList_unescape] at length

/-- **A text with an escape becomes shorter.** -/
theorem length_unescape_lt {s : List Char} (h : HasEscape s) :
    (unescape s).toList.length < s.length := by
  have length := (length_unescapeFrom [] s).2 h
  rwa [List.length_nil, Nat.zero_add, ← toList_unescape] at length

/-- A character in front that starts no escape stays there. -/
theorem toList_unescape_cons {c : Char} (s : List Char) (other : c ≠ '%') :
    (unescape (c :: s)).toList = c :: (unescape s).toList := by
  rw [toList_unescape, toList_unescape, unescapeFrom.eq_def]
  split
  · rename_i same
    exact absurd (List.cons.inj same).1 other
  · rename_i same
    obtain ⟨rfl, rfl⟩ := List.cons.inj same
    rw [List.reverse_nil, decodeLossy_nil, List.nil_append]
  · rename_i same
    cases same

end AuthRealm.Text
