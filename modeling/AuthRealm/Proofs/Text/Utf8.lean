/-!
# Text as bytes

A text and the bytes that it is sent as. `toList_toUTF8` gives the bytes character by character, and
from it come the two facts that readers of credentials rest on: **the bytes of a text are those of
that text alone** (`fromUTF8?_toUTF8`), and they are ASCII exactly when the text is
(`all_isAsciiByte_toUTF8`), in which case each byte is a character (`map_charOfByte_toUTF8`).
-/

/-! ### Byte strings -/

theorem ByteArray.toList_loop (bytes : ByteArray) (i : Nat) (r : List UInt8) :
    ByteArray.toList.loop bytes i r = r.reverse ++ bytes.data.toList.drop i := by
  fun_induction ByteArray.toList.loop bytes i r with
  | case1 i r h ih =>
    have hi : i < bytes.data.toList.length := by simpa using h
    have hget : bytes.get! i = bytes.data.toList[i] := by
      show bytes.data[i]! = _
      rw [getElem!_pos bytes.data i h, Array.getElem_toList]
    rw [ih, List.drop_eq_getElem_cons hi, List.reverse_cons, List.append_assoc, hget]
    rfl
  | case2 i r h =>
    have hi : bytes.data.toList.length ≤ i := by simpa using h
    rw [List.drop_eq_nil_of_le hi, List.append_nil]

/-- The list of a byte string is that of the array behind it. -/
theorem ByteArray.toList_eq (bytes : ByteArray) : bytes.toList = bytes.data.toList := by
  rw [ByteArray.toList, ByteArray.toList_loop, List.reverse_nil, List.nil_append, List.drop_zero]

theorem ByteArray.toList_inj {x y : ByteArray} (h : x.toList = y.toList) : x = y := by
  rw [ByteArray.toList_eq, ByteArray.toList_eq, Array.toList_inj] at h
  exact ByteArray.ext h

theorem ByteArray.mk_toList (bytes : ByteArray) : ByteArray.mk bytes.toList.toArray = bytes := by
  rw [ByteArray.toList_eq, Array.toArray_toList]

namespace AuthRealm.Text

/-! ### The bytes of a text -/

/-- A byte that stands for a character by itself. -/
def isAsciiByte (b : UInt8) : Bool := b < 0x80

/-- The character that a byte stands for by itself. -/
def charOfByte (b : UInt8) : Char := Char.ofNat b.toNat

/-- A text is sent character by character. -/
theorem toList_toUTF8 (s : String) : s.toUTF8.toList = s.toList.flatMap String.utf8EncodeChar := by
  have spelt : s.toUTF8 = s.toList.utf8Encode := by
    rw [String.toUTF8_eq_toByteArray, ← String.toByteArray_ofList, String.ofList_toList]
  rw [spelt, ByteArray.toList_eq, List.utf8Encode, List.data_toByteArray]

theorem toList_toUTF8_append (s r : String) :
    (s ++ r).toUTF8.toList = s.toUTF8.toList ++ r.toUTF8.toList := by
  rw [toList_toUTF8, String.toList_append, List.flatMap_append, ← toList_toUTF8, ← toList_toUTF8]

theorem length_toUTF8 (s : String) : s.toUTF8.toList.length = s.toUTF8.size := by
  rw [ByteArray.toList_eq]
  rfl

/-- **The bytes of a text are read as that text.** -/
theorem fromUTF8?_toUTF8 (s : String) : String.fromUTF8? s.toUTF8 = some s := by
  rw [String.toUTF8_eq_toByteArray]
  exact dif_pos s.isValidUTF8

theorem toUTF8_inj {s r : String} (h : s.toUTF8.toList = r.toUTF8.toList) : s = r := by
  have read := congrArg String.fromUTF8? (ByteArray.toList_inj h)
  rwa [fromUTF8?_toUTF8, fromUTF8?_toUTF8, Option.some.injEq] at read

/-- **Bytes are read as a text exactly if they are the bytes of it.** -/
theorem fromUTF8?_eq_some_iff {bytes : List UInt8} {s : String} :
    String.fromUTF8? (ByteArray.mk bytes.toArray) = some s ↔ bytes = s.toUTF8.toList := by
  constructor
  · intro h
    unfold String.fromUTF8? at h
    split at h
    · rename_i valid
      obtain rfl := Option.some.inj h
      have same : (String.fromUTF8 (ByteArray.mk bytes.toArray) valid).toUTF8 =
          ByteArray.mk bytes.toArray := rfl
      rw [same, ByteArray.toList_eq]
    · exact absurd h nofun
  · rintro rfl
    rw [ByteArray.mk_toList, fromUTF8?_toUTF8]

theorem utf8EncodeChar_of_ascii {c : Char} (ascii : c.toNat < 0x80) :
    String.utf8EncodeChar c = [UInt8.ofNat c.toNat] :=
  if_pos (show c.toNat ≤ 127 by omega)

/-- Among the bytes of a character that is not ASCII is one that stands for no character. -/
theorem exists_not_isAsciiByte {c : Char} (large : ¬ c.toNat < 0x80) :
    ∃ b ∈ String.utf8EncodeChar c, isAsciiByte b = false := by
  -- the first byte of a longer encoding has its high bits set
  have first : ∀ n < 64, isAsciiByte (UInt8.ofNat (n + 192)) = false := by decide
  have least : ¬ c.val.toNat ≤ 127 := by
    intro h
    have small : c.toNat ≤ 127 := h
    omega
  unfold String.utf8EncodeChar
  simp only
  rw [if_neg least]
  split
  · exact ⟨_, List.mem_cons_self, first (c.val.toNat / 64 % 32) (by omega)⟩
  · split
    · exact ⟨_, List.mem_cons_self, first (c.val.toNat / 4096 % 16 + 32) (by omega)⟩
    · exact ⟨_, List.mem_cons_self, first (c.val.toNat / 262144 % 8 + 48) (by omega)⟩

theorem isAsciiByte_ofNat : ∀ n < 0x80, isAsciiByte (UInt8.ofNat n) = true ∧
    charOfByte (UInt8.ofNat n) = Char.ofNat n := by
  decide

/-- **A text is ASCII exactly when its bytes are.** -/
theorem all_isAsciiByte_toUTF8 (s : String) :
    s.toUTF8.toList.all isAsciiByte = s.toList.all fun c ↦ c.toNat < 0x80 := by
  rw [toList_toUTF8, Bool.eq_iff_iff, List.all_eq_true, List.all_eq_true]
  constructor
  · intro bytes c hc
    refine decide_eq_true (Decidable.byContradiction fun large ↦ ?_)
    obtain ⟨b, hb, other⟩ := exists_not_isAsciiByte large
    have ascii := bytes b (List.mem_flatMap.2 ⟨c, hc, hb⟩)
    exact absurd (ascii.symm.trans other) nofun
  · intro chars b hb
    obtain ⟨c, hc, hb⟩ := List.mem_flatMap.1 hb
    have ascii : c.toNat < 0x80 := of_decide_eq_true (chars c hc)
    rw [utf8EncodeChar_of_ascii ascii, List.mem_singleton] at hb
    exact hb ▸ (isAsciiByte_ofNat _ ascii).1

/-- **Each byte of an ASCII text is one of its characters.** -/
theorem map_charOfByte_toUTF8 {s : String} (ascii : s.toUTF8.toList.all isAsciiByte = true) :
    s.toUTF8.toList.map charOfByte = s.toList := by
  rw [all_isAsciiByte_toUTF8, List.all_eq_true] at ascii
  rw [toList_toUTF8]
  generalize s.toList = cs at ascii
  induction cs with
  | nil => rfl
  | cons c cs ih =>
    have small : c.toNat < 0x80 := of_decide_eq_true (ascii c List.mem_cons_self)
    have rest := ih fun d hd ↦ ascii d (List.mem_cons_of_mem _ hd)
    rw [List.flatMap_cons, List.map_append, rest, utf8EncodeChar_of_ascii small, List.map_singleton,
      (isAsciiByte_ofNat _ small).2, Char.ofNat_toNat, List.singleton_append]

/-- **ASCII bytes are read as their characters.** -/
theorem fromUTF8?_of_ascii {bytes : List UInt8} (ascii : bytes.all isAsciiByte = true) :
    String.fromUTF8? (ByteArray.mk bytes.toArray) =
      some (String.ofList (bytes.map charOfByte)) := by
  have sent : (String.ofList (bytes.map charOfByte)).toUTF8.toList = bytes := by
    rw [toList_toUTF8, String.toList_ofList]
    rw [List.all_eq_true] at ascii
    induction bytes with
    | nil => rfl
    | cons b bytes ih =>
      have small : b.toNat < 0x80 := by
        have h : b < 0x80 := of_decide_eq_true (ascii b List.mem_cons_self)
        simpa [UInt8.lt_iff_toNat_lt] using h
      have value : (charOfByte b).toNat = b.toNat := by
        have chars : ∀ n < 0x80, (Char.ofNat n).toNat = n := by decide
        exact chars _ small
      have first : String.utf8EncodeChar (charOfByte b) = [b] := by
        rw [utf8EncodeChar_of_ascii (value.symm ▸ small), value, UInt8.ofNat_toNat]
      rw [List.map_cons, List.flatMap_cons, first,
        ih fun d hd ↦ ascii d (List.mem_cons_of_mem _ hd), List.singleton_append]
  have same : ByteArray.mk bytes.toArray = (String.ofList (bytes.map charOfByte)).toUTF8 :=
    (congrArg (fun l : List UInt8 ↦ ByteArray.mk l.toArray) sent).symm.trans (ByteArray.mk_toList _)
  rw [same, fromUTF8?_toUTF8]

/-! ### Texts without NUL -/

/-- Only NUL has a byte that is zero. -/
theorem zero_notMem_utf8EncodeChar {c : Char} (h : c ≠ '\x00') : 0 ∉ String.utf8EncodeChar c := by
  have positive : c.toNat ≠ 0 := fun zero ↦ h (Char.toNat_inj.1 zero)
  -- bytes are small numbers, so each kind of them is looked through
  have only : ∀ n < 128, n ≠ 0 → 0 ≠ UInt8.ofNat n := by decide
  have first : ∀ n < 64, 0 ≠ UInt8.ofNat (n + 192) := by decide
  have later : ∀ n < 64, 0 ≠ UInt8.ofNat (n + 128) := by decide
  have cons {b : UInt8} {r : List UInt8} (hb : 0 ≠ b) (hr : 0 ∉ r) : 0 ∉ b :: r :=
    List.not_mem_cons_of_ne_of_not_mem hb hr
  unfold String.utf8EncodeChar
  simp only
  split
  · rename_i small
    exact cons (only _ (Nat.lt_succ_of_le small) positive) List.not_mem_nil
  · split
    · exact cons (first (c.val.toNat / 64 % 32) (by omega))
        (cons (later _ (by omega)) List.not_mem_nil)
    · split
      · exact cons (first (c.val.toNat / 4096 % 16 + 32) (by omega))
          (cons (later _ (by omega)) (cons (later _ (by omega)) List.not_mem_nil))
      · exact cons (first (c.val.toNat / 262144 % 8 + 48) (by omega))
          (cons (later _ (by omega)) (cons (later _ (by omega))
            (cons (later _ (by omega)) List.not_mem_nil)))

theorem zero_notMem_toUTF8 {s : String} (free : '\x00' ∉ s.toList) : 0 ∉ s.toUTF8.toList := by
  rw [toList_toUTF8]
  intro zero
  obtain ⟨c, hc, zero⟩ := List.mem_flatMap.1 zero
  exact zero_notMem_utf8EncodeChar (fun nul ↦ free (nul ▸ hc)) zero

end AuthRealm.Text
