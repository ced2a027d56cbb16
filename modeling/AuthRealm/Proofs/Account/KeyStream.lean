import AuthRealm.Proofs.Account.Password
import AuthRealm.Proofs.Text.Utf8
import Mathlib.Data.List.GetD
import Mathlib.Data.List.TakeWhile

/-!
# Key streams

What the cipher reads of a password is its key stream: the bytes and a zero, over and over, cut off
after seventy-two. **A password without NUL is read back from its key stream**
(`takeWhile_keyStream`), since it is what stands before the first zero, or all of the stream if
there is none. So no two such passwords up to the limit have the same one, whatever the lengths: not
where one of them fills the stream and its zero is cut off, and not where the period of one is a
multiple of that of the other.

The limit cannot be greater: from seventy-two bytes on, the stream shows nothing of what follows
(`keyStream_of_length_le`). `limit_is_exact` puts the two together. NUL is another matter, and the
limit does not help there: a zero in a password looks like the one behind it.
-/

namespace AuthRealm.Account.Password

open Text

/-! ### What a key stream shows of a password -/

variable {p q : List UInt8}

theorem length_keyStream (p : List UInt8) : (keyStream p).length = maxBytes := by
  rw [keyStream, List.length_map, List.length_range]

/-- A key stream begins with the bytes and the zero, as far as there is room. -/
theorem take_keyStream {n : Nat} (room : n ≤ maxBytes) (first : n ≤ p.length + 1) :
    (keyStream p).take n = (p ++ [0]).take n := by
  refine List.ext_getElem (by simp [length_keyStream, room, first]) fun i hi hi' ↦ ?_
  rw [List.length_take] at hi hi'
  have place : i % (p.length + 1) = i := Nat.mod_eq_of_lt (by omega)
  rw [List.getElem_take, List.getElem_take]
  simp only [keyStream, List.getElem_map, List.getElem_range, place]
  exact List.getD_eq_getElem _ _ _

/-- A password that fills the key stream leaves no room for the zero or what follows. -/
theorem keyStream_of_length_le (long : maxBytes ≤ p.length) : keyStream p = p.take maxBytes := by
  have all := take_keyStream (p := p) le_rfl (by omega)
  rwa [List.take_of_length_le (length_keyStream p).le, List.take_append_of_le_length long] at all

/-- So what follows does not show either. -/
theorem keyStream_append (filled : maxBytes ≤ p.length) (r : List UInt8) :
    keyStream (p ++ r) = keyStream p := by
  have longer : maxBytes ≤ (p ++ r).length :=
    filled.trans (List.length_append ▸ Nat.le_add_right _ _)
  rw [keyStream_of_length_le longer, keyStream_of_length_le filled,
    List.take_append_of_le_length filled]

/-- **A password is read back from its key stream**: it is what stands before the first zero. -/
theorem takeWhile_keyStream (free : 0 ∉ p) (short : p.length ≤ maxBytes) :
    (keyStream p).takeWhile (· != 0) = p := by
  have kept : ∀ b ∈ p, (b != 0) = true := fun b hb ↦ bne_iff_ne.2 fun zero ↦ free (zero ▸ hb)
  rcases short.lt_or_eq with room | full
  · rw [← List.take_append_drop (p.length + 1) (keyStream p), take_keyStream (by omega) le_rfl,
      List.take_of_length_le (by simp), List.append_assoc, List.takeWhile_append_of_pos kept]
    simp
  · rw [keyStream_of_length_le full.ge, ← full, List.take_length, List.takeWhile_eq_self_iff.2 kept]

theorem keyStream_injective (free : 0 ∉ p) (free' : 0 ∉ q) (short : p.length ≤ maxBytes)
    (short' : q.length ≤ maxBytes) (same : keyStream p = keyStream q) : p = q := by
  rw [← takeWhile_keyStream free short, same, takeWhile_keyStream free' short']

/-- The zero behind a password looks like one in it. -/
example : keyStream [97] = keyStream [97, 0, 97] := by
  decide

/-- A hash shows no more of a password than its key stream. -/
theorem hashUnder_congr (salt : Salt) (same : keyStream p = keyStream q) :
    hashUnder salt p = hashUnder salt q := by
  simp only [hashUnder, same]

/-! ### The limit -/

/-- **The limit of seventy-two bytes is exactly right.**

* Up to it, two passwords without NUL have hashes under every text of a salt, and their key streams
  are different if they are. So neither is hashed as the other.
* Beyond it there is no hash, and could be none: whatever follows seventy-two bytes, the key stream
  and every hash would be those of the seventy-two bytes alone. -/
theorem limit_is_exact :
    (∀ plain other : String, plain ≠ other → '\x00' ∉ plain.toList → '\x00' ∉ other.toList →
        plain.toUTF8.size ≤ 72 → other.toUTF8.size ≤ 72 →
      (∀ (salt : Salt) (text : String), salt.Spells text.toList →
          hash text plain = .ok (String.ofList (hashUnder salt plain.toUTF8.toList)) ∧
          hash text other = .ok (String.ofList (hashUnder salt other.toUTF8.toList))) ∧
        keyStream plain.toUTF8.toList ≠ keyStream other.toUTF8.toList) ∧
      ∀ plain more : String, plain.toUTF8.size = 72 → more ≠ "" →
        (∀ text, hash text (plain ++ more) = .error .tooLong) ∧
          keyStream (plain ++ more).toUTF8.toList = keyStream plain.toUTF8.toList ∧
          ∀ salt, hashUnder salt (plain ++ more).toUTF8.toList =
            hashUnder salt plain.toUTF8.toList := by
  constructor
  · -- neither text has a NUL, so the first one in the stream ends the text
    intro plain other different free free' short short'
    refine ⟨fun salt text spells ↦ ⟨hash_of_spells (tooLong_eq_false_iff.2 short) spells,
      hash_of_spells (tooLong_eq_false_iff.2 short') spells⟩, fun same ↦ different ?_⟩
    exact toUTF8_inj (keyStream_injective (zero_notMem_toUTF8 free) (zero_notMem_toUTF8 free')
      ((length_toUTF8 plain).trans_le short) ((length_toUTF8 other).trans_le short') same)
  · -- seventy-two bytes fill the stream, so nothing behind them is read
    intro plain more full some
    have filled : maxBytes ≤ plain.toUTF8.toList.length := ((length_toUTF8 plain).trans full).ge
    have same : keyStream (plain ++ more).toUTF8.toList = keyStream plain.toUTF8.toList := by
      rw [toList_toUTF8_append, keyStream_append filled]
    refine ⟨fun text ↦ hash_of_tooLong (tooLong_eq_true_iff.2 ?_), same,
      fun salt ↦ hashUnder_congr salt same⟩
    have size : (plain ++ more).toUTF8.size = plain.toUTF8.size + more.toUTF8.size :=
      String.utf8ByteSize_append
    have positive : 0 < more.toUTF8.size :=
      Nat.pos_of_ne_zero fun zero ↦ some (String.utf8ByteSize_eq_zero_iff.1 zero)
    rw [size, full]
    exact Nat.lt_add_of_pos_right positive

/-- Of one letter as often as the cipher reads bytes and of one fewer the key streams differ, though
only in the last byte; and one more makes no difference. -/
theorem limit_is_exact_for_one_letter :
    let times (n : Nat) : String := String.ofList (List.replicate n 'x')
    keyStream (times 72).toUTF8.toList ≠ keyStream (times 71).toUTF8.toList ∧
      keyStream (times 72 ++ "x").toUTF8.toList = keyStream (times 72).toUTF8.toList := by
  intro times
  have size (n : Nat) : (times n).toUTF8.size = n := by
    have one : String.utf8EncodeChar 'x' = [120] := rfl
    rw [← length_toUTF8, toList_toUTF8, String.toList_ofList, List.length_flatMap,
      List.map_replicate, one, List.sum_replicate_nat, List.length_singleton, Nat.mul_one]
  have free (n : Nat) : '\x00' ∉ (times n).toList := by
    rw [String.toList_ofList]
    exact fun nul ↦ absurd (List.eq_of_mem_replicate nul) (by decide)
  have different : times 72 ≠ times 71 := fun same ↦
    absurd ((size 72).symm.trans ((congrArg (·.toUTF8.size) same).trans (size 71))) (by decide)
  obtain ⟨upTo, beyond⟩ := limit_is_exact
  refine ⟨(upTo _ _ different (free 72) (free 71) (size 72).le ((size 71).trans_le (by decide))).2,
    (beyond _ "x" (size 72) (by decide)).2.1⟩

end AuthRealm.Account.Password
