import AuthRealm.Proofs.Text.Lines
import AuthRealm.Text.Numeral

/-!
# Decimal numerals

The reader of integers takes the digits of every script, signs, underscores and blanks. What a
number is usually written with is none of these: **the decimal digits of a number are read as that
number** (`readInteger?_toDigits`).
-/

namespace AuthRealm.Text

theorem bounds_of_isDigit {c : Char} (h : c.isDigit = true) : 48 ≤ c.toNat ∧ c.toNat ≤ 57 := by
  rw [Char.isDigit, Bool.and_eq_true, decide_eq_true_eq, decide_eq_true_eq] at h
  exact ⟨UInt32.le_iff_toNat_le.1 h.1, UInt32.le_iff_toNat_le.1 h.2⟩

/-- The ten digits of ASCII are those of the first script. -/
theorem digitValue?_of_isDigit {c : Char} (h : c.isDigit = true) :
    digitValue? c = some (c.toNat - '0'.toNat) := by
  obtain ⟨least, most⟩ := bounds_of_isDigit h
  rw [digitValue?, digitZeros, List.find?_cons_of_pos (by simp [least, most])]
  rfl

theorem isBlank_of_isDigit {c : Char} (h : c.isDigit = true) : isBlank c = false := by
  obtain ⟨least, most⟩ := bounds_of_isDigit h
  exact isBlank_of_ascii (by omega) (by omega)

theorem isMargin_of_isDigit {c : Char} (h : c.isDigit = true) : isMargin c = false := by
  rw [isMargin, isBlank_of_isDigit h, Bool.false_and]

/-- Digits are read one by one. -/
theorem readDigits_of_isDigit {ds : List Char} (digits : ∀ c ∈ ds, c.isDigit = true) (fresh : Bool)
    (value count : Nat) (nonempty : fresh = true → ds ≠ []) :
    readDigits fresh value count ds = some (Nat.ofDigitChars 10 ds value, count + ds.length) := by
  induction ds generalizing fresh value count with
  | nil =>
    have stale : fresh = false := Bool.eq_false_iff.2 fun h ↦ nonempty h rfl
    rw [readDigits, stale]
    rfl
  | cons c ds ih =>
    rw [readDigits, digitValue?_of_isDigit (digits c List.mem_cons_self)]
    have rest := ih (fun d hd ↦ digits d (List.mem_cons_of_mem _ hd)) false
      (10 * value + (c.toNat - '0'.toNat)) (count + 1) nofun
    rw [Nat.ofDigitChars_cons, List.length_cons, Nat.add_comm ds.length, ← Nat.add_assoc]
    exact rest

/-- Nothing around digits is taken for a margin. -/
theorem withoutMargins_of_isDigit {ds : List Char} (digits : ∀ c ∈ ds, c.isDigit = true) :
    withoutMargins ds = ds := by
  have kept : ∀ {s : List Char}, (∀ c ∈ s, c.isDigit = true) → s.dropWhile isMargin = s := by
    intro s hs
    cases s with
    | nil => rfl
    | cons c s =>
      exact List.dropWhile_cons_of_neg (by simp [isMargin_of_isDigit (hs c List.mem_cons_self)])
  rw [withoutMargins, kept digits, kept fun c hc ↦ digits c (List.mem_reverse.1 hc),
    List.reverse_reverse]

theorem isDigit_of_mem_toDigits {n : Nat} {c : Char} (h : c ∈ Nat.toDigits 10 n) :
    c.isDigit = true :=
  Nat.isDigit_of_mem_toDigits (by decide) (by decide) h

/-- No zero stands in front. -/
theorem head?_toDigits_ne {n : Nat} (positive : 0 < n) :
    (Nat.toDigits 10 n).head? ≠ some '0' := by
  induction n using Nat.strongRecOn with
  | ind n ih =>
    by_cases small : n < 10
    · have digit : ∀ d < 10, 0 < d → Nat.digitChar d ≠ '0' := by decide
      rw [Nat.toDigits_of_lt_base small]
      exact fun h ↦ digit n small positive (Option.some.inj h)
    · rw [Nat.toDigits_of_base_le (by decide) (by omega),
        List.head?_append, Option.or_of_isSome (by simp)]
      exact ih (n / 10) (by omega) (by omega)

/-- **A number is read from its decimal digits**, if they are not too many. -/
theorem readInteger?_toDigits {n : Nat} (short : (Nat.toDigits 10 n).length ≤ maxDigits) :
    readInteger? (Nat.toDigits 10 n) = some n := by
  have digits : ∀ c ∈ Nat.toDigits 10 n, c.isDigit = true := fun c ↦ isDigit_of_mem_toDigits
  have read := readDigits_of_isDigit digits true 0 0 fun _ ↦ Nat.toDigits_ne_nil
  rw [Nat.ofDigitChars_toDigits (by decide) (by decide), Nat.zero_add] at read
  unfold readInteger?
  rw [withoutMargins_of_isDigit digits]
  -- a sign is no digit
  split
  rename_i negative ds unsigned
  split at unsigned
  · rename_i r signed
    exact absurd (digits '-' (signed ▸ List.mem_cons_self)) (by decide)
  · rename_i r signed
    exact absurd (digits '+' (signed ▸ List.mem_cons_self)) (by decide)
  · obtain ⟨rfl, rfl⟩ := Prod.mk.inj unsigned
    rw [read]
    simp [short]

end AuthRealm.Text
