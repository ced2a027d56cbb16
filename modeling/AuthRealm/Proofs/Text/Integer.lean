import AuthRealm.Proofs.Text.Numeral
import AuthRealm.Text.Fields
import Mathlib.Data.List.TakeWhile

/-!
# The grammar of integers

What the reader of integers takes, said without the reader. A numeral is made of groups of digits
with an underscore between two of them (`IsNumeral`), and its number is that of its digits in order
(`numberOf`). An integer is a numeral with a sign or none in front, anywhere between margins
(`WritesInteger`).

**The reader takes exactly these texts**, and each as the integer it writes
(`readInteger?_eq_some_iff`). The reader goes through the digits once and from the left, so what is
proved of it by induction is about a numeral of which some digits have been read
(`readDigits_eq_some_iff`).
-/

namespace AuthRealm.Text

/-! ### Numerals -/

/-- A group of digits. -/
def AllDigits (s : List Char) : Prop :=
  ∀ c ∈ s, (digitValue? c).isSome = true

/-- **A numeral**: groups of digits, none of them empty, with an underscore between two. -/
def IsNumeral (s : List Char) : Prop :=
  ∀ group ∈ fields '_' s, group ≠ [] ∧ AllDigits group

/-- The values of the digits of a text. -/
def digitValues (s : List Char) : List Nat :=
  s.filterMap digitValue?

/-- The number that digits write behind those of another number. -/
def numberFrom (start : Nat) (digits : List Nat) : Nat :=
  digits.foldl (fun value d ↦ 10 * value + d) start

/-- The number of a numeral. -/
def numberOf (s : List Char) : Nat :=
  numberFrom 0 (digitValues s)

/-- The rest of a numeral. The first group may have been read already, and can only then be empty.
-/
def Continues (fresh : Bool) (s : List Char) : Prop :=
  ∃ group groups, fields '_' s = group :: groups ∧ (fresh = true → group ≠ []) ∧
    AllDigits group ∧ ∀ g ∈ groups, g ≠ [] ∧ AllDigits g

theorem continues_true_iff {s : List Char} : Continues true s ↔ IsNumeral s := by
  rw [IsNumeral]
  constructor
  · rintro ⟨group, groups, cut, some, digits, rest⟩
    rw [cut]
    exact List.forall_mem_cons.2 ⟨⟨some rfl, digits⟩, rest⟩
  · intro all
    obtain ⟨group, groups, cut⟩ := List.exists_cons_of_ne_nil (fields_ne_nil '_' s)
    rw [cut] at all
    obtain ⟨⟨some, digits⟩, rest⟩ := List.forall_mem_cons.1 all
    exact ⟨group, groups, cut, fun _ ↦ some, digits, rest⟩

theorem continues_nil_iff {fresh : Bool} : Continues fresh [] ↔ fresh = false := by
  constructor
  · rintro ⟨group, groups, cut, some, -⟩
    obtain ⟨rfl, -⟩ := List.cons.inj cut
    exact Bool.eq_false_iff.2 fun h ↦ some h rfl
  · rintro rfl
    exact ⟨[], [], rfl, fun h ↦ absurd h Bool.false_ne_true, fun _ hc ↦ absurd hc List.not_mem_nil,
      fun _ hg ↦ absurd hg List.not_mem_nil⟩

theorem continues_underscore_iff {fresh : Bool} {s : List Char} :
    Continues fresh ('_' :: s) ↔ fresh = false ∧ Continues true s := by
  have cut : fields '_' ('_' :: s) = [] :: fields '_' s := by rw [fields, if_pos rfl]
  rw [continues_true_iff, IsNumeral, Continues, cut]
  constructor
  · rintro ⟨group, groups, same, some, -, rest⟩
    obtain ⟨rfl, rfl⟩ := List.cons.inj same
    exact ⟨Bool.eq_false_iff.2 fun h ↦ some h rfl, rest⟩
  · rintro ⟨rfl, rest⟩
    exact ⟨[], _, rfl, fun h ↦ absurd h Bool.false_ne_true, fun _ hc ↦ absurd hc List.not_mem_nil,
      rest⟩

/-- A first character that is no underscore belongs to the first group. -/
theorem continues_cons_iff {fresh : Bool} {c : Char} {s : List Char} (other : c ≠ '_') :
    Continues fresh (c :: s) ↔ (digitValue? c).isSome = true ∧ Continues false s := by
  obtain ⟨group, groups, cut⟩ := List.exists_cons_of_ne_nil (fields_ne_nil '_' s)
  have cut' : fields '_' (c :: s) = (c :: group) :: groups := by rw [fields, if_neg other, cut]
  rw [Continues, Continues, cut, cut']
  constructor
  · rintro ⟨_, _, same, -, digits, rest⟩
    obtain ⟨rfl, rfl⟩ := List.cons.inj same
    obtain ⟨digit, digits⟩ := List.forall_mem_cons.1 digits
    exact ⟨digit, group, groups, rfl, fun h ↦ absurd h Bool.false_ne_true, digits, rest⟩
  · rintro ⟨digit, _, _, same, -, digits, rest⟩
    obtain ⟨rfl, rfl⟩ := List.cons.inj same
    exact ⟨_, _, rfl, fun _ ↦ List.cons_ne_nil c _, List.forall_mem_cons.2 ⟨digit, digits⟩, rest⟩

/-- **Digits are read** where they continue a numeral, and their number and count are added. -/
theorem readDigits_eq_some_iff {fresh : Bool} {value count n k : Nat} {s : List Char} :
    readDigits fresh value count s = some (n, k) ↔
      Continues fresh s ∧ numberFrom value (digitValues s) = n ∧
        count + (digitValues s).length = k := by
  induction s generalizing fresh value count with
  | nil =>
    rw [continues_nil_iff]
    cases fresh <;> simp [readDigits, digitValues, numberFrom]
  -- a digit adds to the number; an underscore may only stand behind a digit
  | cons c s ih =>
    cases digit : digitValue? c with
    | some d =>
      have other : c ≠ '_' := by
        rintro rfl
        have none : digitValue? '_' = none := by decide
        cases digit.symm.trans none
      have values : digitValues (c :: s) = d :: digitValues s := by
        rw [digitValues, List.filterMap_cons_some digit, digitValues]
      simp only [readDigits, digit]
      rw [ih, continues_cons_iff other, digit, values, numberFrom, numberFrom, List.foldl_cons,
        List.length_cons, Nat.add_assoc, Nat.add_comm 1]
      simp only [Option.isSome_some, true_and]
    | none =>
      have values : digitValues (c :: s) = digitValues s := by
        rw [digitValues, List.filterMap_cons_none digit, digitValues]
      simp only [readDigits, digit]
      by_cases underscore : c = '_'
      · subst underscore
        rw [continues_underscore_iff, values]
        cases fresh with
        | true => simp
        | false => simpa using ih
      · rw [continues_cons_iff underscore, digit]
        simp [underscore]

/-! ### Margins -/

/-- No digit is a blank, in any script. -/
theorem isMargin_of_digitValue? {c : Char} (h : (digitValue? c).isSome = true) :
    isMargin c = false := by
  have visible : ∀ z ∈ digitZeros, ∀ i < 10, isBlank (Char.ofNat (z + i)) = false := by
    decide +kernel
  rw [digitValue?, Option.isSome_map] at h
  obtain ⟨z, found⟩ := Option.isSome_iff_exists.1 h
  have within := List.find?_some found
  rw [Bool.and_eq_true, decide_eq_true_eq, decide_eq_true_eq] at within
  have blank := visible z (List.mem_of_find?_eq_some found) (c.toNat - z) (by omega)
  rw [Nat.add_sub_cancel' within.1, Char.ofNat_toNat] at blank
  rw [isMargin, blank, Bool.false_and]

theorem exists_withoutMargins (s : List Char) :
    ∃ front back, s = front ++ withoutMargins s ++ back ∧ (∀ c ∈ front, isMargin c = true) ∧
      ∀ c ∈ back, isMargin c = true := by
  have ends : ∀ r : List Char,
      r = (r.reverse.dropWhile isMargin).reverse ++ (r.reverse.takeWhile isMargin).reverse := by
    intro r
    rw [← List.reverse_append, List.takeWhile_append_dropWhile, List.reverse_reverse]
  refine ⟨s.takeWhile isMargin, ((s.dropWhile isMargin).reverse.takeWhile isMargin).reverse, ?_,
    fun c hc ↦ List.mem_takeWhile_imp hc,
    fun c hc ↦ List.mem_takeWhile_imp (List.mem_reverse.1 hc)⟩
  rw [withoutMargins, List.append_assoc, ← ends, List.takeWhile_append_dropWhile]

/-- What stands between margins is left, if it does not start or end with one itself. -/
theorem withoutMargins_between {front core back : List Char}
    (margin : ∀ c ∈ front, isMargin c = true) (margin' : ∀ c ∈ back, isMargin c = true)
    (start : ∀ c, core.head? = some c → isMargin c = false)
    (final : ∀ c, core.getLast? = some c → isMargin c = false) (some : core ≠ []) :
    withoutMargins (front ++ core ++ back) = core := by
  have kept : ∀ {r : List Char}, (∀ c, r.head? = Option.some c → isMargin c = false) →
      r.dropWhile isMargin = r := by
    intro r visible
    cases r with
    | nil => rfl
    | cons c r => exact List.dropWhile_cons_of_neg (by simp [visible c rfl])
  have start' : ∀ c, (core ++ back).head? = Option.some c → isMargin c = false := by
    intro c hc
    rw [List.head?_append, Option.or_of_isSome (List.isSome_head?.2 some)] at hc
    exact start c hc
  have final' : ∀ c, core.reverse.head? = Option.some c → isMargin c = false := by
    intro c hc
    rw [List.head?_reverse] at hc
    exact final c hc
  -- the margins are dropped from the front and, reversed, from the back
  rw [withoutMargins, List.append_assoc, List.dropWhile_append_of_pos margin, kept start',
    List.reverse_append,
    List.dropWhile_append_of_pos fun c hc ↦ margin' c (List.mem_reverse.1 hc), kept final',
    List.reverse_reverse]

/-! ### Integers -/

/-- A numeral starts with a digit, -/
theorem IsNumeral.head {s : List Char} (h : IsNumeral s) {c : Char} (hc : s.head? = some c) :
    (digitValue? c).isSome = true := by
  obtain ⟨r, rfl⟩ := List.head?_eq_some_iff.1 hc
  have first := continues_true_iff.2 h
  by_cases underscore : c = '_'
  · subst underscore
    exact absurd (continues_underscore_iff.1 first).1 nofun
  · exact ((continues_cons_iff underscore).1 first).1

/-- ends with one, -/
theorem Continues.final {fresh : Bool} {s : List Char} (h : Continues fresh s) {c : Char}
    (hc : s.getLast? = some c) : (digitValue? c).isSome = true := by
  induction s generalizing fresh with
  | nil => exact absurd hc nofun
  | cons d s ih =>
    -- the rest continues the numeral too, and has the last character unless nothing is left
    obtain ⟨fresh', rest, only⟩ : ∃ fresh', Continues fresh' s ∧
        (s = [] → (digitValue? d).isSome = true) := by
      by_cases underscore : d = '_'
      · subst underscore
        obtain ⟨-, rest⟩ := continues_underscore_iff.1 h
        refine ⟨true, rest, ?_⟩
        rintro rfl
        exact absurd (continues_nil_iff.1 rest) nofun
      · obtain ⟨digit, rest⟩ := (continues_cons_iff underscore).1 h
        exact ⟨false, rest, fun _ ↦ digit⟩
    cases s with
    | nil =>
      obtain rfl : d = c := Option.some.inj hc
      exact only rfl
    | cons e s => exact ih rest (by simpa using hc)

/-- and has nothing but digits and underscores in it. -/
theorem Continues.mem {fresh : Bool} {s : List Char} (h : Continues fresh s) {c : Char}
    (hc : c ∈ s) : c = '_' ∨ (digitValue? c).isSome = true := by
  induction s generalizing fresh with
  | nil => exact absurd hc List.not_mem_nil
  | cons d s ih =>
    by_cases underscore : d = '_'
    · subst underscore
      rcases List.mem_cons.1 hc with rfl | hc
      · exact .inl rfl
      · exact ih (continues_underscore_iff.1 h).2 hc
    · obtain ⟨digit, rest⟩ := (continues_cons_iff underscore).1 h
      rcases List.mem_cons.1 hc with rfl | hc
      · exact .inr digit
      · exact ih rest hc

theorem IsNumeral.ne_nil {s : List Char} (h : IsNumeral s) : s ≠ [] := by
  rintro rfl
  exact absurd (continues_nil_iff.1 (continues_true_iff.2 h)) nofun

/-- What a sign, or none, makes of a number. -/
inductive Signed (value : Nat) : List Char → Int → Prop where
  | bare : Signed value [] value
  | plus : Signed value ['+'] value
  | minus : Signed value ['-'] (-value)

/-- **A text writes an integer**: a numeral of not too many digits, with a sign or none, between
margins or none. -/
def WritesInteger (s : List Char) (n : Int) : Prop :=
  ∃ front sign numeral back, s = front ++ (sign ++ numeral) ++ back ∧
    (∀ c ∈ front, isMargin c = true) ∧ (∀ c ∈ back, isMargin c = true) ∧
    IsNumeral numeral ∧ (digitValues numeral).length ≤ maxDigits ∧
    Signed (numberOf numeral) sign n

theorem Signed.mem {value : Nat} {sign : List Char} {n : Int} (h : Signed value sign n) {c : Char}
    (hc : c ∈ sign) : c = '+' ∨ c = '-' := by
  cases h with
  | bare => exact absurd hc List.not_mem_nil
  | plus => exact .inl (List.mem_singleton.1 hc)
  | minus => exact .inr (List.mem_singleton.1 hc)

/-- A dollar sign has no part in an integer. -/
theorem WritesInteger.dollar_notMem {s : List Char} {n : Int} (h : WritesInteger s n) :
    '$' ∉ s := by
  obtain ⟨front, sign, numeral, back, rfl, margin, margin', number, -, signed⟩ := h
  have visible : isMargin '$' = false := by decide
  refine List.not_mem_append (List.not_mem_append ?_ (List.not_mem_append ?_ ?_)) ?_
  · exact fun hc ↦ absurd ((margin _ hc).symm.trans visible) nofun
  · exact fun hc ↦ absurd (signed.mem hc) (by decide)
  · exact fun hc ↦ absurd ((continues_true_iff.2 number).mem hc) (by decide)
  · exact fun hc ↦ absurd ((margin' _ hc).symm.trans visible) nofun

/-- A sign with a numeral has no margins of its own. -/
theorem withoutMargins_signed {front sign numeral back : List Char} {value : Nat} {n : Int}
    (margin : ∀ c ∈ front, isMargin c = true) (margin' : ∀ c ∈ back, isMargin c = true)
    (number : IsNumeral numeral) (signed : Signed value sign n) :
    withoutMargins (front ++ (sign ++ numeral) ++ back) = sign ++ numeral := by
  refine withoutMargins_between margin margin' (fun c hc ↦ ?_) (fun c hc ↦ ?_)
    (List.append_ne_nil_of_right_ne_nil _ number.ne_nil)
  · cases signed with
    | bare => exact isMargin_of_digitValue? (number.head hc)
    | plus => exact Option.some.inj hc ▸ by decide
    | minus => exact Option.some.inj hc ▸ by decide
  · rw [List.getLast?_append, Option.or_of_isSome (List.getLast?_isSome.2 number.ne_nil)] at hc
    exact isMargin_of_digitValue? ((continues_true_iff.2 number).final hc)

/-- **An integer is read from a text exactly when the text writes it.** -/
theorem readInteger?_eq_some_iff {s : List Char} {n : Int} :
    readInteger? s = some n ↔ WritesInteger s n := by
  constructor
  · intro h
    obtain ⟨front, back, whole, margin, margin'⟩ := exists_withoutMargins s
    unfold readInteger? at h
    split at h
    rename_i negative digits cut
    split at h
    · rename_i value count read
      obtain ⟨numeral, rfl, rfl⟩ := readDigits_eq_some_iff.1 read
      rw [Nat.zero_add] at h
      split at h
      · rename_i few
        obtain ⟨sign, core, signed⟩ : ∃ sign, withoutMargins s = sign ++ digits ∧
            Signed (numberOf digits) sign n := by
          split at cut
          · rename_i r core
            obtain ⟨rfl, rfl⟩ := Prod.mk.inj cut
            exact ⟨['-'], core, Option.some.inj h ▸ .minus⟩
          · rename_i r core
            obtain ⟨rfl, rfl⟩ := Prod.mk.inj cut
            exact ⟨['+'], core, Option.some.inj h ▸ .plus⟩
          · obtain ⟨rfl, rfl⟩ := Prod.mk.inj cut
            exact ⟨[], rfl, Option.some.inj h ▸ .bare⟩
        exact ⟨front, sign, digits, back, core ▸ whole, margin, margin',
          continues_true_iff.1 numeral, few, signed⟩
      · exact absurd h nofun
    · exact absurd h nofun
  · rintro ⟨front, sign, numeral, back, rfl, margin, margin', number, few, signed⟩
    have read : readDigits true 0 0 numeral =
        some (numberOf numeral, 0 + (digitValues numeral).length) :=
      readDigits_eq_some_iff.2 ⟨continues_true_iff.2 number, rfl, rfl⟩
    unfold readInteger?
    rw [withoutMargins_signed margin margin' number signed]
    cases signed with
    | plus => simp [read, few]
    | minus => simp [read, few]
    | bare =>
      rw [List.nil_append]
      -- the first character is a digit, and no digit is a sign
      split
      rename_i negative digits cut
      split at cut
      · exact absurd (number.head rfl) (by decide)
      · exact absurd (number.head rfl) (by decide)
      · obtain ⟨rfl, rfl⟩ := Prod.mk.inj cut
        simp [read, few]

end AuthRealm.Text
