import AuthRealm.Text.Blank
import AuthRealm.Text.LineEnding

/-!
# Lines of a text, and the blanks around them

A text is cut into lines at its line ends, and a line is trimmed. Both are followed here through
concatenation, since files are put together line by line.

A line that ends with a carriage return is the one that needs care: before a line feed, the two are
one line end and not two (`lines_return` and `lines_pair`). Trimming stops at the first character
from either side that is not blank, so what stands between two such characters is never touched
(`trimEnd_append_cons`). What it leaves of a text is its core, and nothing else is (`trim_eq_iff`).
-/

namespace AuthRealm.Text

/-! ### Lines -/

/-- A text without a line end. -/
def IsLine (s : List Char) : Prop :=
  '\n' ∉ s ∧ '\r' ∉ s

instance (s : List Char) : Decidable (IsLine s) :=
  inferInstanceAs (Decidable (_ ∧ _))

theorem IsLine.append {s r : List Char} (hs : IsLine s) (hr : IsLine r) : IsLine (s ++ r) :=
  ⟨List.not_mem_append hs.1 hr.1, List.not_mem_append hs.2 hr.2⟩

theorem IsLine.of_cons {c : Char} {s : List Char} (h : IsLine (c :: s)) :
    c ≠ '\n' ∧ c ≠ '\r' ∧ IsLine s :=
  ⟨fun hc ↦ h.1 (hc ▸ List.mem_cons_self), fun hc ↦ h.2 (hc ▸ List.mem_cons_self),
    fun hm ↦ h.1 (List.mem_cons_of_mem _ hm), fun hm ↦ h.2 (List.mem_cons_of_mem _ hm)⟩

theorem lines_feed (r : List Char) : lines ('\n' :: r) = [] :: lines r := by
  simp [lines]

/-- A carriage return and a line feed are one line end. -/
theorem lines_pair (r : List Char) : lines ('\r' :: '\n' :: r) = [] :: lines r := by
  simp [lines]

/-- A carriage return before anything else is a line end by itself. -/
theorem lines_return {r : List Char} (h : r.head? ≠ some '\n') :
    lines ('\r' :: r) = [] :: lines r := by
  cases r with
  | nil => rfl
  | cons c r =>
    have hc : c ≠ '\n' := fun hc ↦ h (congrArg some hc)
    rw [lines]
    · simp
    · rintro r' - hr
      exact hc (List.cons.inj hr).1

/-- A character that ends no line is the first of the line behind it. -/
theorem lines_cons {c : Char} {r l : List Char} {ls : List (List Char)} (feed : c ≠ '\n')
    (ret : c ≠ '\r') (h : lines r = l :: ls) : lines (c :: r) = (c :: l) :: ls := by
  rw [lines]
  · simp [feed, ret, h]
  · rintro r' hc -
    exact ret hc

/-- **A line in front of a line end** is a line by itself. -/
theorem lines_append {l r : List Char} {ls : List (List Char)} (line : IsLine l)
    (h : lines r = [] :: ls) : lines (l ++ r) = l :: ls := by
  induction l with
  | nil => exact h
  | cons c l ih =>
    obtain ⟨feed, ret, rest⟩ := line.of_cons
    exact lines_cons feed ret (ih rest)

/-- **No line of a text has a line end in it**, by induction along the cuts. -/
theorem isLine_of_mem_lines {s l : List Char} (mem : l ∈ lines s) : IsLine l := by
  fun_induction lines s generalizing l with
  | case1 =>
    obtain rfl := List.mem_singleton.1 mem
    exact ⟨List.not_mem_nil, List.not_mem_nil⟩
  | case2 r ih | case3 c r _ _ ih =>
    rcases List.mem_cons.1 mem with rfl | mem
    · exact ⟨List.not_mem_nil, List.not_mem_nil⟩
    · exact ih mem
  | case4 c r _ other cut ih =>
    obtain rfl := List.mem_singleton.1 mem
    simp only [Bool.or_eq_true, decide_eq_true_eq, not_or] at other
    exact ⟨by simpa using Ne.symm other.1, by simpa using Ne.symm other.2⟩
  | case5 c r _ other first rest cut ih =>
    rw [cut] at ih
    simp only [Bool.or_eq_true, decide_eq_true_eq, not_or] at other
    rcases List.mem_cons.1 mem with rfl | mem
    · -- a character that ends no line is put in front of the first line
      have clean := ih List.mem_cons_self
      exact ⟨by simpa [Ne.symm other.1] using clean.1, by simpa [Ne.symm other.2] using clean.2⟩
    · exact ih (List.mem_cons_of_mem _ mem)

theorem lines_of_isLine {l : List Char} (line : IsLine l) : lines l = [l] := by
  have only : lines (l ++ []) = [l] := lines_append line rfl
  rwa [List.append_nil] at only

/-! ### Blanks around a line -/

/-- The blanks of ASCII stand before all that is printed. -/
theorem isBlank_of_ascii {c : Char} (least : 0x20 < c.toNat) (most : c.toNat < 0x80) :
    isBlank c = false := by
  simp only [isBlank, Bool.or_eq_false_iff, Bool.and_eq_false_iff, decide_eq_false_iff_not,
    beq_eq_false_iff_ne]
  omega

theorem trimStart_append {front : List Char} (blank : ∀ c ∈ front, isBlank c = true)
    (r : List Char) : trimStart (front ++ r) = trimStart r := by
  induction front with
  | nil => rfl
  | cons c front ih =>
    rw [List.cons_append, trimStart, if_pos (blank c List.mem_cons_self)]
    exact ih fun d hd ↦ blank d (List.mem_cons_of_mem _ hd)

theorem trimEnd_of_blank {s : List Char} (blank : ∀ c ∈ s, isBlank c = true) : trimEnd s = [] := by
  induction s with
  | nil => rfl
  | cons c s ih =>
    rw [trimEnd, ih fun d hd ↦ blank d (List.mem_cons_of_mem _ hd)]
    exact if_pos (blank c List.mem_cons_self)

theorem trimEnd_append_blank {back : List Char} (blank : ∀ c ∈ back, isBlank c = true)
    (s : List Char) : trimEnd (s ++ back) = trimEnd s := by
  induction s with
  | nil => exact trimEnd_of_blank blank
  | cons c s ih => rw [List.cons_append, trimEnd, trimEnd, ih]

/-- What stands before a character that is not blank is kept. -/
theorem trimEnd_append_cons (s : List Char) {c : Char} (r : List Char) (h : isBlank c = false) :
    trimEnd (s ++ c :: r) = s ++ c :: trimEnd r := by
  induction s with
  | nil =>
    rw [List.nil_append, trimEnd, List.nil_append]
    cases trimEnd r with
    | nil => exact if_neg (by simp [h])
    | cons d r => rfl
  | cons d s ih =>
    rw [List.cons_append, trimEnd, ih]
    cases s <;> rfl

/-- Nothing remains of blanks. -/
theorem trim_of_blank {s : List Char} (blank : ∀ c ∈ s, isBlank c = true) : trim s = [] := by
  have none : trimStart (s ++ []) = [] := trimStart_append blank []
  rw [List.append_nil] at none
  rw [trim, none, trimEnd]

theorem trimEnd_eq_self {s : List Char} (final : ∀ c, s.getLast? = some c → isBlank c = false) :
    trimEnd s = s := by
  rcases List.eq_nil_or_concat s with rfl | ⟨r, c, rfl⟩
  · rfl
  · rw [List.concat_eq_append, trimEnd_append (final c (by simp))]

/-! ### Trimming adds nothing -/

theorem mem_of_mem_trimStart {c : Char} {s : List Char} (h : c ∈ trimStart s) : c ∈ s := by
  induction s with
  | nil => exact h
  | cons d s ih =>
    rw [trimStart] at h
    split at h
    · exact List.mem_cons_of_mem _ (ih h)
    · exact h

theorem mem_of_mem_trimEnd {c : Char} {s : List Char} (h : c ∈ trimEnd s) : c ∈ s := by
  induction s with
  | nil => exact h
  | cons d s ih =>
    rw [trimEnd] at h
    cases rest : trimEnd s with
    -- blanks are dropped from the back only as long as nothing solid is behind them
    | nil =>
      rw [rest] at h
      by_cases hd : isBlank d = true
      · exact absurd h (by simp [hd])
      · simp only [hd, Bool.false_eq_true, if_false, List.mem_singleton] at h
        exact h ▸ List.mem_cons_self
    | cons e r =>
      rw [rest] at h ih
      rcases List.mem_cons.1 h with rfl | h
      · exact List.mem_cons_self
      · exact List.mem_cons_of_mem _ (ih h)

theorem mem_of_mem_trim {c : Char} {s : List Char} (h : c ∈ trim s) : c ∈ s :=
  mem_of_mem_trimStart (mem_of_mem_trimEnd h)

/-! ### What trimming leaves -/

/-- **What is left of a text without the blanks around it**: a part of it with nothing but blanks
before and behind it, neither end of which is a blank. -/
structure IsCore (s core : List Char) : Prop where
  between : ∃ front back, s = front ++ core ++ back ∧ (∀ c ∈ front, isBlank c = true) ∧
    ∀ c ∈ back, isBlank c = true
  start : ∀ c, core.head? = some c → isBlank c = false
  final : ∀ c, core.getLast? = some c → isBlank c = false

theorem exists_trimStart (s : List Char) :
    ∃ front, s = front ++ trimStart s ∧ ∀ c ∈ front, isBlank c = true := by
  induction s with
  | nil => exact ⟨[], rfl, nofun⟩
  | cons c s ih =>
    by_cases hc : isBlank c = true
    · obtain ⟨front, hs, blank⟩ := ih
      refine ⟨c :: front, ?_, List.forall_mem_cons.2 ⟨hc, blank⟩⟩
      rw [trimStart, if_pos hc, List.cons_append, ← hs]
    · exact ⟨[], by rw [trimStart, if_neg hc, List.nil_append], nofun⟩

theorem exists_trimEnd (s : List Char) :
    ∃ back, s = trimEnd s ++ back ∧ ∀ c ∈ back, isBlank c = true := by
  induction s with
  | nil => exact ⟨[], rfl, nofun⟩
  | cons c s ih =>
    obtain ⟨back, hs, blank⟩ := ih
    cases rest : trimEnd s with
    | cons d r =>
      rw [rest] at hs
      exact ⟨back, by rw [trimEnd, rest, List.cons_append, ← hs], blank⟩
    | nil =>
      -- all that follows is blank, so it is the first character that decides
      rw [rest, List.nil_append] at hs
      subst hs
      by_cases hc : isBlank c = true
      · refine ⟨c :: s, ?_, List.forall_mem_cons.2 ⟨hc, blank⟩⟩
        simp only [trimEnd, rest, if_pos hc, List.nil_append]
      · exact ⟨s, by simp only [trimEnd, rest, if_neg hc, List.singleton_append], blank⟩

theorem head?_trimEnd {s : List Char} {c : Char} (h : (trimEnd s).head? = some c) :
    s.head? = some c := by
  obtain ⟨back, hs, -⟩ := exists_trimEnd s
  obtain ⟨r, hr⟩ := List.head?_eq_some_iff.1 h
  rw [hs, hr]
  rfl

theorem isBlank_getLast?_trimEnd {s : List Char} {c : Char}
    (h : (trimEnd s).getLast? = some c) : isBlank c = false := by
  induction s with
  | nil => exact absurd h nofun
  | cons d s ih =>
    rw [trimEnd] at h
    cases rest : trimEnd s with
    | cons e r =>
      rw [rest] at h ih
      exact ih (by simpa using h)
    | nil =>
      rw [rest] at h
      by_cases hd : isBlank d = true
      · exact absurd h (by simp [hd])
      · obtain rfl : d = c := by simpa [hd] using h
        exact eq_false_of_ne_true hd

/-- **Trimming leaves the core of a text**, and there is only one. -/
theorem trim_eq_iff {s core : List Char} : trim s = core ↔ IsCore s core := by
  constructor
  · rintro rfl
    obtain ⟨front, hs, blank⟩ := exists_trimStart s
    obtain ⟨back, hs', blank'⟩ := exists_trimEnd (trimStart s)
    -- the front is cut first, and what the back then loses leaves the first character alone
    refine ⟨⟨front, back, ?_, blank, blank'⟩, fun c hc ↦ ?_, fun c hc ↦ ?_⟩
    · rw [trim, List.append_assoc, ← hs', ← hs]
    · exact isBlank_head?_trimStart s (head?_trimEnd hc)
    · exact isBlank_getLast?_trimEnd hc
  · rintro ⟨⟨front, back, rfl, blank, blank'⟩, start, final⟩
    rw [trim, List.append_assoc, trimStart_append blank]
    cases core with
    | nil =>
      rw [List.nil_append]
      exact trimEnd_of_blank fun c hc ↦ blank' c (mem_of_mem_trimStart hc)
    | cons c core =>
      rw [List.cons_append, trimStart_eq_self (start c rfl), ← List.cons_append,
        trimEnd_append_blank blank', trimEnd_eq_self final]

end AuthRealm.Text
