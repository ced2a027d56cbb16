/-!
# Blank characters

Which characters count as blank at the ends of a line or a setting, and how the ends are trimmed.
The set is the Unicode one: characters of bidirectional class WS, B or S and the space
separators. It is larger than the ASCII set of the core library, which `isBlank_of_isWhitespace`
records.

Trimming is over lists of characters and structural; nothing but blanks is lost
(`trimStart_eq_self`) and the first character that remains is not blank
(`isBlank_head?_trimStart`).
-/

namespace AuthRealm.Text

/-- A blank character. -/
def isBlank (c : Char) : Bool :=
  let n := c.toNat
  (0x09 ≤ n && n ≤ 0x0d) || (0x1c ≤ n && n ≤ 0x20) || n == 0x85 || n == 0xa0 || n == 0x1680 ||
    (0x2000 ≤ n && n ≤ 0x200a) || n == 0x2028 || n == 0x2029 || n == 0x202f || n == 0x205f ||
    n == 0x3000

/-- The text without the blanks at its start. -/
def trimStart : List Char → List Char
  | [] => []
  | c :: r => if isBlank c then trimStart r else c :: r

/-- The text without the blanks at its end. -/
def trimEnd : List Char → List Char
  | [] => []
  | c :: r =>
    match trimEnd r with
    | [] => if isBlank c then [] else [c]
    | d :: s => c :: d :: s

/-- The text without the blanks at its two ends. -/
def trim (s : List Char) : List Char :=
  trimEnd (trimStart s)

/-! ### What trimming leaves -/

/-- The blanks of the core library are blank here. -/
theorem isBlank_of_isWhitespace {c : Char} (h : c.isWhitespace = true) : isBlank c = true := by
  simp only [Char.isWhitespace, Bool.or_eq_true, decide_eq_true_eq] at h
  rcases h with ((rfl | rfl) | rfl) | rfl <;> decide

/-- Text that starts with no blank is left as it is. -/
theorem trimStart_eq_self {c : Char} {r : List Char} (h : isBlank c = false) :
    trimStart (c :: r) = c :: r := by
  simp [trimStart, h]

/-- No blank remains at the start. -/
theorem isBlank_head?_trimStart (s : List Char) {c : Char} (h : (trimStart s).head? = some c) :
    isBlank c = false := by
  induction s with
  | nil => simp [trimStart] at h
  | cons d r ih =>
    by_cases hd : isBlank d = true
    · exact ih (by simpa [trimStart, hd] using h)
    · simp only [trimStart, hd, Bool.false_eq_true, if_false, List.head?_cons,
        Option.some.injEq] at h
      exact h ▸ by simpa using hd

/-- Text that ends with no blank keeps its end. -/
theorem trimEnd_append {s : List Char} {c : Char} (h : isBlank c = false) :
    trimEnd (s ++ [c]) = s ++ [c] := by
  induction s with
  | nil => simp [trimEnd, h]
  | cons d r ih =>
    rw [List.cons_append, trimEnd, ih]
    cases r with
    | nil => rfl
    | cons e r => rfl

/-- Text of which neither end is a blank is left as it is. -/
theorem trim_eq_self {s : List Char} (start : ∀ c, s.head? = some c → isBlank c = false)
    (final : ∀ c, s.getLast? = some c → isBlank c = false) : trim s = s := by
  rcases List.eq_nil_or_concat s with rfl | ⟨r, c, rfl⟩
  · rfl
  · have hc : isBlank c = false := final c (by simp)
    have kept : trimStart (r ++ [c]) = r ++ [c] := by
      cases r with
      | nil => exact trimStart_eq_self hc
      | cons d r => exact trimStart_eq_self (start d rfl)
    rw [List.concat_eq_append, trim, kept, trimEnd_append hc]

end AuthRealm.Text
