import AuthRealm.Text.Charset

/-!
# Which charsets settle what bytes spell

Decoding ends with a text, or points to the bytes that are malformed, or ends in a third way: the
text is refused without a word about any byte of it. The decoders that have a table here **read
bytes or point to them, but for one**: sixteen-bit text that does not say its byte order is refused
like that. Which bytes end so is decided by `Charset.settles` (`readsOrPoints_of_settles`,
`decode_of_not_settles`).

Of the other charsets, what the machine's decoders make of bytes decides the same question. Four of
them can let lone halves of surrogate pairs through, which no text of characters holds, so they are
set apart (`Charset.isOfCharacters`).
-/

namespace AuthRealm.Text.Charset

/-- **Decoding ends with a text or points to malformed bytes.** -/
def ReadsOrPoints : Except DecodeError (List Char) → Prop
  | .ok _ => True
  | .error (.malformed ..) => True
  | .error _ => False

/-- Malformed bytes are reported. -/
theorem ReadsOrPoints.isReport {decoded : Except DecodeError (List Char)} {e : DecodeError}
    (h : ReadsOrPoints decoded) (failed : decoded = .error e) : e.isReport = true := by
  subst failed
  cases e with
  | malformed => rfl
  | noByteOrder | reported | refused => exact h.elim

/-! ### Decoders that always point to a byte -/

theorem readsOrPoints_malformedAt (decoder : String) (base start offset : Nat)
    (bytes : List UInt8) (flaw : Flaw) :
    ReadsOrPoints (malformedAt decoder base start offset bytes flaw) := by
  trivial

theorem readsOrPoints_unfinished (decoder : String) (start : Nat) (bytes : List UInt8)
    (flaw : Flaw) : ReadsOrPoints (unfinished decoder start bytes flaw) := by
  trivial

theorem ReadsOrPoints.map {f : List Char → List Char} {decoded : Except DecodeError (List Char)}
    (h : ReadsOrPoints decoded) : ReadsOrPoints (decoded.map f) := by
  cases decoded with
  | error e => exact h
  | ok text => trivial

theorem readsOrPoints_decodeBytes (decoder : String) (flaw : Flaw) (table : UInt8 → Option Char)
    (start : Nat) (bytes : List UInt8) :
    ReadsOrPoints (decodeBytes decoder flaw table start bytes) := by
  induction bytes generalizing start with
  | nil => trivial
  | cons b r ih =>
    rw [decodeBytes]
    cases table b with
    | none => trivial
    | some c => exact (ih (start + 1)).map

theorem readsOrPoints_decodeUtf8 (base start : Nat) (bytes : List UInt8) :
    ReadsOrPoints (decodeUtf8 base start bytes) := by
  -- each branch is the empty text, a report, or one more character in front of what follows
  fun_induction decodeUtf8 base start bytes <;>
    first
    | exact readsOrPoints_malformedAt ..
    | exact readsOrPoints_unfinished ..
    | (rename_i rest
       exact rest.map)
    | trivial

theorem readsOrPoints_decodeUtf16 (big : Bool) (base start : Nat) (bytes : List UInt8) :
    ReadsOrPoints (decodeUtf16 big base start bytes) := by
  fun_induction decodeUtf16 big base start bytes <;>
    first
    | exact readsOrPoints_malformedAt ..
    | exact readsOrPoints_unfinished ..
    | (rename_i rest
       exact rest.map)
    | trivial

/-! ### Text that does not say its byte order -/

/-- Whether bytes start with a byte order mark. -/
def isMarked : List UInt8 → Bool
  | 0xff :: 0xfe :: _ => true
  | 0xfe :: 0xff :: _ => true
  | _ => false

/-- Whether the first block of unmarked bytes is malformed, and not merely cut off behind some text.
That is found before a mark is missed. -/
def isMalformedEarly (bytes : List UInt8) : Bool :=
  match decodeUtf16 false 0 0 (bytes.take blockSize) with
  | .error (.malformed _ offset _ _ flaw) => !(flaw.isEnd && offset != 0)
  | _ => false

theorem decodeUtf16Marked_of_isMarked {bytes : List UInt8} (marked : isMarked bytes = true) :
    ∃ big r, decodeUtf16Marked bytes = decodeUtf16 big 0 2 r := by
  unfold isMarked at marked
  split at marked
  · exact ⟨false, _, rfl⟩
  · exact ⟨true, _, rfl⟩
  · exact absurd marked Bool.false_ne_true

theorem decodeUtf16Marked_of_not_isMarked {bytes : List UInt8} (unmarked : isMarked bytes = false) :
    decodeUtf16Marked bytes =
      match decodeUtf16 false 0 0 (bytes.take blockSize) with
      | .ok [] => .ok []
      | .ok _ => .error .noByteOrder
      | .error (.malformed decoder offset position bad flaw) =>
        if flaw.isEnd && offset != 0 then .error .noByteOrder
        else .error (.malformed decoder offset position bad flaw)
      | .error e => .error e := by
  unfold decodeUtf16Marked
  split
  · exact absurd unmarked (by simp [isMarked])
  · exact absurd unmarked (by simp [isMarked])
  · rfl

/-- No bytes but none at all spell the empty text. -/
theorem eq_nil_of_decodeUtf16 {big : Bool} {base start : Nat} {bytes : List UInt8}
    (h : decodeUtf16 big base start bytes = .ok []) : bytes = [] := by
  have map_cons_ne {c : Char} {decoded : Except DecodeError (List Char)} :
      decoded.map (c :: ·) ≠ .ok [] := by
    cases decoded <;> simp [Except.map]
  unfold decodeUtf16 at h
  split at h
  · rfl
  · simp [unfinished] at h
  · simp only [malformedAt, unfinished] at h
    split at h
    · simp at h
    · -- a unit is an error, half of a pair or a character, and a character is never nothing
      split at h
      · split at h
        · simp at h
        · simp at h
        · split at h
          · exact absurd h map_cons_ne
          · simp at h
      · exact absurd h map_cons_ne

/-! ### All charsets -/

/-- Charsets without a table here whose decoders let lone halves of surrogate pairs through. -/
def halfReaders : List String := ["punycode", "raw_unicode_escape", "unicode_escape", "utf_7"]

/-- Whether whatever is read in a charset is a text of characters. -/
def isOfCharacters : Charset → Bool
  | .foreign name => !halfReaders.contains name
  | _ => true

/-- Whether the text of all bytes is given here. -/
def isTabled : Charset → Bool
  | .foreign _ => false
  | _ => true

/-- Whether a reader of a charset with a table either reads bytes or says which of them are
malformed: always, but for sixteen-bit text without a mark of its byte order. -/
def settles : Charset → List UInt8 → Bool
  | .utf16, bytes => bytes.isEmpty || isMarked bytes || isMalformedEarly bytes
  | _, _ => true

theorem readsOrPoints_decodeUtf16Marked {bytes : List UInt8}
    (settled : Charset.utf16.settles bytes = true) :
    ReadsOrPoints (decodeUtf16Marked bytes) := by
  -- with a mark the order is known; without one only no text or an early flaw is settled
  cases marked : isMarked bytes with
  | true =>
    obtain ⟨big, r, read⟩ := decodeUtf16Marked_of_isMarked marked
    rw [read]
    exact readsOrPoints_decodeUtf16 big 0 2 r
  | false =>
    simp only [settles, marked, Bool.or_false, Bool.or_eq_true, List.isEmpty_iff] at settled
    rcases settled with rfl | early
    · trivial
    · rw [decodeUtf16Marked_of_not_isMarked marked]
      unfold isMalformedEarly at early
      split at early
      · rename_i decoder offset position bad flaw read
        rw [Bool.not_eq_true'] at early
        simp only [read, early, Bool.false_eq_true, if_false]
        trivial
      · exact absurd early Bool.false_ne_true

/-- **What a charset with a table settles is read, or reported.** -/
theorem readsOrPoints_of_settles {charset : Charset} {bytes : List UInt8} (decoders : Decoders)
    (tabled : charset.isTabled = true) (settled : charset.settles bytes = true) :
    ReadsOrPoints (charset.decode decoders bytes) := by
  cases charset with
  | utf8 => exact readsOrPoints_decodeUtf8 0 0 bytes
  | utf8Signed =>
    show ReadsOrPoints (decodeUtf8Signed bytes)
    unfold decodeUtf8Signed
    split
    · trivial
    · split
      · exact readsOrPoints_decodeUtf8 3 3 _
      · exact readsOrPoints_decodeUtf8 0 0 bytes
  | ascii => exact readsOrPoints_decodeBytes _ _ _ 0 bytes
  | latin1 => trivial
  | cp1252 => exact readsOrPoints_decodeBytes _ _ _ 0 bytes
  | utf16 => exact readsOrPoints_decodeUtf16Marked settled
  | utf16Little => exact readsOrPoints_decodeUtf16 false 0 0 bytes
  | utf16Big => exact readsOrPoints_decodeUtf16 true 0 0 bytes
  | foreign name => exact absurd tabled Bool.false_ne_true

/-- **What it does not settle is refused for its byte order**: sixteen-bit text without a mark,
however well-formed it is. -/
theorem decode_of_not_settles {charset : Charset} {bytes : List UInt8} (decoders : Decoders)
    (missed : charset.settles bytes = false) :
    charset.decode decoders bytes = .error .noByteOrder := by
  cases charset with
  | utf16 =>
    simp only [settles, Bool.or_eq_false_iff] at missed
    obtain ⟨⟨nonempty, unmarked⟩, late⟩ := missed
    show decodeUtf16Marked bytes = _
    rw [decodeUtf16Marked_of_not_isMarked unmarked]
    have reports := readsOrPoints_decodeUtf16 false 0 0 (bytes.take blockSize)
    unfold isMalformedEarly at late
    split
    · rename_i read
      have none_taken := eq_nil_of_decodeUtf16 read
      rw [List.take_eq_nil_iff] at none_taken
      rcases none_taken with impossible | rfl
      · exact absurd impossible (by decide)
      · exact absurd nonempty (by simp)
    · rfl
    · rename_i decoder offset position bad flaw read
      rw [read, Bool.not_eq_false'] at late
      exact if_pos late
    · -- no other error is one of sixteen-bit text of a known order
      rename_i e other read
      rw [read] at reports
      cases e with
      | malformed decoder offset position bad flaw => exact absurd rfl (other _ _ _ _ _)
      | noByteOrder | reported | refused => exact reports.elim
  | _ => exact absurd missed.symm Bool.false_ne_true

end AuthRealm.Text.Charset
