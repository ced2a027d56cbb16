import AuthRealm.Proofs.Text.Fields
import AuthRealm.Text.Json

/-!
# Objects of texts in JSON

An object whose members are texts is read as it was written (`parse_text_ofTexts`), whatever
characters its names and texts have. The reader goes on from a cursor, and positions matter to it
only where it fails, so each lemma says that what remains is what stands behind: a character
(`readString_stringChar`), a text in its quotes (`readString_stringText`), a member
(`readMembers_memberChars`), the members.

The two recursions of the reader have fuel, which counts characters in a text and members in an
object; what was written always leaves enough of it. How deep a text is nested is found by a scan,
to which a text in its quotes is nothing (`foldl_stringText`); so such an object has one level
(`nesting_text_ofTexts`).
-/

namespace AuthRealm.Text.Json

/-! ### Strings -/

/-- Four digits stand for the unit that they were written for. -/
theorem hex4?_hexDigits {v : Nat} (h : v < 0x10000) : hex4? (hexDigits 4 v) = some v := by
  have digit (n : Nat) : hexValue? (hexDigit n) = some (n % 16) := by
    rw [← hexDigit_mod]
    exact hexValue?_hexDigit (Nat.mod_lt n (by decide))
  have written : hexDigits 4 v =
      [hexDigit (v / 16 / 16 / 16), hexDigit (v / 16 / 16), hexDigit (v / 16), hexDigit v] := rfl
  rw [written]
  simp only [hex4?, digit, Option.bind_eq_bind, Option.bind_some, Option.pure_def,
    Option.some.injEq]
  omega

variable {opening fuel position : Nat} {c : Char} {r : List Char} {read : List Nat}

theorem readString_special (special : c = '"' ∨ c = '\\') :
    readString opening (fuel + 1) ⟨position, '\\' :: c :: r⟩ read =
      readString opening fuel ⟨position + 2, r⟩ (c.toNat :: read) := by
  rcases special with rfl | rfl
  · simp [readString, escaped?, Cursor.skip]
  · simp [readString, escaped?, Cursor.skip]

theorem readString_plain (quote : c ≠ '"') (backslash : c ≠ '\\') (least : 0x20 ≤ c.toNat) :
    readString opening (fuel + 1) ⟨position, c :: r⟩ read =
      readString opening fuel ⟨position + 1, r⟩ (c.toNat :: read) := by
  have noControl : ¬ c.toNat < 0x20 := by omega
  simp [readString, backslash, noControl, Cursor.skip]

theorem hexDigits_four (v : Nat) :
    ∃ a b c d, hexDigits 4 v = [a, b, c, d] :=
  ⟨_, _, _, _, rfl⟩

/-- One unit that is no half of a pair. -/
theorem readString_unit {v : Nat} (bound : v < 0x10000) (single : ¬ (0xd800 ≤ v ∧ v < 0xe000))
    (more : r ≠ []) :
    readString opening (fuel + 1) ⟨position, unitEscape v ++ r⟩ read =
      readString opening fuel ⟨position + 6, r⟩ (v :: read) := by
  obtain ⟨a, b, c, d, digits⟩ := hexDigits_four v
  have value := hex4?_hexDigits bound
  rw [digits] at value
  have long : ¬ ((a :: b :: c :: d :: r).length ≤ 4) := by
    have := List.length_pos_iff.2 more
    simp only [List.length_cons]
    omega
  -- a single unit is outside the range of the first half of a pair
  have noHigh : (decide (0xd800 ≤ v) && decide (v < 0xdc00)) = false := by
    rw [Bool.and_eq_false_iff, decide_eq_false_iff_not, decide_eq_false_iff_not]
    omega
  rw [unitEscape, digits]
  simp only [List.cons_append, List.nil_append, readString, long, if_false, List.take_succ_cons,
    List.take_zero, value, noHigh, Bool.false_and, Cursor.skip, Bool.false_eq_true]
  rfl

/-- Two units that are the halves of a pair. -/
theorem readString_pair {high low : Nat} (first : 0xd800 ≤ high ∧ high < 0xdc00)
    (second : 0xdc00 ≤ low ∧ low < 0xe000) (more : r ≠ []) :
    readString opening (fuel + 1) ⟨position, unitEscape high ++ (unitEscape low ++ r)⟩ read =
      readString opening fuel ⟨position + 6 + 6, r⟩
        ((0x10000 + (high - 0xd800) * 1024 + (low - 0xdc00)) :: read) := by
  obtain ⟨a, b, c, d, digits⟩ := hexDigits_four high
  obtain ⟨a', b', c', d', digits'⟩ := hexDigits_four low
  have value := hex4?_hexDigits (show high < 0x10000 by omega)
  have value' := hex4?_hexDigits (show low < 0x10000 by omega)
  rw [digits] at value
  rw [digits'] at value'
  have rest : 0 < r.length := List.length_pos_iff.2 more
  have long : ¬ ((a :: b :: c :: d :: '\\' :: 'u' :: a' :: b' :: c' :: d' :: r).length ≤ 4) := by
    simp only [List.length_cons]
    omega
  have long' : 6 < ('\\' :: 'u' :: a' :: b' :: c' :: d' :: r).length := by
    simp only [List.length_cons]
    -- behind the first half there is room for a whole escape, and the second half is in it
    omega
  rw [unitEscape, unitEscape, digits, digits']
  simp only [List.cons_append, List.nil_append, readString, long, if_false, List.take_succ_cons,
    List.take_zero, value, Cursor.skip, first, second, long', List.drop_succ_cons, List.drop_zero,
    value', decide_true, Bool.and_self, beq_self_eq_true, if_true]

/-- A character is a scalar value: no half of a pair, and below the last plane's end. -/
theorem toNat_bounds (c : Char) :
    c.toNat < 0xd800 ∨ (0xdfff < c.toNat ∧ c.toNat < 0x110000) :=
  c.valid

/-- **A written character is read as itself**, whatever follows it, as long as something does. -/
theorem readString_stringChar (opening fuel position : Nat) (read : List Nat) (c : Char)
    (more : r ≠ []) :
    ∃ behind, readString opening (fuel + 1) ⟨position, stringChar c ++ r⟩ read =
      readString opening fuel ⟨behind, r⟩ (c.toNat :: read) := by
  have bounds := toNat_bounds c
  unfold stringChar
  split
  · rename_i special
    rw [Bool.or_eq_true, decide_eq_true_eq, decide_eq_true_eq] at special
    exact ⟨_, readString_special special⟩
  · rename_i ordinary
    rw [Bool.or_eq_true, decide_eq_true_eq, decide_eq_true_eq, not_or] at ordinary
    -- a character is written as itself, as one unit or as two
    split
    · rename_i printable
      rw [Bool.and_eq_true, decide_eq_true_eq, decide_eq_true_eq] at printable
      exact ⟨_, readString_plain ordinary.1 ordinary.2 printable.1⟩
    · split
      · rename_i short
        exact ⟨_, readString_unit short (by omega) more⟩
      · rename_i long
        simp only [List.append_assoc]
        rw [readString_pair (by omega) (by omega) more]
        -- the halves of a pair add up to the character
        have value : 0x10000 + (0xd800 + (c.toNat - 0x10000) / 1024 - 0xd800) * 1024 +
            (0xdc00 + (c.toNat - 0x10000) % 1024 - 0xdc00) = c.toNat := by
          omega
        rw [value]
        exact ⟨_, rfl⟩

/-- **A written text is read as itself**, by induction on its characters. -/
theorem readString_flatMap (opening position : Nat) (r s : List Char) (read : List Nat)
    (enough : s.length < fuel) :
    ∃ behind, readString opening fuel ⟨position, s.flatMap stringChar ++ '"' :: r⟩ read =
      .ok (read.reverse ++ s.map Char.toNat, ⟨behind, r⟩) := by
  induction s generalizing fuel position read with
  | nil =>
    obtain ⟨fuel, rfl⟩ : ∃ n, fuel = n + 1 := Nat.exists_eq_succ_of_ne_zero (by omega)
    refine ⟨position + 1, ?_⟩
    rw [List.map_nil, List.append_nil]
    rfl
  | cons c s ih =>
    obtain ⟨fuel, rfl⟩ : ∃ n, fuel = n + 1 := Nat.exists_eq_succ_of_ne_zero (by omega)
    have enough' : s.length < fuel := by
      rw [List.length_cons] at enough
      omega
    rw [List.flatMap_cons, List.append_assoc]
    have more : s.flatMap stringChar ++ '"' :: r ≠ [] := by simp
    obtain ⟨next, step⟩ := readString_stringChar opening fuel position read c more
    obtain ⟨behind, rest⟩ := ih next (c.toNat :: read) enough'
    rw [step, rest, List.reverse_cons, List.append_assoc, List.singleton_append, List.map_cons]
    exact ⟨behind, rfl⟩

theorem length_le_flatMap (s : List Char) : s.length ≤ (s.flatMap stringChar).length := by
  induction s with
  | nil => exact Nat.le_refl 0
  | cons c s ih =>
    have written : 0 < (stringChar c).length := by
      unfold stringChar
      split
      · exact Nat.succ_pos _
      · split
        · exact Nat.succ_pos _
        · split
          · exact Nat.succ_pos _
          · exact Nat.succ_pos _
    rw [List.flatMap_cons, List.length_append, List.length_cons]
    omega

theorem toList_stringText (s : String) :
    (stringText s).toList = '"' :: (s.toList.flatMap stringChar ++ ['"']) := by
  rw [stringText, String.toList_ofList]
  rfl

/-- The quotes around a written text hold it, whatever stands behind them. -/
theorem readString_stringText (position : Nat) (s : String) (r : List Char) :
    ∃ behind, readString position ((stringText s).toList ++ r).length
        (Cursor.skip ⟨position, (stringText s).toList ++ r⟩ 1) [] =
      .ok (s.toList.map Char.toNat, ⟨behind, r⟩) := by
  have rest : Cursor.skip ⟨position, (stringText s).toList ++ r⟩ 1 =
      ⟨position + 1, s.toList.flatMap stringChar ++ '"' :: r⟩ := by
    rw [toList_stringText]
    simp [Cursor.skip]
  have enough : s.toList.length < ((stringText s).toList ++ r).length := by
    have longer := length_le_flatMap s.toList
    rw [toList_stringText]
    simp only [List.length_append, List.length_cons]
    omega
  obtain ⟨behind, result⟩ := readString_flatMap position (position + 1) r s.toList [] enough
  rw [rest, result, List.reverse_nil, List.nil_append]
  exact ⟨behind, rfl⟩

/-- No character is half of a surrogate pair. -/
theorem isHalf_toNat (c : Char) : isHalf c.toNat = false := by
  have bounds := toNat_bounds c
  rw [isHalf, Bool.and_eq_false_iff, decide_eq_false_iff_not, decide_eq_false_iff_not]
  omega

/-- The code points of a text are that text. -/
theorem ofPoints_toNat (s : String) : ofPoints (s.toList.map Char.toNat) = .string s := by
  have whole : (s.toList.map Char.toNat).any isHalf = false := by
    rw [List.any_map, List.any_eq_false]
    exact fun c _ ↦ by simp [isHalf_toNat c]
  rw [ofPoints, whole, if_neg Bool.false_ne_true, List.map_map]
  simp [Function.comp_def]

theorem nameOf_toNat (s : String) : nameOf (s.toList.map Char.toNat) = s := by
  rw [nameOf, List.map_map]
  simp [Function.comp_def, isHalf_toNat]

theorem head?_stringText (s : String) : ((stringText s).toList ++ r).head? = some '"' := by
  rw [toList_stringText]
  rfl

/-! ### Objects of texts -/

/-- A character that is passed over between the parts of a value. -/
def isGap (c : Char) : Bool :=
  c = ' ' || c = '\t' || c = '\n' || c = '\r'

/-- Nothing is passed over where no blank stands. -/
theorem skipBlanks_of_head {c : Char} {r : List Char} (solid : isGap c = false) :
    Cursor.skipBlanks ⟨position, c :: r⟩ = ⟨position, c :: r⟩ := by
  have none : ((c :: r).takeWhile fun d ↦ d = ' ' || d = '\t' || d = '\n' || d = '\r') = [] := by
    rw [List.takeWhile_cons]
    exact if_neg fun gap ↦ Bool.false_ne_true (solid.symm.trans gap)
  simp only [Cursor.skipBlanks, none]
  rfl

theorem skipBlanks_stringText (s : String) :
    Cursor.skipBlanks ⟨position, (stringText s).toList ++ r⟩ =
      ⟨position, (stringText s).toList ++ r⟩ := by
  rw [toList_stringText]
  exact skipBlanks_of_head (by decide)

theorem readValue_stringText (fuel position : Nat) (s : String) (r : List Char) :
    ∃ behind, readValue (fuel + 1) ⟨position, (stringText s).toList ++ r⟩ =
      .ok (.string s, ⟨behind, r⟩) := by
  obtain ⟨behind, result⟩ := readString_stringText position s r
  refine ⟨behind, ?_⟩
  rw [toList_stringText] at result ⊢
  simp only [List.cons_append] at result ⊢
  simp only [readValue, result, Except.map, ofPoints_toNat]

/-- An object whose members are texts. -/
def ofTexts (ms : List (String × String)) : Json :=
  .object (ms.map fun m ↦ (m.1, .string m.2))

/-- The characters of a member. -/
def memberChars (m : String × String) : List Char :=
  (stringText m.1).toList ++ ':' :: (stringText m.2).toList

theorem toList_text_ofTexts (ms : List (String × String)) :
    (ofTexts ms).text.toList = '\x7b' :: ([','].intercalate (ms.map memberChars) ++ ['\x7d']) := by
  have members : (memberTexts (ms.map fun m ↦ (m.1, .string m.2))).map String.toList =
      ms.map memberChars := by
    induction ms with
    | nil => rfl
    | cons m ms ih =>
      rw [List.map_cons, memberTexts, List.map_cons, List.map_cons, ih, memberChars, text]
      simp
  rw [ofTexts, text]
  simp [String.toList_intercalate, members]

/-- A member of a new name comes last. -/
theorem setMember_of_new {name : String} {value : Json} {ms : List (String × Json)}
    (new : name ∉ ms.map Prod.fst) : setMember name value ms = ms ++ [(name, value)] := by
  induction ms with
  | nil => rfl
  | cons m ms ih =>
    rw [List.map_cons, List.mem_cons, not_or] at new
    rw [setMember, if_neg (Ne.symm new.1), ih new.2, List.cons_append]

/-- One member is read, up to what stands behind it. -/
theorem readMembers_memberChars (fuel position : Nat) {d : Char} (r : List Char)
    {read : List (String × Json)} {m : String × String} (new : m.1 ∉ read.map Prod.fst)
    (solid : isGap d = false) :
    ∃ behind, readMembers (fuel + 1 + 1) ⟨position, memberChars m ++ d :: r⟩ read =
      match d :: r with
      | '\x7d' :: _ => .ok (.object (read ++ [(m.1, .string m.2)]), ⟨behind + 1, r⟩)
      | ',' :: _ =>
        readMembers (fuel + 1) (Cursor.skipBlanks ⟨behind + 1, r⟩) (read ++ [(m.1, .string m.2)])
      | _ => Cursor.fail ⟨behind, d :: r⟩ .comma := by
  obtain ⟨colon, name⟩ :=
    readString_stringText position m.1 (':' :: ((stringText m.2).toList ++ d :: r))
  obtain ⟨behind, value⟩ := readValue_stringText fuel (colon + 1) m.2 (d :: r)
  refine ⟨behind, ?_⟩
  have chars : memberChars m ++ d :: r =
      (stringText m.1).toList ++ ':' :: ((stringText m.2).toList ++ d :: r) := by
    simp [memberChars]
  -- nothing is blank between a name, its colon and its value
  have gap : Cursor.skipBlanks ⟨colon, ':' :: ((stringText m.2).toList ++ d :: r)⟩ =
      ⟨colon, ':' :: ((stringText m.2).toList ++ d :: r)⟩ := skipBlanks_of_head (by decide)
  have gap' : Cursor.skipBlanks
      (Cursor.skip ⟨colon, ':' :: ((stringText m.2).toList ++ d :: r)⟩ 1) =
        ⟨colon + 1, (stringText m.2).toList ++ d :: r⟩ := skipBlanks_stringText m.2
  rw [chars, readMembers]
  simp only [head?_stringText, bne_self_eq_false, Bool.false_eq_true, if_false, name, gap, gap',
    List.head?_cons, value, nameOf_toNat, skipBlanks_of_head solid, setMember_of_new new]
  rfl

/-- Members start with the name of the first. -/
theorem exists_intercalate (m : String × String) (ms : List (String × String)) :
    ∃ rest, [','].intercalate ((m :: ms).map memberChars) = (stringText m.1).toList ++ rest := by
  obtain ⟨rest, cut⟩ := exists_intercalate_cons [','] (memberChars m) (ms.map memberChars)
  rw [List.map_cons, cut, memberChars, List.append_assoc]
  exact ⟨_, rfl⟩

/-- **Members of distinct names are read as they were written**, by induction on the members. -/
theorem readMembers_intercalate (position : Nat) (r : List Char) {read : List (String × Json)}
    (m : String × String) (ms : List (String × String)) (enough : ms.length + 1 < fuel)
    (distinct : (read.map Prod.fst ++ (m :: ms).map Prod.fst).Nodup) :
    ∃ behind, readMembers fuel
        ⟨position, [','].intercalate ((m :: ms).map memberChars) ++ '\x7d' :: r⟩ read =
      .ok (.object (read ++ (m :: ms).map fun m ↦ (m.1, .string m.2)), ⟨behind, r⟩) := by
  induction ms generalizing m read position fuel with
  | nil =>
    obtain ⟨fuel, rfl⟩ : ∃ n, fuel = n + 1 + 1 := ⟨fuel - 2, by omega⟩
    have new : m.1 ∉ read.map Prod.fst := fun old ↦
      (List.nodup_append.1 distinct).2.2 m.1 old m.1 List.mem_cons_self rfl
    have solid : isGap '\x7d' = false := by decide
    obtain ⟨behind, last⟩ := readMembers_memberChars fuel position r new solid
    refine ⟨behind + 1, ?_⟩
    rw [List.map_singleton, List.intercalate_singleton, last]
    rfl
  | cons m' ms ih =>
    obtain ⟨fuel, rfl⟩ : ∃ n, fuel = n + 1 + 1 := ⟨fuel - 2, by omega⟩
    have new : m.1 ∉ read.map Prod.fst := fun old ↦
      (List.nodup_append.1 distinct).2.2 m.1 old m.1 List.mem_cons_self rfl
    have chars : [','].intercalate ((m :: m' :: ms).map memberChars) ++ '\x7d' :: r =
        memberChars m ++ ',' ::
          ([','].intercalate ((m' :: ms).map memberChars) ++ '\x7d' :: r) := by
      rw [List.map_cons, List.map_cons, List.intercalate_cons_cons]
      simp
    have solid : isGap ',' = false := by decide
    obtain ⟨behind, step⟩ := readMembers_memberChars fuel position
      ([','].intercalate ((m' :: ms).map memberChars) ++ '\x7d' :: r) new solid
    -- the next member begins with a quotation mark, so no blank is skipped
    have gap : Cursor.skipBlanks
        ⟨behind + 1, [','].intercalate ((m' :: ms).map memberChars) ++ '\x7d' :: r⟩ =
          ⟨behind + 1, [','].intercalate ((m' :: ms).map memberChars) ++ '\x7d' :: r⟩ := by
      obtain ⟨rest, starts⟩ := exists_intercalate m' ms
      rw [starts, List.append_assoc, skipBlanks_stringText]
    have distinct' : ((read ++ [(m.1, Json.string m.2)]).map Prod.fst ++
        (m' :: ms).map Prod.fst).Nodup := by
      simpa using distinct
    have enough' : ms.length + 1 < fuel + 1 := by
      rw [List.length_cons] at enough
      omega
    obtain ⟨behind', rest⟩ := ih (behind + 1) m' enough' distinct'
    refine ⟨behind', ?_⟩
    rw [chars, step]
    simp only [gap, rest]
    simp

theorem readValue_ofTexts (position : Nat) (r : List Char) (ms : List (String × String))
    (enough : ms.length + 1 < fuel) (distinct : (ms.map Prod.fst).Nodup) :
    ∃ behind, readValue (fuel + 1) ⟨position, (ofTexts ms).text.toList ++ r⟩ =
      .ok (ofTexts ms, ⟨behind, r⟩) := by
  rw [toList_text_ofTexts]
  cases ms with
  | nil =>
    refine ⟨position + 1 + 1, ?_⟩
    have inside : Cursor.skipBlanks ⟨position + 1, '\x7d' :: r⟩ = ⟨position + 1, '\x7d' :: r⟩ :=
      skipBlanks_of_head (by decide)
    simp [readValue, Cursor.skip, inside, ofTexts]
  | cons m ms =>
    rw [List.length_cons] at enough
    have unread : (([] : List (String × Json)).map Prod.fst ++ (m :: ms).map Prod.fst).Nodup :=
      distinct
    obtain ⟨behind, members⟩ :=
      readMembers_intercalate (position + 1) r m ms (show ms.length + 1 < fuel by omega) unread
    obtain ⟨rest, starts⟩ := exists_intercalate m ms
    -- behind the brace stands a member, not a blank or the end
    have inside : Cursor.skipBlanks
        ⟨position + 1, [','].intercalate ((m :: ms).map memberChars) ++ '\x7d' :: r⟩ =
          ⟨position + 1, [','].intercalate ((m :: ms).map memberChars) ++ '\x7d' :: r⟩ := by
      rw [starts, List.append_assoc, skipBlanks_stringText]
    have head : ([','].intercalate ((m :: ms).map memberChars) ++ '\x7d' :: r).head? =
        some '"' := by
      rw [starts, List.append_assoc, head?_stringText]
    refine ⟨behind, ?_⟩
    simp only [List.cons_append, List.append_assoc, List.nil_append, readValue, Cursor.skip,
      List.drop_succ_cons, List.drop_zero, inside, head, members]
    rfl

theorem length_le_intercalate (ms : List (String × String)) :
    ms.length ≤ ([','].intercalate (ms.map memberChars)).length := by
  induction ms with
  | nil => exact Nat.zero_le _
  | cons m ms ih =>
    have written : 0 < (memberChars m).length := by
      rw [memberChars, toList_stringText]
      exact Nat.succ_pos _
    cases ms with
    | nil =>
      rw [List.map_singleton, List.intercalate_singleton]
      exact written
    | cons m' ms =>
      rw [List.map_cons, List.map_cons, List.intercalate_cons_cons, ← List.map_cons]
      simp only [List.length_append, List.length_cons] at ih ⊢
      omega

/-- **An object of texts is read as it was written**, if its names are distinct. -/
theorem parse_text_ofTexts (ms : List (String × String)) (distinct : (ms.map Prod.fst).Nodup) :
    parse (ofTexts ms).text = .ok (ofTexts ms) := by
  have start : Cursor.skipBlanks ⟨0, (ofTexts ms).text.toList⟩ =
      ⟨0, (ofTexts ms).text.toList⟩ := by
    rw [toList_text_ofTexts]
    exact skipBlanks_of_head (by decide)
  -- two steps for each character are more than one for each member
  have enough : ms.length + 1 < 2 * (ofTexts ms).text.toList.length + 1 := by
    have longer := length_le_intercalate ms
    rw [toList_text_ofTexts]
    simp only [List.length_cons, List.length_append]
    omega
  obtain ⟨behind, read⟩ := readValue_ofTexts 0 [] ms enough distinct
  rw [List.append_nil] at read
  simp only [parse, start, read]
  rfl

/-! ### Nesting -/

/-- A scan inside a string. -/
def Nesting.quoted (n : Nesting) : Nesting :=
  { n with inString := true, escaped := false }

/-- Inside a string only its end and what announces an escape count. -/
theorem step_quoted {n : Nesting} (quote : c ≠ '"') (backslash : c ≠ '\\') :
    n.quoted.step c = n.quoted := by
  simp [Nesting.step, Nesting.quoted, quote, backslash]

/-- Behind a backslash no character counts. -/
theorem foldl_escape {n : Nesting} (c : Char) :
    ['\\', c].foldl Nesting.step n.quoted = n.quoted := by
  simp [Nesting.step, Nesting.quoted]

theorem foldl_hexDigits {n : Nesting} (width v : Nat) :
    (hexDigits width v).foldl Nesting.step n.quoted = n.quoted := by
  have plain : ∀ k < 16, hexDigit k ≠ '"' ∧ hexDigit k ≠ '\\' := by decide
  induction width generalizing v with
  | zero => rfl
  | succ width ih =>
    obtain ⟨quote, backslash⟩ := plain (v % 16) (Nat.mod_lt v (by decide))
    rw [hexDigit_mod] at quote backslash
    rw [hexDigits, List.foldl_append, ih, List.foldl_cons, step_quoted quote backslash]
    rfl

theorem foldl_unitEscape {n : Nesting} (v : Nat) :
    (unitEscape v).foldl Nesting.step n.quoted = n.quoted := by
  have cut : unitEscape v = ['\\', 'u'] ++ hexDigits 4 v := rfl
  rw [cut, List.foldl_append, foldl_escape, foldl_hexDigits]

/-- A written character leaves a scan inside the string. -/
theorem foldl_stringChar {n : Nesting} (c : Char) :
    (stringChar c).foldl Nesting.step n.quoted = n.quoted := by
  unfold stringChar
  split
  · exact foldl_escape c
  · rename_i ordinary
    rw [Bool.or_eq_true, decide_eq_true_eq, decide_eq_true_eq, not_or] at ordinary
    split
    · exact step_quoted ordinary.1 ordinary.2
    · split
      · exact foldl_unitEscape _
      · simp only [List.foldl_append, foldl_unitEscape]

/-- **A text in its quotes is passed over**, whatever brackets it holds. -/
theorem foldl_stringText {n : Nesting} (outside : n.inString = false) (plain : n.escaped = false)
    (s : String) : (stringText s).toList.foldl Nesting.step n = n := by
  have opened : n.step '"' = n.quoted := by
    simp [Nesting.step, Nesting.quoted, outside, plain]
  -- inside a string no bracket counts
  have inside (s : List Char) : (s.flatMap stringChar).foldl Nesting.step n.quoted = n.quoted := by
    induction s with
    | nil => rfl
    | cons c s ih => rw [List.flatMap_cons, List.foldl_append, foldl_stringChar, ih]
  have closed : n.quoted.step '"' = n := by
    obtain ⟨depth, deepest, inString, escaped⟩ := n
    obtain rfl : inString = false := outside
    obtain rfl : escaped = false := plain
    rfl
  rw [toList_stringText, List.foldl_cons, opened, List.foldl_append, inside]
  exact closed

theorem foldl_memberChars {n : Nesting} (outside : n.inString = false) (plain : n.escaped = false)
    (m : String × String) : (memberChars m).foldl Nesting.step n = n := by
  have colon : n.step ':' = n := by simp [Nesting.step, outside]
  rw [memberChars, List.foldl_append, foldl_stringText outside plain, List.foldl_cons, colon,
    foldl_stringText outside plain]

/-- **An object of texts has one level.** -/
theorem nesting_text_ofTexts (ms : List (String × String)) :
    nesting (ofTexts ms).text.toList = 1 := by
  let inside : Nesting := { depth := 1, deepest := 1 }
  have opened : Nesting.step {} '\x7b' = inside := rfl
  have comma : inside.step ',' = inside := rfl
  have members (ms : List (String × String)) :
      ([','].intercalate (ms.map memberChars)).foldl Nesting.step inside = inside := by
    induction ms with
    | nil => rfl
    | cons m ms ih =>
      cases ms with
      | nil =>
        rw [List.map_singleton, List.intercalate_singleton, foldl_memberChars rfl rfl]
      | cons m' ms =>
        rw [List.map_cons, List.map_cons, List.intercalate_cons_cons, ← List.map_cons,
          List.foldl_append, List.foldl_append, foldl_memberChars rfl rfl, List.foldl_cons, comma]
        exact ih
  rw [nesting, toList_text_ofTexts, List.foldl_cons, opened, List.foldl_append, members]
  rfl

end AuthRealm.Text.Json
