/-!
# Fields of a text

A text cut at every occurrence of a separator. `fields` keeps empty fields, so that
`joinFields_fields` gives the text back, and it never answers with no field at all
(`fields_ne_nil`).
-/

namespace AuthRealm.Text

/-- The pieces of a text between the occurrences of `sep`, empty pieces included. -/
def fields (sep : Char) : List Char → List (List Char)
  | [] => [[]]
  | c :: r =>
    if c = sep then [] :: fields sep r
    else
      match fields sep r with
      | [] => [[c]]
      | f :: fs => (c :: f) :: fs

/-- Pieces with `sep` between them. -/
def joinFields (sep : Char) : List (List Char) → List Char
  | [] => []
  | [f] => f
  | f :: g :: fs => f ++ sep :: joinFields sep (g :: fs)

/-- The text before the first `sep`, and the text after it if there is one. -/
def cutAt (sep : Char) : List Char → List Char × Option (List Char)
  | [] => ([], none)
  | c :: r =>
    if c = sep then ([], some r)
    else
      let (before, after) := cutAt sep r
      (c :: before, after)

/-- The rest of a text after `start`, if it starts so. -/
def after? (start s : List Char) : Option (List Char) :=
  if start.isPrefixOf s then some (s.drop start.length) else none

/-- Whether `part` occurs in a text. -/
def contains (part : List Char) : List Char → Bool
  | [] => part.isEmpty
  | c :: r => part.isPrefixOf (c :: r) || contains part r

/-- The text with every occurrence of a nonempty `part`, found from the left, replaced by `new`.
`skip` counts the characters of an occurrence that are still to be passed over. -/
def replaceAux (part new : List Char) : Nat → List Char → List Char
  | _, [] => []
  | skip + 1, _ :: r => replaceAux part new skip r
  | 0, c :: r =>
    if part.isPrefixOf (c :: r) then new ++ replaceAux part new (part.length - 1) r
    else c :: replaceAux part new 0 r

/-- The text with every occurrence of a nonempty `part` replaced by `new`. -/
def replace (part new s : List Char) : List Char :=
  replaceAux part new 0 s

/-! ### Nothing is lost -/

theorem fields_ne_nil (sep : Char) (s : List Char) : fields sep s ≠ [] := by
  induction s with
  | nil => simp [fields]
  | cons c r ih =>
    simp only [fields]
    split
    · simp
    · split <;> simp

/-- Joining the fields gives the text back. -/
theorem joinFields_fields (sep : Char) (s : List Char) : joinFields sep (fields sep s) = s := by
  -- a separator starts a new field, any other character goes to the front of the first one
  induction s with
  | nil => rfl
  | cons c r ih =>
    simp only [fields]
    split
    · rename_i h
      subst h
      match hf : fields c r with
      | [] => exact absurd hf (fields_ne_nil c r)
      | f :: fs => rw [hf] at ih; simp [joinFields, ih]
    · match hf : fields sep r with
      | [] => exact absurd hf (fields_ne_nil sep r)
      | [f] => rw [hf] at ih; simpa [joinFields] using ih
      | f :: g :: fs => rw [hf] at ih; simpa [joinFields] using ih

/-- A text without the separator is one field. -/
theorem fields_of_not_mem {sep : Char} {s : List Char} (h : sep ∉ s) : fields sep s = [s] := by
  induction s with
  | nil => rfl
  | cons c r ih =>
    rw [List.mem_cons, not_or] at h
    rw [fields, if_neg (Ne.symm h.1), ih h.2]

/-- The cut is at the first separator. -/
theorem cutAt_eq_some_iff {sep : Char} {s before after : List Char} :
    cutAt sep s = (before, some after) ↔ s = before ++ sep :: after ∧ sep ∉ before := by
  induction s generalizing before with
  | nil => simp [cutAt]
  | cons c r ih =>
    by_cases hc : c = sep
    · -- the cut is made at the first separator, so nothing stands before it
      subst hc
      simp only [cutAt, if_true, Prod.mk.injEq, Option.some.injEq]
      constructor
      · rintro ⟨rfl, rfl⟩
        simp
      · rintro ⟨h, hn⟩
        cases before with
        | nil => simpa using h
        | cons d b => simp_all
    · -- any other character belongs to the part before the cut
      simp only [cutAt, hc, if_false, Prod.mk.injEq]
      constructor
      · rintro ⟨rfl, h⟩
        obtain ⟨h1, h2⟩ := ih.mp (Prod.ext rfl h)
        exact ⟨by simpa using h1, by simp [h2, Ne.symm hc]⟩
      · rintro ⟨h, hn⟩
        cases before with
        | nil => simp_all
        | cons d b =>
          simp only [List.cons_append, List.cons.injEq] at h
          obtain ⟨rfl, h⟩ := h
          have hb := ih.mpr ⟨h, fun hm ↦ hn (List.mem_cons_of_mem _ hm)⟩
          simp [hb]

/-- Nothing is cut off exactly when there is no separator. -/
theorem snd_cutAt_eq_none_iff {sep : Char} {s : List Char} : (cutAt sep s).2 = none ↔ sep ∉ s := by
  induction s with
  | nil => simp [cutAt]
  | cons c r ih =>
    by_cases hc : c = sep
    · simp [cutAt, hc]
    · simp [cutAt, hc, ih, Ne.symm hc]

/-- A text starts with `start` exactly when it is `start` and a rest. -/
theorem after?_eq_some_iff {start s r : List Char} : after? start s = some r ↔ s = start ++ r := by
  simp only [after?]
  constructor
  · intro h
    split at h
    · rename_i hp
      obtain ⟨t, rfl⟩ := List.isPrefixOf_iff_prefix.mp hp
      simpa [eq_comm] using h
    · simp at h
  · rintro rfl
    simp [List.isPrefixOf_iff_prefix]

end AuthRealm.Text
