import AuthRealm.Text.Fields
import Mathlib.Algebra.GroupWithZero.Nat

/-!
# Texts cut and put together

A text put together of pieces with a separator between them is cut into the same pieces
(`fields_intercalate`), provided that none of them has the separator in it; and no field has
(`sep_notMem_of_mem_fields`). Nothing else comes or goes on the way (`mem_of_mem_fields`,
`of_mem_intercalate`).

A text in which a part does not occur is not changed by replacing it (`replace_of_not_contains`).
-/

namespace AuthRealm.Text

/-! ### Cutting -/

/-- The fields on the two sides of a separator. -/
theorem fields_append_cons (sep : Char) (s r : List Char) :
    fields sep (s ++ sep :: r) = fields sep s ++ fields sep r := by
  induction s with
  | nil => simp only [List.nil_append, fields, if_true, List.singleton_append]
  | cons c s ih =>
    rw [List.cons_append, fields, fields, ih]
    split
    · rfl
    · obtain ⟨f, fs, cut⟩ := List.exists_cons_of_ne_nil (fields_ne_nil sep s)
      rw [cut]
      rfl

/-- A field ends at the first separator. -/
theorem fields_append {sep : Char} {f : List Char} (r : List Char) (h : sep ∉ f) :
    fields sep (f ++ sep :: r) = f :: fields sep r := by
  rw [fields_append_cons, fields_of_not_mem h, List.singleton_append]

/-- A text is cut at its last separator in one way only. -/
theorem append_cons_inj {sep : Char} {s s' f f' : List Char} (h : sep ∉ f) (h' : sep ∉ f')
    (same : s ++ sep :: f = s' ++ sep :: f') : s = s' ∧ f = f' := by
  have cut := congrArg (fields sep) same
  rw [fields_append_cons, fields_append_cons, fields_of_not_mem h, fields_of_not_mem h'] at cut
  obtain rfl : f = f' := List.singleton_inj.1 (List.append_inj_right' cut rfl)
  exact ⟨List.append_cancel_right same, rfl⟩

/-- No field has the separator in it. -/
theorem sep_notMem_of_mem_fields {sep : Char} {s f : List Char} (mem : f ∈ fields sep s) :
    sep ∉ f := by
  induction s generalizing f with
  | nil =>
    obtain rfl := List.mem_singleton.1 mem
    exact List.not_mem_nil
  | cons c r ih =>
    obtain ⟨g, gs, cut⟩ := List.exists_cons_of_ne_nil (fields_ne_nil sep r)
    rw [fields] at mem
    split at mem
    · rcases List.mem_cons.1 mem with rfl | mem
      · exact List.not_mem_nil
      · exact ih mem
    · -- a character that is no separator goes in front of the first field of the rest
      rename_i other
      rw [cut] at ih mem
      rcases List.mem_cons.1 mem with rfl | mem
      · rw [List.mem_cons, not_or]
        exact ⟨Ne.symm other, ih List.mem_cons_self⟩
      · exact ih (List.mem_cons_of_mem _ mem)

/-- The fields of a text have nothing in them that the text has not. -/
theorem mem_of_mem_fields {c sep : Char} {s f : List Char} (mem : f ∈ fields sep s)
    (within : c ∈ f) : c ∈ s := by
  induction s generalizing f with
  | nil =>
    obtain rfl := List.mem_singleton.1 mem
    exact within
  | cons d r ih =>
    rw [fields] at mem
    split at mem
    · rcases List.mem_cons.1 mem with rfl | mem
      · exact absurd within List.not_mem_nil
      · exact List.mem_cons_of_mem _ (ih mem within)
    · split at mem
      · obtain rfl := List.mem_singleton.1 mem
        rw [List.mem_singleton] at within
        exact within ▸ List.mem_cons_self
      · -- only the first field has changed, by the one character in front of it
        rename_i g gs cut
        rcases List.mem_cons.1 mem with rfl | mem
        · rcases List.mem_cons.1 within with rfl | within
          · exact List.mem_cons_self
          · exact List.mem_cons_of_mem _ (ih (cut ▸ List.mem_cons_self) within)
        · exact List.mem_cons_of_mem _ (ih (cut ▸ List.mem_cons_of_mem _ mem) within)

/-- Fields have all characters but the separators between them. -/
theorem sum_length_fields (sep : Char) (s : List Char) :
    ((fields sep s).map fun f ↦ f.length + 1).sum = s.length + 1 := by
  induction s with
  | nil => rfl
  | cons c r ih =>
    obtain ⟨f, fs, cut⟩ := List.exists_cons_of_ne_nil (fields_ne_nil sep r)
    rw [cut, List.map_cons, List.sum_cons] at ih
    rw [fields, cut]
    split
    · simp only [List.map_cons, List.sum_cons, List.length_nil, List.length_cons]
      omega
    · simp only [List.map_cons, List.sum_cons, List.length_cons]
      omega

/-- There is one field more than there are separators. -/
theorem length_fields (sep : Char) (s : List Char) :
    (fields sep s).length = s.count sep + 1 := by
  induction s with
  | nil => rfl
  | cons c r ih =>
    rw [fields]
    split
    · rename_i same
      rw [same, List.length_cons, ih, List.count_cons_self]
    · rename_i other
      obtain ⟨f, fs, cut⟩ := List.exists_cons_of_ne_nil (fields_ne_nil sep r)
      rw [List.count_cons_of_ne other, ← ih, cut, List.length_cons, List.length_cons]

/-- There is no cut in a text without the separator. -/
theorem cutAt_eq_none_iff {sep : Char} {s before : List Char} :
    cutAt sep s = (before, none) ↔ s = before ∧ sep ∉ before := by
  have uncut (absent : sep ∉ s) : cutAt sep s = (s, none) := by
    induction s with
    | nil => rfl
    | cons c r ih =>
      rw [List.mem_cons, not_or] at absent
      rw [cutAt, if_neg (Ne.symm absent.1), ih absent.2]
  constructor
  · intro cut
    have absent : sep ∉ s := snd_cutAt_eq_none_iff.1 (congrArg Prod.snd cut)
    obtain rfl : s = before := congrArg Prod.fst ((uncut absent).symm.trans cut)
    exact ⟨rfl, absent⟩
  · rintro ⟨rfl, absent⟩
    exact uncut absent

/-- What is in front of a cut is the text up to the first separator, or all of it. -/
theorem fst_cutAt_eq_iff {sep : Char} {s before : List Char} :
    (cutAt sep s).1 = before ↔
      sep ∉ before ∧ ∃ rest, s = before ++ rest ∧ (rest = [] ∨ rest.head? = some sep) := by
  constructor
  · rintro rfl
    rcases cut : cutAt sep s with ⟨before, _ | after⟩
    · obtain ⟨rfl, absent⟩ := cutAt_eq_none_iff.1 cut
      exact ⟨absent, [], (List.append_nil s).symm, .inl rfl⟩
    · obtain ⟨rfl, absent⟩ := cutAt_eq_some_iff.1 cut
      exact ⟨absent, sep :: after, rfl, .inr rfl⟩
  · rintro ⟨absent, rest, rfl, rfl | separated⟩
    · rw [List.append_nil, cutAt_eq_none_iff.2 ⟨rfl, absent⟩]
    · obtain ⟨after, rfl⟩ : ∃ after, rest = sep :: after := List.head?_eq_some_iff.1 separated
      rw [cutAt_eq_some_iff.2 ⟨rfl, absent⟩]

/-! ### Putting together -/

theorem mem_intercalate_of_mem {c : Char} {sep s : List Char} {parts : List (List Char)}
    (mem : s ∈ parts) (within : c ∈ s) : c ∈ sep.intercalate parts := by
  induction parts with
  | nil => exact absurd mem List.not_mem_nil
  | cons first rest ih =>
    cases rest with
    | nil =>
      obtain rfl := List.mem_singleton.1 mem
      rwa [List.intercalate_singleton]
    | cons second rest =>
      rw [List.intercalate_cons_cons]
      rcases List.mem_cons.1 mem with rfl | mem
      · exact List.mem_append_left _ (List.mem_append_left _ within)
      · exact List.mem_append_right _ (ih mem)

theorem of_mem_intercalate {c : Char} {sep : List Char} {parts : List (List Char)}
    (mem : c ∈ sep.intercalate parts) : c ∈ sep ∨ ∃ s ∈ parts, c ∈ s := by
  induction parts with
  | nil => exact absurd mem List.not_mem_nil
  | cons first rest ih =>
    cases rest with
    | nil =>
      rw [List.intercalate_singleton] at mem
      exact Or.inr ⟨first, List.mem_cons_self, mem⟩
    | cons second rest =>
      rw [List.intercalate_cons_cons, List.mem_append, List.mem_append] at mem
      rcases mem with (mem | mem) | mem
      · exact Or.inr ⟨first, List.mem_cons_self, mem⟩
      · exact Or.inl mem
      · rcases ih mem with mem | ⟨s, later, mem⟩
        · exact Or.inl mem
        · exact Or.inr ⟨s, List.mem_cons_of_mem _ later, mem⟩

theorem exists_intercalate_cons (sep f : List Char) (fs : List (List Char)) :
    ∃ r, sep.intercalate (f :: fs) = f ++ r := by
  cases fs with
  | nil => exact ⟨[], by rw [List.intercalate_singleton, List.append_nil]⟩
  | cons g fs => exact ⟨_, by rw [List.intercalate_cons_cons, List.append_assoc]⟩

theorem length_intercalate (sep : Char) {parts : List (List Char)} (nonempty : parts ≠ []) :
    ([sep].intercalate parts).length + 1 = (parts.map fun f ↦ f.length + 1).sum := by
  induction parts with
  | nil => exact absurd rfl nonempty
  | cons f parts ih =>
    cases parts with
    | nil => rw [List.intercalate_singleton, List.map_singleton, List.sum_singleton]
    | cons g parts =>
      have rest := ih (List.cons_ne_nil g parts)
      rw [List.intercalate_cons_cons, List.map_cons, List.sum_cons, ← rest]
      simp only [List.length_append, List.length_singleton]
      omega

/-- **Pieces without the separator are found again.** -/
theorem fields_intercalate {sep : Char} {parts : List (List Char)} (nonempty : parts ≠ [])
    (free : ∀ f ∈ parts, sep ∉ f) : fields sep ([sep].intercalate parts) = parts := by
  induction parts with
  | nil => exact absurd rfl nonempty
  | cons f parts ih =>
    obtain ⟨first, others⟩ := List.forall_mem_cons.1 free
    cases parts with
    | nil => rw [List.intercalate_singleton, fields_of_not_mem first]
    | cons g parts =>
      rw [List.intercalate_cons_cons, List.append_assoc, List.singleton_append,
        fields_append _ first, ih (List.cons_ne_nil g parts) others]

/-! ### Replacing -/

/-- Where a part does not occur there is nothing to replace. -/
theorem replace_of_not_contains {part s : List Char} (new : List Char)
    (absent : contains part s = false) : replace part new s = s := by
  rw [replace]
  induction s with
  | nil => rfl
  | cons c r ih =>
    obtain ⟨notHere, later⟩ := Bool.or_eq_false_iff.1 absent
    rw [replaceAux, notHere, if_neg Bool.false_ne_true, ih later]

end AuthRealm.Text
