import AuthRealm.Proofs.Storage.PathText
import AuthRealm.Settings.Basic

/-!
# Names without a NUL

No file system has a name with a NUL in it, and no link points to one. So a path is spoilt by a NUL
only where someone wrote one: **resolving a path brings in none** (`clean_resolve`), as whatever
names it comes to are those of the path and of the links on the way, and what is read back as a text
has none either (`hasNul_ofLocation`).
-/

namespace AuthRealm.Storage

open Text

/-- Names of which none has a NUL. -/
def Clean (names : List String) : Prop :=
  ∀ name ∈ names, hasNul name = false

theorem Clean.nil : Clean [] := nofun

theorem Clean.append {l l' : List String} (h : Clean l) (h' : Clean l') : Clean (l ++ l') :=
  List.forall_mem_append.2 ⟨h, h'⟩

theorem Clean.dropLast {l : List String} (h : Clean l) : Clean l.dropLast :=
  fun _ mem ↦ h _ (List.dropLast_subset l mem)

/-! ### Names and texts -/

theorem hasNul_eq_false_iff {s : String} : hasNul s = false ↔ '\x00' ∉ s.toList := by
  rw [hasNul, ← Bool.not_eq_true, List.contains_iff_mem]

/-- The names of a path are in its text. -/
theorem Path.clean_names {p : Path} (h : hasNul p.text = false) : Clean p.names := by
  intro name mem
  rw [hasNul_eq_false_iff] at h ⊢
  intro nul
  refine h ?_
  have given : (p.root == "" && p.names.isEmpty) = false := by
    rw [List.isEmpty_eq_false_iff.2 (List.ne_nil_of_mem mem), Bool.and_false]
  rw [Path.text, given, if_neg Bool.false_ne_true, String.toList_append, String.toList_intercalate]
  exact List.mem_append_right _ (mem_intercalate_of_mem (List.mem_map_of_mem mem) nul)

/-- The text of a location has nothing in it but its names and slashes. -/
theorem hasNul_ofLocation {l : Location} (h : Clean l) :
    hasNul (Path.ofLocation l).text = false := by
  rw [hasNul_eq_false_iff]
  intro nul
  rw [Path.toList_text_ofLocation, List.mem_cons] at nul
  rcases nul with slash | nul
  · exact absurd slash (by decide)
  · rcases of_mem_intercalate nul with slash | ⟨s, part, nul⟩
    · exact absurd slash (by decide)
    · obtain ⟨name, mem, rfl⟩ := List.mem_map.1 part
      exact hasNul_eq_false_iff.1 (h name mem) nul

/-- What is read as a path has the names of its text. -/
theorem clean_ofText {s : String} (h : hasNul s = false) : Clean (Path.ofText s).names := by
  intro name mem
  rw [hasNul_eq_false_iff] at h ⊢
  obtain ⟨f, kept, rfl⟩ := List.mem_map.1 mem
  rw [String.toList_ofList]
  exact fun nul ↦ h (mem_of_mem_fields (List.mem_filter.1 kept).1 nul)

/-! ### Resolving -/

theorem Clean.step {l : Location} {name : String} (h : Clean l) (clean : hasNul name = false) :
    Clean (l.step name) := by
  unfold Location.step
  split
  · exact h
  · split
    · exact h.dropLast
    · exact h.append (List.forall_mem_singleton.2 clean)

theorem Clean.normal {l : Location} {names : List String} (h : Clean l) (clean : Clean names) :
    Clean (Location.normal l names) := by
  induction names generalizing l with
  | nil => exact h
  | cons name rest ih =>
    obtain ⟨first, later⟩ := List.forall_mem_cons.1 clean
    exact ih (h.step first) later

namespace Tree

/-- The links of a tree point to no name with a NUL. -/
def CleanLinks (t : Tree) : Prop :=
  ∀ l target, t.get? l = some (.link target) → hasNul target = false

/-- Where the links that have been met led has no NUL. -/
def CleanSeen (seen : List (Location × Option Location)) : Prop :=
  ∀ l done, (l, some done) ∈ seen → Clean done

theorem names_map_append (names : List String) (rest : List Pending) :
    Pending.names (names.map .name ++ rest) = names ++ Pending.names rest := by
  induction names with
  | nil => rfl
  | cons name names ih => exact congrArg (name :: ·) ih

/-- **Resolving brings in no NUL**, by induction on the steps: what has been reached, what remains
and where the links led are clean throughout. -/
theorem clean_resolveFrom {t : Tree} (links : t.CleanLinks) (fuel : Nat)
    {seen : List (Location × Option Location)} {at' : Location} {rest : List Pending}
    (led : CleanSeen seen) (reached : Clean at') (remains : Clean (Pending.names rest)) :
    Clean (t.resolveFrom fuel seen at' rest).location := by
  fun_induction Tree.resolveFrom t fuel seen at' rest with
  | case1 seen at' rest => exact reached.normal remains
  | case2 => exact reached
  | case3 fuel seen at' l rest ih =>
    refine ih (fun l' done mem ↦ ?_) reached remains
    -- a link that ends here is recorded with the clean place reached
    rcases List.mem_cons.1 mem with same | mem
    · cases same
      exact reached
    · exact led l' done mem
  | case4 fuel seen at' n rest next dots ih =>
    obtain ⟨first, later⟩ := List.forall_mem_cons.1 remains
    exact ih led (reached.step first) later
  | case5 fuel seen at' n rest next dots target link done met ih =>
    obtain ⟨first, later⟩ := List.forall_mem_cons.1 remains
    obtain ⟨e, found, same⟩ := Option.map_eq_some_iff.1 met
    -- where the link was seen to lead is clean, as every record is
    have mem : (e.1, some done) ∈ seen := same ▸ List.mem_of_find?_eq_some found
    exact ih led (led _ done mem) later
  | case6 fuel seen at' n rest next dots target link met =>
    obtain ⟨first, later⟩ := List.forall_mem_cons.1 remains
    exact (reached.step first).normal later
  | case7 fuel seen at' n rest next dots target link met path ih =>
    obtain ⟨first, later⟩ := List.forall_mem_cons.1 remains
    refine ih (fun l' done mem ↦ ?_) ?_ ?_
    · rcases List.mem_cons.1 mem with same | mem
      · cases same
      · exact led l' done mem
    · -- a target is read from the root or from the folder of its link
      split
      · exact .nil
      · exact reached
    · rw [names_map_append]
      exact (clean_ofText (links _ _ (get?_of_look? link))).append later
  | case8 fuel seen at' n rest next dots noLink ih =>
    obtain ⟨first, later⟩ := List.forall_mem_cons.1 remains
    exact ih led (reached.step first) later

/-- **What a path resolves to has no NUL** if the path has none. -/
theorem clean_resolve {t : Tree} (links : t.CleanLinks) {p : Path} (h : Clean p.names) :
    Clean (t.resolve p).location := by
  have names := names_map_append p.names []
  rw [List.append_nil] at names
  exact clean_resolveFrom links _ nofun .nil (names ▸ h.append .nil)

end Tree

end AuthRealm.Storage
