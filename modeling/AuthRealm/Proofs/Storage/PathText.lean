import AuthRealm.Proofs.Text.Fields
import AuthRealm.Storage.Path

/-!
# Paths as texts

What a path is read from, and what it is printed as. Reading leaves no slash in a name, no empty
name and no single dot (`isName_of_mem_ofText`). A location whose names are like that, and no double
dot either, is `Proper`: **it is printed as a text that is read as this location again**
(`ofText_text`).
-/

namespace AuthRealm.Storage

open Text

/-- A name that enters nothing: it stays, or goes up. -/
def IsDots (n : String) : Prop :=
  n = "" ∨ n = "." ∨ n = ".."

theorem Location.step_of_enters {l : Location} {n : String} (enters : ¬ IsDots n) :
    l.step n = l ++ [n] := by
  obtain ⟨notEmpty, notDot, notUp⟩ := not_or.1 enters |>.imp_right not_or.1
  rw [Location.step, if_neg (by simp [notEmpty, notDot]), if_neg notUp]

/-- A name has no slash in it. -/
def IsName (n : String) : Prop :=
  '/' ∉ n.toList

/-- **Names that a location can have**: each enters something, and is one name. -/
def Proper (l : Location) : Prop :=
  ∀ n ∈ l, IsName n ∧ ¬ IsDots n

theorem Proper.nil : Proper [] := nofun

theorem Proper.concat {l : Location} {n : String} (h : Proper l) (name : IsName n)
    (enters : ¬ IsDots n) : Proper (l ++ [n]) :=
  List.forall_mem_append.2 ⟨h, List.forall_mem_singleton.2 ⟨name, enters⟩⟩

theorem Proper.dropLast {l : Location} (h : Proper l) : Proper l.dropLast :=
  fun n mem ↦ h n (List.dropLast_subset l mem)

theorem Proper.step_dots {l : Location} {n : String} (h : Proper l) (dots : IsDots n) :
    Proper (l.step n) := by
  rcases dots with rfl | rfl | rfl
  · exact h
  · exact h
  · exact h.dropLast

namespace Path

theorem text_ofLocation (l : Location) :
    (ofLocation l).text = "/" ++ String.intercalate "/" l := rfl

theorem toList_text_ofLocation (l : Location) :
    (ofLocation l).text.toList = '/' :: ['/'].intercalate (l.map String.toList) := by
  have slash : "/".toList = ['/'] := rfl
  rw [text_ofLocation, String.toList_append, String.toList_intercalate, slash,
    List.singleton_append]

/-- A path takes no more room than one further down. -/
theorem utf8ByteSize_text_le {k l : Location} (above : k <+: l) :
    (ofLocation k).text.utf8ByteSize ≤ (ofLocation l).text.utf8ByteSize := by
  obtain ⟨m, rfl⟩ := above
  by_cases top : k = []
  · rw [top, text_ofLocation, text_ofLocation, String.utf8ByteSize_append,
      String.utf8ByteSize_append, String.intercalate_nil]
    exact Nat.add_le_add_left (Nat.zero_le _) _
  · -- a longer path repeats the shorter one and goes on with a separator
    by_cases same : m = []
    · exact Nat.le_of_eq (by rw [same, List.append_nil])
    · rw [text_ofLocation, text_ofLocation, String.intercalate_append_of_ne_nil top same]
      simp only [String.utf8ByteSize_append]
      omega

/-- What is read as a name is one. -/
theorem isName_of_mem_ofText {s n : String} (mem : n ∈ (ofText s).names) :
    IsName n ∧ n ≠ "" ∧ n ≠ "." := by
  obtain ⟨f, kept, rfl⟩ := List.mem_map.1 mem
  obtain ⟨field, solid⟩ := List.mem_filter.1 kept
  obtain ⟨nonempty, notDot⟩ := Bool.and_eq_true_iff.1 solid
  refine ⟨?_, ?_, ?_⟩
  · rw [IsName, String.toList_ofList]
    exact sep_notMem_of_mem_fields field
  · rintro empty
    rw [← String.toList_inj, String.toList_ofList] at empty
    exact absurd nonempty (by simp [empty])
  · rintro dot
    rw [← String.toList_inj, String.toList_ofList] at dot
    exact absurd notDot (by simp [dot])

/-- The names of a location are found again between the slashes. -/
theorem namesOf_intercalate {l : Location} (proper : Proper l) :
    namesOf (['/'].intercalate (l.map String.toList)) = l := by
  -- no name holds the separator, so the joined text is cut where it was joined
  have free : ∀ f ∈ l.map String.toList, '/' ∉ f := by
    intro f mem
    obtain ⟨n, name, rfl⟩ := List.mem_map.1 mem
    exact (proper n name).1
  have solid : ∀ f ∈ l.map String.toList, (!f.isEmpty && f != ['.']) = true := by
    intro f mem
    obtain ⟨n, name, rfl⟩ := List.mem_map.1 mem
    have enters := (proper n name).2
    have notEmpty : n.toList ≠ "".toList := fun same ↦ enters (.inl (String.toList_inj.1 same))
    have notDot : n.toList ≠ ".".toList := fun same ↦
      enters (.inr (.inl (String.toList_inj.1 same)))
    rw [Bool.and_eq_true, Bool.not_eq_true', List.isEmpty_eq_false_iff, bne_iff_ne]
    exact ⟨notEmpty, notDot⟩
  cases l with
  | nil => rfl
  | cons first rest =>
    rw [namesOf, fields_intercalate (by simp) free, List.filter_eq_self.2 solid, List.map_map]
    exact List.map_id'' (fun n ↦ String.ofList_toList) _

/-- One slash is in front. -/
theorem rootOf_intercalate {l : Location} (proper : Proper l) :
    rootOf ('/' :: ['/'].intercalate (l.map String.toList)) = "/" := by
  cases l with
  | nil => rfl
  | cons first rest =>
    obtain ⟨name, enters⟩ := proper first List.mem_cons_self
    obtain ⟨c, r, chars⟩ : ∃ c r, first.toList = c :: r :=
      List.exists_cons_of_ne_nil fun empty ↦ enters (.inl (String.toList_eq_nil_iff.1 empty))
    -- a second slash would begin the first name, which holds none
    have other : c ≠ '/' := by
      rintro rfl
      exact name (chars ▸ List.mem_cons_self)
    obtain ⟨behind, cut⟩ := exists_intercalate_cons ['/'] first.toList (rest.map String.toList)
    rw [List.map_cons, cut, chars, List.cons_append]
    simp [rootOf, other]

/-- **A location is read again from what it is printed as.** -/
theorem ofText_text {l : Location} (proper : Proper l) :
    ofText (ofLocation l).text = ofLocation l := by
  have names : namesOf ('/' :: ['/'].intercalate (l.map String.toList)) = l := by
    rw [namesOf, fields, if_pos rfl, List.filter_cons_of_neg (by simp)]
    exact namesOf_intercalate proper
  rw [ofText, toList_text_ofLocation, names, rootOf_intercalate proper, ofLocation]

end Path

/-! ### Without links -/

/-- **Names that a location can have lead down by themselves.** -/
theorem Location.normal_of_proper {start names : List String} (proper : Proper names) :
    Location.normal start names = start ++ names := by
  induction names generalizing start with
  | nil => exact (List.append_nil start).symm
  | cons n rest ih =>
    obtain ⟨⟨-, enters⟩, others⟩ := List.forall_mem_cons.1 proper
    rw [normal, List.foldl_cons, ← normal, step_of_enters enters, ih others, List.append_assoc]
    rfl

theorem Proper.normal {start names : List String} (proper : Proper start)
    (named : ∀ n ∈ names, IsName n) : Proper (Location.normal start names) := by
  induction names generalizing start with
  | nil => exact proper
  | cons n rest ih =>
    obtain ⟨first, others⟩ := List.forall_mem_cons.1 named
    refine ih ?_ others
    by_cases dots : IsDots n
    · exact proper.step_dots dots
    · rw [Location.step_of_enters dots]
      exact proper.concat first dots

/-- The characters that names take in a text, each with a slash in front. -/
def room (names : List String) : Nat :=
  (names.map fun n ↦ n.toList.length + 1).sum

theorem room_append (names names' : List String) :
    room (names ++ names') = room names + room names' := by
  rw [room, List.map_append, List.sum_append, ← room, ← room]

theorem room_step_le (l : Location) (n : String) : room (l.step n) ≤ room l + room [n] := by
  unfold Location.step
  split
  · exact Nat.le_add_right _ _
  · split
    · have cut := room_append l.dropLast (l.drop (l.length - 1))
      rw [List.dropLast_eq_take, List.take_append_drop] at cut
      rw [List.dropLast_eq_take]
      omega
    · exact Nat.le_of_eq (room_append l [n])

theorem room_normal_le (start names : List String) :
    room (Location.normal start names) ≤ room start + room names := by
  induction names generalizing start with
  | nil => exact Nat.le_refl _
  | cons n rest ih =>
    have first := room_step_le start n
    have others := ih (Location.step start n)
    have split := room_append [n] rest
    rw [List.singleton_append] at split
    rw [Location.normal, List.foldl_cons, ← Location.normal]
    omega

namespace Path

theorem room_namesOf_le (s : List Char) : room (namesOf s) ≤ s.length + 1 := by
  rw [← sum_length_fields '/' s, namesOf]
  induction fields '/' s with
  | nil => exact Nat.le_refl 0
  | cons f fs ih =>
    rw [List.map_cons, List.sum_cons, List.filter_cons]
    split
    · rw [List.map_cons, room, List.map_cons, List.sum_cons, ← room, String.toList_ofList]
      omega
    · omega

theorem length_text (l : Location) : (ofLocation l).text.toList.length = max 1 (room l) := by
  cases l with
  | nil => rfl
  | cons n rest =>
    have length := length_intercalate '/' (show (n :: rest).map String.toList ≠ [] by simp)
    have some : 1 ≤ room (n :: rest) := by
      rw [room, List.map_cons, List.sum_cons]
      omega
    rw [List.map_map] at length
    rw [toList_text_ofLocation, List.length_cons, length, Nat.max_eq_right some, room]
    rfl

/-- **Dots and slashes are only taken out** of a path, so what remains is no longer than it. -/
theorem length_text_normal_le {s : String} {r : List Char} (absolute : s.toList = '/' :: r) :
    (ofLocation (Location.normal [] (ofText s).names)).text.toList.length ≤ s.toList.length := by
  have names : (ofText s).names = namesOf r := by
    rw [ofText, absolute, namesOf, fields, if_pos rfl, List.filter_cons_of_neg (by simp), ← namesOf]
  have left := room_normal_le [] (namesOf r)
  have given := room_namesOf_le r
  rw [show room [] = 0 from rfl] at left
  rw [length_text, names, absolute, List.length_cons]
  omega

end Path

end AuthRealm.Storage
