import AuthRealm.Settings.Assignments
import AuthRealm.Proofs.Lookup

/-!
# Variables that no assignment refers to

A file of assignments depends on the environment through references alone. So two environments that
differ in one variable make the same of a file in which no value refers to it (`ofText_congr`).
-/

namespace AuthRealm.Assignments

variable {name : String} {environment environment' : List (String × String)}

/-- A value refers to a variable: the reference at one of its opening marks is to it. -/
def Refers (name : String) (s : List Char) : Prop :=
  ∃ before rest default length, s = before ++ '$' :: '\x7b' :: rest ∧
    reference? rest = some (name.toList, default, length)

theorem Refers.cons {s : List Char} (h : Refers name s) (c : Char) : Refers name (c :: s) := by
  obtain ⟨before, rest, default, length, rfl, read⟩ := h
  exact ⟨c :: before, rest, default, length, rfl, read⟩

theorem refers_of_reference? {c : Char} {r n : List Char} {default : Option (List Char)}
    {length : Nat}
    (read : (if c = '$' && r.head? = some '\x7b' then reference? (r.drop 1) else none) =
      some (n, default, length)) : Refers (String.ofList n) (c :: r) := by
  obtain ⟨mark, read⟩ := Option.ite_none_right_eq_some.1 read
  obtain ⟨rfl, opened⟩ : c = '$' ∧ r.head? = some '\x7b' := by simpa using mark
  obtain ⟨rest, rfl⟩ := List.head?_eq_some_iff.1 opened
  exact ⟨[], rest, default, length, rfl, by rwa [String.toList_ofList]⟩

/-- A value is the same over two lookups that agree on the names it refers to. -/
theorem expand_congr {find find' : String → Option (Option String)}
    (same : ∀ n, n ≠ name → find n = find' n) {s : List Char} (free : ¬ Refers name s)
    (skip : Nat) :
    expand find skip s = expand find' skip s := by
  induction s generalizing skip with
  | nil => cases skip <;> rfl
  | cons c r ih =>
    have free' : ¬ Refers name r := fun h ↦ free (h.cons c)
    cases skip with
    | succ skip => exact ih free' skip
    | zero =>
      simp only [expand]
      -- a reference that is read here is one the text makes, so it is not to the changed name
      split
      · rename_i n default length read
        have other : String.ofList n ≠ name := by
          rintro rfl
          exact free (refers_of_reference? read)
        rw [same _ other, ih free']
      · rw [ih free']

theorem lookup?_congr {α : Type} {pairs pairs' : List (String × α)}
    (others : pairs'.filter (·.1 != name) = pairs.filter (·.1 != name)) {n : String}
    (other : n ≠ name) : lookup? n pairs' = lookup? n pairs := by
  rw [lookup?, lookup?, ← find?_filter_of_ne other pairs', others, find?_filter_of_ne other pairs]

/-- **What nothing refers to makes no difference.** -/
theorem ofText_congr (others : environment'.filter (·.1 != name) = environment.filter (·.1 != name))
    {text : List Char} (unread : ∀ a ∈ readLines (text.length + 1) text, ∀ v, a.2 = some v →
      ¬ Refers name v) : ofText environment' text = ofText environment text := by
  rw [ofText, ofText]
  generalize readLines (text.length + 1) text = assignments at unread
  generalize ([] : List (String × Option String)) = done
  -- over any assignments read so far, since each may refer to the ones before it
  induction assignments generalizing done with
  | nil => rfl
  | cons a as ih =>
    obtain ⟨first, rest⟩ := List.forall_mem_cons.1 unread
    obtain ⟨n, value⟩ := a
    rw [List.foldl_cons, List.foldl_cons, ih rest]
    cases value with
    | none => rfl
    | some v =>
      dsimp only [Option.map_some]
      -- a value may also refer to the assignments above it, which are the same on both sides
      rw [expand_congr (fun n other ↦ ?_) (first v rfl)]
      rw [lookup?_congr others other]

end AuthRealm.Assignments
