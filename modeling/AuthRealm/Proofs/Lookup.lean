import Mathlib.Data.List.Basic

/-!
# Looking up entries

Entries are looked up by a key, as in a file tree or on a disk, or by their place in a list, as the
stores of a scenario. To take away the entries of one key loses none of another
(`find?_filter_of_ne`). A list that only grows, and in which an entry is only ever replaced by one
that is alike in some view, has an entry alike at every place that it had
(`exists_getElem?_of_prefix`).
-/

namespace AuthRealm

/-- Entries with one key are all there among those without another. -/
theorem find?_filter_of_ne {α β : Type} [BEq α] [LawfulBEq α] {key other : α} (h : key ≠ other)
    (entries : List (α × β)) :
    (entries.filter fun e ↦ e.1 != other).find? (fun e ↦ e.1 == key) =
      entries.find? fun e ↦ e.1 == key := by
  rw [List.find?_filter]
  refine congrArg (List.find? · entries) (funext fun e ↦ ?_)
  by_cases he : e.1 = key
  · simp [he, h]
  · simp [he]

section

variable {α β : Type} {f : α → β} {l : List α}

/-- To replace an entry by one alike leaves the list alike, -/
theorem map_set_of_alike {i : Nat} {a a' : α} (stands : l[i]? = some a) (alike : f a' = f a) :
    (l.set i a').map f = l.map f := by
  refine List.ext_getElem? fun j ↦ ?_
  rw [List.getElem?_map, List.getElem?_map, List.getElem?_set]
  split
  · rename_i here
    obtain ⟨within, -⟩ := List.getElem?_eq_some_iff.1 stands
    rw [if_pos within, ← here, stands, Option.map_some, Option.map_some, alike]
  · rfl

/-- and so does to change it into one. -/
theorem map_modify_of_alike {g : α → α} (i : Nat) (alike : ∀ a, f (g a) = f a) :
    (l.modify i g).map f = l.map f := by
  refine List.ext_getElem? fun j ↦ ?_
  rw [List.getElem?_map, List.getElem?_map, List.getElem?_modify]
  cases l[j]? with
  | none => rfl
  | some a =>
    rw [Option.map_eq_map, Option.map_some, Option.map_some, Option.map_some]
    split
    · rw [alike]
    · rfl

/-- A list that begins alike has an entry alike at the place of each. -/
theorem exists_getElem?_of_prefix {l' : List α} {i : Nat} {a : α} (begins : l.map f <+: l'.map f)
    (stands : l[i]? = some a) : ∃ a', l'[i]? = some a' ∧ f a' = f a := by
  obtain ⟨rest, same⟩ := begins
  obtain ⟨within, -⟩ := List.getElem?_eq_some_iff.1 stands
  have alike : (l'.map f)[i]? = some (f a) := by
    rw [← same, List.getElem?_append_left (by rwa [List.length_map]), List.getElem?_map, stands,
      Option.map_some]
  rw [List.getElem?_map] at alike
  exact Option.map_eq_some_iff.1 alike

end

end AuthRealm
