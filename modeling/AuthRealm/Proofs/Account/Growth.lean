import AuthRealm.Proofs.Account.Table
import AuthRealm.Proofs.Text.Sorting

/-!
# What lasts in a table

Read off the list of all that an operation can do (`Table.Step`): **a row lasts until its name is
deleted** (`Step.lasts`), and a row that is new has the number after the largest there was
(`Step.sameAccount_or_next`, `nextId_eq`). A listing has every row once and ascends strictly by name
(`WellFormed.pairwise_sorted`), since no name occurs twice.
-/

namespace AuthRealm.Account.Table

variable {deletes : Option String} {t t' : Table}

/-! ### One step -/

/-- **A row lasts** through every step that does not delete its name. -/
theorem Step.lasts (step : Step deletes t t') {row : Row} (hr : row ∈ t.rows)
    (spared : deletes ≠ some row.username) : ∃ row' ∈ t'.rows, SameAccount row row' := by
  cases step with
  | kept => exact ⟨row, hr, .refl row⟩
  | added new next fresh => exact ⟨row, List.mem_append_left _ hr, .refl row⟩
  | modified u f same =>
    by_cases hn : row.username = u
    · exact ⟨f row, mem_modify_of_eq hr hn, same row hr hn⟩
    · exact ⟨row, mem_modify_of_ne hr hn, .refl row⟩
  | removed u named =>
    have other : row.username ≠ u := fun hn ↦ spared (hn ▸ named)
    exact ⟨row, List.mem_filter.2 ⟨hr, bne_iff_ne.2 other⟩, .refl row⟩

/-- **A row after a step** is of an account that was there, or has the next number. -/
theorem Step.sameAccount_or_next (step : Step deletes t t') {row : Row} (hr : row ∈ t'.rows) :
    (∃ old ∈ t.rows, SameAccount old row) ∨ row.id = t.nextId := by
  -- a row of the new table was there, or was changed, or is the one that was added
  cases step with
  | kept => exact .inl ⟨row, hr, .refl row⟩
  | added new next fresh =>
    rcases List.mem_append.1 hr with hr | hr
    · exact .inl ⟨row, hr, .refl row⟩
    · exact .inr (List.mem_singleton.1 hr ▸ next)
  | modified u f same =>
    obtain ⟨old, hold, rfl⟩ := List.mem_map.1 hr
    by_cases hn : old.username = u
    · rw [if_pos hn]
      exact .inl ⟨old, hold, same old hold hn⟩
    · rw [if_neg hn]
      exact .inl ⟨old, hold, .refl old⟩
  | removed u named => exact .inl ⟨row, (List.mem_filter.1 hr).1, .refl row⟩

/-- The next number is the largest and one, or one where there is none. -/
theorem nextId_eq (t : Table) : t.nextId = (t.rows.map (·.id)).max?.getD 0 + 1 := by
  have folded : t.rows.foldl (fun n r ↦ max n r.id) 0 = (t.rows.map (·.id)).foldl max 0 :=
    List.foldl_map.symm
  rw [nextId, folded]
  cases t.rows with
  | nil => rfl
  | cons row rows =>
    rw [List.map_cons, List.max?_cons', Option.getD_some, List.foldl_cons, Nat.zero_max]

/-! ### Listings -/

theorem perm_sorted (t : Table) : t.sorted.Perm t.rows :=
  List.mergeSort_perm ..

/-- **A listing ascends strictly** by name. -/
theorem WellFormed.pairwise_sorted (h : t.WellFormed) :
    t.sorted.Pairwise fun r r' ↦ r.username < r'.username :=
  Text.pairwise_mergeSort_lt (fun r : Row ↦ r.username) h.names

end AuthRealm.Account.Table
