import AuthRealm.Proofs.Account.Growth

/-!
# Changes for one name

Whatever is written for a user name concerns one row: it is changed where it stands, or added at the
end with the next number (`Edit`). Rows of other names are not found any differently
(`Edit.find?_apply_of_ne`), and a change of a row does not move the next number, since a row that is
changed keeps its own.

**Changes for two names commute** (`Edit.apply_comm`), with one exception: of two rows that are
added the earlier has the smaller number, so added in turn they swap their numbers.
-/

namespace AuthRealm.Account

/-- The row with a number. -/
def Row.numbered (row : Row) (id : Nat) : Row :=
  { row with id := id }

namespace Table

variable {t : Table} {u v : String} {f g : Row → Row}

/-! ### Numbers and names -/

theorem nextId_modify (ids : ∀ r ∈ t.rows, r.username = u → (f r).id = r.id) :
    (t.modify u f).nextId = t.nextId := by
  rw [nextId_eq, nextId_eq, map_id_modify ids]

theorem nextId_append {row : Row} (next : row.id = t.nextId) :
    (Table.mk (t.rows ++ [row])).nextId = t.nextId + 1 := by
  rw [nextId, List.foldl_append, List.foldl_cons, List.foldl_nil, next, nextId]
  omega

theorem find?_modify_of_ne (names : ∀ r, r.username = u → (f r).username = u) (other : v ≠ u) :
    (t.modify u f).find? v = t.find? v := by
  -- the change keeps every name, so a search for a name cannot tell the rows apart
  have same : (fun r : Row ↦ r.username == v) ∘ (fun r ↦ if r.username = u then f r else r) =
      fun r : Row ↦ r.username == v := by
    funext r
    by_cases hr : r.username = u
    · simp [hr, names r hr]
    · simp [hr]
  rw [find?, modify, List.find?_map, same]
  cases found : t.rows.find? fun r ↦ r.username == v with
  | none => rw [find?, found]; rfl
  | some r =>
    have named : r.username = v := username_of_find? found
    rw [find?, found, Option.map_some, if_neg (named ▸ other)]

theorem find?_append_of_ne {row : Row} (other : v ≠ row.username) :
    find? ⟨t.rows ++ [row]⟩ v = t.find? v := by
  have unnamed : [row].find? (fun r ↦ r.username == v) = none := by simp [other.symm]
  rw [find?, List.find?_append, unnamed, Option.or_none, find?]

theorem modify_comm (names : ∀ r, r.username = u → (f r).username = u)
    (names' : ∀ r, r.username = v → (g r).username = v) (distinct : u ≠ v) :
    (t.modify u f).modify v g = (t.modify v g).modify u f := by
  -- no row has both names, so one row is changed at most once
  have rows : ∀ r : Row,
      (fun r ↦ if r.username = v then g r else r) (if r.username = u then f r else r) =
        (fun r ↦ if r.username = u then f r else r) (if r.username = v then g r else r) := by
    intro r
    by_cases hu : r.username = u
    · have other : r.username ≠ v := fun hv ↦ distinct (hu.symm.trans hv)
      simp [hu, names r hu, distinct]
    · by_cases hv : r.username = v
      · simp [hv, names' r hv, distinct.symm]
      · simp [hu, hv]
  rw [modify, modify, modify, modify, List.map_map, List.map_map]
  exact congrArg Table.mk (List.map_congr_left fun r _ ↦ rows r)

/-! ### Edits -/

/-- What may be written for one name: nothing, a change of its row, or a new row. -/
inductive Edit where
  | keep
  | change (f : Row → Row)
  | add (row : Row)

namespace Edit

/-- The table after an edit for a name. A row that is added gets the next number. -/
def apply (u : String) : Edit → Table → Table
  | keep, t => t
  | change f, t => t.modify u f
  | add row, t => ⟨t.rows ++ [row.numbered t.nextId]⟩

/-- An edit is one for a name in a table: a changed row keeps its name and number, and a row is
added only where there is none. -/
inductive Fits (u : String) (t : Table) : Edit → Prop where
  | keep : Fits u t .keep
  | change {f : Row → Row} (names : ∀ r, r.username = u → (f r).username = u)
      (ids : ∀ r ∈ t.rows, r.username = u → (f r).id = r.id) : Fits u t (.change f)
  | add {row : Row} (named : row.username = u) (absent : t.find? u = none) : Fits u t (.add row)

variable {e e' : Edit}

/-- **Rows of other names are found as before.** -/
theorem find?_apply_of_ne (fits : e.Fits u t) (other : v ≠ u) :
    (e.apply u t).find? v = t.find? v := by
  cases fits with
  | keep => rfl
  | change names ids => exact find?_modify_of_ne names other
  | add named absent => exact find?_append_of_ne (named ▸ other)

/-- Two tables are the same, but for the numbers of rows that both add to a third for two names that
it does not have. -/
inductive SameButNew (t : Table) (u v : String) : Table → Table → Prop where
  | same (t' : Table) : SameButNew t u v t' t'
  | inTurn {x y : Row} (hx : x.username = u) (hy : y.username = v) (absent : t.find? u = none)
      (absent' : t.find? v = none) :
      SameButNew t u v ⟨t.rows ++ [x.numbered t.nextId, y.numbered (t.nextId + 1)]⟩
        ⟨t.rows ++ [y.numbered t.nextId, x.numbered (t.nextId + 1)]⟩

/-- A change of one row and the addition of another. -/
theorem change_add_comm {row : Row} (ids : ∀ r ∈ t.rows, r.username = u → (f r).id = r.id)
    (other : row.username ≠ u) :
    (add row).apply v ((change f).apply u t) = (change f).apply u ((add row).apply v t) := by
  have kept : (row.numbered t.nextId).username ≠ u := other
  simp only [apply, nextId_modify ids]
  simp only [modify, List.map_append, List.map_cons, List.map_nil, if_neg kept]

/-- **Edits for two names commute**, but for the numbers of two rows that are added. -/
theorem apply_comm (fits : e.Fits u t) (fits' : e'.Fits v t) (distinct : u ≠ v) :
    SameButNew t u v (e'.apply v (e.apply u t)) (e.apply u (e'.apply v t)) := by
  cases fits with
  | keep => exact .same _
  | change names ids =>
    cases fits' with
    | keep => exact .same _
    | change names' ids' =>
      rw [apply, apply, apply, apply, modify_comm names names' distinct]
      exact .same _
    | add named' absent' =>
      rw [change_add_comm ids (named' ▸ distinct.symm)]
      exact .same _
  | add named absent =>
    cases fits' with
    | keep => exact .same _
    | change names' ids' =>
      rw [change_add_comm ids' (named ▸ distinct)]
      exact .same _
    | add named' absent' =>
      -- each added row takes the next number, so the two numbers are dealt in turn
      have next : ∀ z : Row, (Table.mk (t.rows ++ [z.numbered t.nextId])).nextId = t.nextId + 1 :=
        fun _ ↦ nextId_append rfl
      simp only [apply, next, List.append_assoc, List.singleton_append]
      exact .inTurn named named' absent absent'

end Edit

end Table

end AuthRealm.Account
