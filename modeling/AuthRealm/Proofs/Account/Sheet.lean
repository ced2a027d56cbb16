import AuthRealm.Account.Sheet
import AuthRealm.Proofs.Account.Growth

/-!
# Tables and their sheets

A table laid out in columns is a sheet (`Table.sheet`), and **nothing is lost in the columns**: a
row is read back from its line as its own record (`Row.record?_line`).

A write to the sheet of a table comes to the same as the write to the table, if the table has keys
(`create_held`, `update_held`). The sheet that it leaves is that of the table, the caller's record
is the one that the write to the table hands back, a line has been written, and what the one refuses
the other refuses. In particular a statement that overwrites by number finds one line, and never a
name that another line has.
-/

namespace AuthRealm.Account

/-! ### Columns -/

/-- A row, column by column. -/
def Row.line (r : Row) : Line :=
  { Columns.ofRecord r.record with id := r.id, createdAt := r.createdAt }

/-- **A row is read back from its columns.** -/
theorem Row.record?_line (r : Row) : r.line.record? = some r.record := by
  obtain ⟨⟨_, _, _, kind, _, _, _, active⟩, _, _, _⟩ := r
  cases kind <;> cases active <;> rfl

/-- A record is written to the columns of the row that it becomes. -/
theorem line_rowOf {record : Record} {role : String} (hrole : record.role = some role) (id : Nat)
    (createdAt : String) : (Table.rowOf record role id createdAt).line =
      { Columns.ofRecord record with id := id, createdAt := createdAt } := by
  rw [Columns.ofRecord, hrole]
  rfl

namespace Table

variable {t : Table} {now u : String} {record : Record}

/-- A table, column by column. -/
def sheet (t : Table) : Sheet :=
  ⟨t.rows.map Row.line⟩

/-- The sheet of a table, with a record that a caller keeps. -/
def held (t : Table) (record : Record) : Held :=
  ⟨t.sheet, record⟩

/-! ### Statements -/

theorem select?_sheet (t : Table) (u : String) :
    t.sheet.select? u = (t.find? u).map Row.line := by
  rw [sheet, Sheet.select?, List.find?_map]
  rfl

theorem nextId_sheet (t : Table) : t.sheet.nextId = t.nextId := by
  rw [Sheet.nextId, nextId_eq, sheet, List.map_map]
  rfl

/-- Some line has a user name where some row has it. -/
theorem any_username_sheet (t : Table) (u : String) :
    (t.sheet.lines.any fun l ↦ l.username == u) = (t.find? u).isSome := by
  rw [find?, List.isSome_find?, sheet, List.any_map]
  rfl

/-- **Inserting a record** into the sheet of a table is adding it to the table. -/
theorem insert_sheet (t : Table) (now : String) (record : Record) :
    t.sheet.insert now (.ofRecord record) =
      (t.create now record).map fun written ↦ (written.1.sheet, written.2) := by
  -- the index on names refuses a line exactly where the table finds the name
  have taken : (t.sheet.lines.any fun l ↦ l.username == (Columns.ofRecord record).username) =
      (t.find? record.username).isSome := t.any_username_sheet record.username
  cases hrole : record.role with
  | none => simp [Sheet.insert, create, Columns.ofRecord, hrole, Except.map]
  | some role =>
    have some : (Columns.ofRecord record).role.isNone = false := by
      simp [Columns.ofRecord, hrole]
    cases hf : t.find? record.username with
    | some old =>
      rw [hf] at taken
      simp [Sheet.insert, create, taken, some, hrole, hf, Except.map]
    | none =>
      rw [hf] at taken
      rw [create_of_absent hrole hf, Sheet.insert, some, taken, nextId_sheet,
        ← line_rowOf hrole]
      simp [Except.map, sheet]

/-- The number of a row is that of one line. -/
theorem Keyed.countP_sheet (h : t.Keyed) {old : Row} (found : t.find? u = some old) :
    (t.sheet.lines.countP fun l ↦ l.id == old.id) = 1 := by
  have listed : old.id ∈ t.rows.map (·.id) := List.mem_map_of_mem (mem_of_find? found)
  have once := List.count_eq_one_of_mem h.ids listed
  rw [sheet, List.countP_map]
  rw [List.count_eq_countP, List.countP_map] at once
  exact once

/-- No other line has the user name of a row. -/
theorem Keyed.any_other_sheet (h : t.Keyed) {old : Row} (found : t.find? u = some old) :
    (t.sheet.lines.any fun l ↦ l.id != old.id && l.username == u) = false := by
  rw [sheet, List.any_map, List.any_eq_false]
  intro r hr both
  rw [Function.comp_apply, Bool.and_eq_true, bne_iff_ne, beq_iff_eq] at both
  exact both.1 ((h.id_eq_iff found hr).2 both.2)

/-- **Overwriting the line of a row** is overwriting the row, and finds one line. -/
theorem Keyed.overwrite_sheet (h : t.Keyed) {old : Row} {role : String}
    (hrole : record.role = some role) (found : t.find? record.username = some old) :
    t.sheet.overwrite old.id (.ofRecord record) =
      .ok ((t.overwrite (rowOf record role old.id old.createdAt)).sheet, 1) := by
  have some : (Columns.ofRecord record).role.isNone = false := by
    simp [Columns.ofRecord, hrole]
  -- no other line has the name, so the index lets the change through
  have free : (t.sheet.lines.any fun l ↦
      l.id != old.id && l.username == (Columns.ofRecord record).username) = false :=
    h.any_other_sheet found
  simp only [Sheet.overwrite, h.countP_sheet found, some, free]
  simp only [overwrite, sheet, List.map_map]
  refine congrArg (fun lines ↦ Except.ok (Sheet.mk lines, 1)) (List.map_congr_left fun r hr ↦ ?_)
  show (if r.id = old.id then _ else r.line) = Row.line (if r.id = old.id then _ else r)
  by_cases same : r.id = old.id
  · -- the line keeps its own number and creation time, which are those of the row that is found
    obtain rfl : r = old := h.eq_of_id hr (mem_of_find? found) same
    rw [if_pos rfl, if_pos rfl, line_rowOf hrole]
    rfl
  · rw [if_neg same, if_neg same]

/-- Overwriting without a role is refused. -/
theorem Keyed.overwrite_sheet_of_no_role (h : t.Keyed) {old : Row} (hrole : record.role = none)
    (found : t.find? u = some old) :
    t.sheet.overwrite old.id (.ofRecord record) = .error .roleMissing := by
  have none : (Columns.ofRecord record).role.isNone = true := by
    simp [Columns.ofRecord, hrole]
  simp [Sheet.overwrite, h.countP_sheet found, none]

/-! ### Writes -/

/-- **Adding a record** to a sheet is adding it to the table, and leaves the record as it is. -/
theorem create_held (t : Table) (now : String) (record : Record) :
    (t.held record).create now =
      match t.create now record with
      | .error refusal => ⟨.error refusal, t.held record⟩
      | .ok (t', id) => ⟨.ok id, t'.held record⟩ := by
  rw [Held.create, held, insert_sheet]
  cases t.create now record with
  | error refusal => rfl
  | ok written => rfl

theorem Keyed.upsert_held (h : t.Keyed) (now : String) (record : Record) :
    (t.held record).upsert now =
      match t.upsert now record with
      | .error refusal => ⟨.error refusal, t.held record⟩
      | .ok (t', written) => ⟨.ok true, t'.held written⟩ := by
  rw [Held.upsert, held, select?_sheet]
  cases found : t.find? record.username with
  | none =>
    rw [Option.map_none, insert_sheet]
    -- no line of the name: the sheet inserts where the table creates
    cases hrole : record.role with
    | none =>
      rw [upsert_of_no_role hrole, create_of_no_role hrole]
      rfl
    | some role =>
      rw [upsert_of_absent hrole found, create_of_absent hrole found]
      rfl
  | some old =>
    rw [Option.map_some]
    -- there is a line: the sheet overwrites it by its number, in the table's own column order
    cases hrole : record.role with
    | none =>
      have refused := h.overwrite_sheet_of_no_role hrole found
      rw [upsert_of_no_role hrole]
      simp only [show old.line.id = old.id from rfl, refused]
    | some role =>
      have written := h.overwrite_sheet hrole found
      rw [upsert_of_present hrole found]
      simp only [show old.line.id = old.id from rfl, written]
      rfl

/-- **Updating a sheet** is updating the table. What is refused is refused again. -/
theorem Keyed.update_held (h : t.Keyed) (now : String) (record : Record) :
    (t.held record).update now =
      match t.upsert now record with
      | .error refusal => ⟨.error refusal, t.held record⟩
      | .ok (t', written) => ⟨.ok true, t'.held written⟩ := by
  rw [Held.update, h.upsert_held]
  cases hu : t.upsert now record with
  | ok written => rfl
  | error refusal =>
    show (t.held record).upsert now = _
    rw [h.upsert_held, hu]

end Table

end AuthRealm.Account
