import AuthRealm.Proofs.Account.Sheet
import AuthRealm.Proofs.Account.Store

/-!
# What a write does, and what a refused one does not

An update of a table with keys either overwrites the row of a name or adds one, and what can be told
of it afterwards is the same in both cases (`Table.Upserted`): the row that is found is the record
that was handed in, with the number and the creation time of its row; the other rows are as they
were. So **the same record written again changes nothing** (`Upserted.again`), and the first time it
is written under a new name it is written as a new account is (`Upserted.create`).

A write is refused for want of a role, and a new account also for a name that is taken; **a refused
write leaves everything as it was** (`refused_write_changes_nothing`), the next number included.

Both are told of the account store and of its sheet, where a row is columns and the caller's record
is part of what a write leaves (`Held`).
-/

namespace AuthRealm.Account

namespace Table

variable {t t' : Table} {now : String} {record written : Record}

/-! ### What an update leaves -/

/-- **What an update leaves**: `t'` of the table `t`, and `written` of the record. -/
structure Upserted (t : Table) (now : String) (record : Record) (t' : Table) (written : Record) :
    Prop where
  /-- In the record the number and the creation time are filled in: those of the row that there was,
  or the largest number and one, and the time. -/
  filled : written =
    match t.find? record.username with
    | some old => { record with id := some old.id, createdAt := some old.createdAt }
    | none =>
      { record with
        id := some ((t.rows.map (·.id)).max?.getD 0 + 1 : Nat)
        createdAt := some now }
  /-- The row of the name is that record, field by field, -/
  found : ∃ row, t'.find? record.username = some row ∧ row.record = written
  /-- also when it is read back from its columns. -/
  readBack : (t'.sheet.select? record.username).bind Line.record? = some written
  /-- All other rows are as they were, and in their order. -/
  others : t'.rows.filter (·.username != record.username) =
    t.rows.filter (·.username != record.username)
  /-- There is one row more if the name is new, and else as many. -/
  size : t'.rows.length = t.rows.length + if t.find? record.username = none then 1 else 0
  /-- The keys are kept. -/
  keyed : t'.Keyed

/-- The record of a row that a record with a role becomes. -/
theorem record_rowOf {role : String} (hrole : record.role = some role) (id : Nat)
    (createdAt : String) :
    (rowOf record role id createdAt).record =
      writtenAs record (rowOf record role id createdAt) := by
  rw [Row.record, writtenAs, hrole]
  rfl

theorem readBack_of_found {u : String} {row : Row} (found : t.find? u = some row) :
    (t.sheet.select? u).bind Line.record? = some row.record := by
  rw [select?_sheet, found, Option.map_some, Option.bind_some, Row.record?_line]

/-- **A record with a role is written**, and leaves what an update leaves. -/
theorem Keyed.upserted (h : t.Keyed) (now : String) {role : String}
    (hrole : record.role = some role) :
    ∃ t' written, t.upsert now record = .ok (t', written) ∧ Upserted t now record t' written := by
  cases hf : t.find? record.username with
  | none =>
    -- a new row, with the next number and the time of the write
    have found := find?_append_self (r := rowOf record role t.nextId now) hf rfl
    refine ⟨_, _, upsert_of_absent hrole hf, ?_, ⟨_, found, record_rowOf hrole ..⟩, ?_, ?_, ?_, ?_⟩
    · rw [hf, writtenAs, rowOf, nextId_eq]
    · rw [readBack_of_found found, record_rowOf hrole]
    · simp [List.filter_append, rowOf]
    · simp [hf]
    · exact h.append rfl hf
  | some old =>
    -- the row that is there, under its old number and time
    have overwritten : t.overwrite (rowOf record role old.id old.createdAt) =
        t.modify record.username fun _ ↦ rowOf record role old.id old.createdAt :=
      h.overwrite_eq_modify hf rfl
    have found : (t.overwrite (rowOf record role old.id old.createdAt)).find? record.username = _ :=
      overwritten ▸ find?_modify_self (fun _ ↦ rowOf record role old.id old.createdAt)
        (fun _ _ ↦ rfl) hf
    refine ⟨_, _, upsert_of_present hrole hf, ?_, ⟨_, found, record_rowOf hrole ..⟩, ?_, ?_, ?_, ?_⟩
    · rw [hf, writtenAs, rowOf]
    · rw [readBack_of_found found, record_rowOf hrole]
    · rw [overwritten]
      exact filter_modify fun _ _ ↦ rfl
    · simp [overwrite, hf]
    · rw [overwritten]
      refine h.modify (fun r hr hn ↦ ?_) fun r hr hn ↦ hn.symm
      exact ((h.id_eq_iff hf hr).2 hn).symm

/-- Nothing else is filled in. -/
theorem Upserted.kept (h : Upserted t now record t' written) :
    written.toProfile = record.toProfile ∧ written.role = record.role := by
  rw [h.filled]
  split
  · exact ⟨rfl, rfl⟩
  · exact ⟨rfl, rfl⟩

/-- In a table with keys, overwriting a row with itself changes nothing. -/
theorem Keyed.overwrite_self (h : t.Keyed) {row : Row} (hr : row ∈ t.rows) :
    t.overwrite row = t := by
  have rows : t.rows.map (fun r ↦ if r.id = row.id then row else r) = t.rows.map id := by
    refine List.map_congr_left fun r hr' ↦ ?_
    by_cases same : r.id = row.id
    · rw [if_pos same, h.eq_of_id hr' hr same, id_eq]
    · rw [if_neg same, id_eq]
  rw [overwrite, rows, List.map_id]

/-- **The same record again changes nothing**, whatever number and time it bears and whenever it is
written. -/
theorem Upserted.again (h : Upserted t now record t' written) {record' : Record}
    (profile : record'.toProfile = record.toProfile) (hrole' : record'.role = record.role)
    (later : String) : t'.upsert later record' = .ok (t', written) := by
  obtain ⟨row, found, rfl⟩ := h.found
  have named : t'.find? record'.username = some row :=
    (congrArg (fun p ↦ t'.find? p.username) profile).trans found
  have profile' : record'.toProfile = row.toProfile := profile.trans h.kept.1.symm
  have role' : record'.role = some row.role := hrole'.trans h.kept.2.symm
  have same : rowOf record' row.role row.id row.createdAt = row := by
    rw [rowOf, profile']
  rw [upsert_of_present role' named, same, h.keyed.overwrite_self (mem_of_find? found), writtenAs,
    profile', role', Row.record]

/-- Under a new name a record is written as a new account is. -/
theorem Upserted.create (h : Upserted t now record t' written)
    (accepted : t.upsert now record = .ok (t', written)) (absent : t.find? record.username = none) :
    ∃ id : Nat, t.create now record = .ok (t', id) ∧ written.id = some (id : Int) := by
  cases hrole : record.role with
  | none => simp [upsert_of_no_role hrole] at accepted
  | some role =>
    rw [upsert_of_absent hrole absent, Except.ok.injEq, Prod.mk.injEq] at accepted
    obtain ⟨rfl, rfl⟩ := accepted
    exact ⟨_, create_of_absent hrole absent, rfl⟩

/-! ### What a table refuses -/

theorem exists_create_eq_error_iff (t : Table) (now : String) (record : Record) :
    (∃ refusal, t.create now record = .error refusal) ↔
      record.role = none ∨ ∃ row ∈ t.rows, row.username = record.username := by
  cases hrole : record.role with
  | none => simp [create_of_no_role hrole]
  | some role =>
    cases hf : t.find? record.username with
    | none => simpa [create_of_absent hrole hf] using find?_eq_none_iff.1 hf
    | some old =>
      have taken : ∃ row ∈ t.rows, row.username = record.username :=
        ⟨old, mem_of_find? hf, username_of_find? hf⟩
      simpa [create_of_present hrole hf] using taken

theorem exists_upsert_eq_error_iff (t : Table) (now : String) (record : Record) :
    (∃ refusal, t.upsert now record = .error refusal) ↔ record.role = none := by
  cases hrole : record.role with
  | none => simp [upsert_of_no_role hrole]
  | some role =>
    cases hf : t.find? record.username with
    | none => simp [upsert_of_absent hrole hf]
    | some old => simp [upsert_of_present hrole hf]

theorem id_of_create_eq_ok {id : Nat} (created : t.create now record = .ok (t', id)) :
    id = t.nextId := by
  cases hrole : record.role with
  | none => simp [create_of_no_role hrole] at created
  | some role =>
    cases hf : t.find? record.username with
    | none =>
      rw [create_of_absent hrole hf, Except.ok.injEq, Prod.mk.injEq] at created
      exact created.2.symm
    | some old => simp [create_of_present hrole hf] at created

end Table

namespace Store

open Table

variable {scene : Scene} {s : RealmState}

/-- **An update writes the record and nothing else.** Over a database that can be used and a table
with keys, for every record with a role:

* the update succeeds, and reports that a row was written; what it leaves of the table and of the
  record is said by `Upserted`, and the row that is looked up afterwards is the record as it is
  then;
* the same record again, as it was handed in or as it is then, changes neither, at any time;
* under a name that is new, adding the record leaves the same table, and gives the number that is
  filled in. -/
theorem update_writes_record (usable : scene.databaseFault = none) (keyed : s.accounts.Keyed)
    {record : Record} (given : record.role ≠ none) :
    ∃ t' written,
      Store.update scene record s = { result := .ok written, state := { s with accounts := t' } } ∧
      (s.accounts.held record).update scene.now.text = ⟨.ok true, t'.held written⟩ ∧
      Upserted s.accounts scene.now.text record t' written ∧
      (∀ later : Scene, later.databaseFault = none →
        (∃ row, row.record = written ∧ Store.find? later record.username { s with accounts := t' } =
            { result := .ok (some row), state := { s with accounts := t' } }) ∧
          Store.update later record { s with accounts := t' } =
            { result := .ok written, state := { s with accounts := t' } } ∧
          Store.update later written { s with accounts := t' } =
            { result := .ok written, state := { s with accounts := t' } }) ∧
      (s.accounts.find? record.username = none → ∃ id : Nat, written.id = some (id : Int) ∧
        Store.create scene record s =
          { result := .ok id, state := { s with accounts := t' } }) := by
  obtain ⟨role, hrole⟩ := Option.ne_none_iff_exists'.1 given
  obtain ⟨t', written, accepted, upserted⟩ := keyed.upserted scene.now.text hrole
  refine ⟨t', written, update_apply usable accepted, ?_, upserted, fun later usable' ↦ ⟨?_, ?_, ?_⟩,
    fun absent ↦ ?_⟩
  · rw [keyed.update_held, accepted]
  · obtain ⟨row, found, same⟩ := upserted.found
    exact ⟨row, same, by rw [find?_apply usable', found]⟩
  · -- writing again what is there has nothing left to change
    exact update_apply usable' (upserted.again rfl rfl _)
  · exact update_apply usable' (upserted.again upserted.kept.1 upserted.kept.2 _)
  · obtain ⟨id, created, number⟩ := upserted.create accepted absent
    exact ⟨id, number, create_apply usable created⟩

/-- A table of one local account, which is written over at a later time by a record with a number
and a creation time of its own. -/
theorem update_writes_record_over_account :
    let row : Row :=
      { username := "ada", hashedPassword := some "$2b$04$abc", id := 7, role := "user"
        createdAt := "then" }
    let record : Record :=
      { username := "ada", kind := .external, isActive := false, id := some 3, role := some "admin"
        createdAt := some "never" }
    let s : RealmState := ⟨{ path := ⟨"/", ["htpasswd"]⟩ }, ⟨[row]⟩⟩
    let scene : Scene := ⟨⟨[]⟩, ⟨2024, 1, 1, 0, 0, 0, 0⟩, none⟩
    s.accounts.Keyed ∧ record.role ≠ none ∧ ∃ written,
      (Store.update scene record s).result = .ok written ∧
        written = { record with id := some 7, createdAt := some "then" } := by
  intro row record s scene
  have keyed : s.accounts.Keyed := ⟨by decide, by decide⟩
  have given : record.role ≠ none := nofun
  have usable : scene.databaseFault = none := rfl
  obtain ⟨t', written, updated, -, upserted, -⟩ := update_writes_record usable keyed given
  exact ⟨keyed, given, written, by rw [updated], upserted.filled⟩

/-! ### What is refused -/

section refused

variable (usable : scene.databaseFault = none) {record : Record} {failure : Failure}

include usable

/-- Adding fails only where the table refuses it, -/
theorem result_create_eq_error_iff : (create scene record s).result = .error failure ↔
    ∃ refusal, failure = .refusedWrite refusal ∧
      s.accounts.create scene.now.text record = .error refusal := by
  cases hc : s.accounts.create scene.now.text record with
  | error refusal => simp [create_refused usable hc, eq_comm]
  | ok made =>
    obtain ⟨t, id⟩ := made
    simp [create_apply usable hc]

/-- and so does updating. -/
theorem result_update_eq_error_iff : (update scene record s).result = .error failure ↔
    ∃ refusal, failure = .refusedWrite refusal ∧
      s.accounts.upsert scene.now.text record = .error refusal := by
  cases hu : s.accounts.upsert scene.now.text record with
  | error refusal => simp [update_refused usable hu, eq_comm]
  | ok made =>
    obtain ⟨t, written⟩ := made
    simp [update_apply usable hu]

end refused

/-- A new account has the next number. -/
theorem id_of_create {record : Record} {id : Nat}
    (created : (create scene record s).result = .ok id) : id = s.accounts.nextId := by
  cases fault : scene.databaseFault with
  | some broken => simp [create, Action.bind_apply, Action.accounts_of_fault fault] at created
  | none =>
    cases hc : s.accounts.create scene.now.text record with
    | error refusal => simp [create_refused fault hc] at created
    | ok made =>
      obtain ⟨t, number⟩ := made
      obtain rfl : number = id := by simpa [create_apply fault hc] using created
      exact id_of_create_eq_ok hc

/-- **A refused write has changed nothing**: neither the state, nor sheet and record. -/
structure LeavesAll {α : Type} (s : RealmState) (record : Record) (refusal : Refusal)
    (after : RealmState) (ending : Held.Ending α) : Prop where
  /-- The table has the rows that it had, and nothing else of the state has changed. -/
  state : after = s
  /-- The statements are refused too, -/
  refused : ending.result = .error refusal
  /-- and leave the columns of all rows, -/
  sheet : ending.after.sheet = s.accounts.sheet
  /-- and the record with its number and its creation time. -/
  record : ending.after.record = record
  /-- The next account that is added gets the number that it would have got. -/
  next : ∀ (later : Scene) (other : Record) (id : Nat),
    (create later other after).result = .ok id →
      id = (s.accounts.rows.map (·.id)).max?.getD 0 + 1

/-- **What is refused, and that it changes nothing.** Over a database that can be used and a table
with keys, for every record:

* adding it is refused exactly if it has no role or its name is taken;
* updating is refused exactly if it has no role, be there a row of the name or not, and after a
  second attempt that has been refused too;
* nothing else can go wrong, and whatever is refused leaves all as it was. -/
theorem refused_write_changes_nothing (usable : scene.databaseFault = none)
    (keyed : s.accounts.Keyed) (record : Record) :
    ((∃ refusal, (create scene record s).result = .error (.refusedWrite refusal)) ↔
        record.role = none ∨ ∃ row ∈ s.accounts.rows, row.username = record.username) ∧
      ((∃ refusal, (update scene record s).result = .error (.refusedWrite refusal)) ↔
        record.role = none) ∧
      (∀ failure, (create scene record s).result = .error failure →
        ∃ refusal, failure = .refusedWrite refusal ∧
          LeavesAll s record refusal (create scene record s).state
            ((s.accounts.held record).create scene.now.text)) ∧
      ∀ failure, (update scene record s).result = .error failure →
        (update scene record s).log = [.retriedWrite record.username] ∧
          ∃ refusal, failure = .refusedWrite refusal ∧
            LeavesAll s record refusal (update scene record s).state
              ((s.accounts.held record).update scene.now.text) := by
  have next : ∀ (later : Scene) (other : Record) (id : Nat),
      (create later other s).result = .ok id → id = (s.accounts.rows.map (·.id)).max?.getD 0 + 1 :=
    fun _ _ _ created ↦ (id_of_create created).trans (nextId_eq _)
  refine ⟨?_, ?_, fun failure failed ↦ ?_, fun failure failed ↦ ?_⟩
  · -- only the table refuses a write, so the conditions are those of the table
    rw [← exists_create_eq_error_iff s.accounts scene.now.text]
    simp only [result_create_eq_error_iff usable, Failure.refusedWrite.injEq, exists_eq_left']
  · rw [← exists_upsert_eq_error_iff s.accounts scene.now.text]
    simp only [result_update_eq_error_iff usable, Failure.refusedWrite.injEq, exists_eq_left']
  · obtain ⟨refusal, rfl, refused⟩ := (result_create_eq_error_iff usable).1 failed
    rw [create_refused usable refused, create_held, refused]
    exact ⟨refusal, rfl, rfl, rfl, rfl, rfl, next⟩
  · obtain ⟨refusal, rfl, refused⟩ := (result_update_eq_error_iff usable).1 failed
    rw [update_refused usable refused, keyed.update_held, refused]
    exact ⟨rfl, refusal, rfl, rfl, rfl, rfl, rfl, next⟩

/-- A record without a role is refused under a name that is taken and under one that is new. -/
theorem refused_write_changes_nothing_without_role :
    let row : Row := { username := "ada", id := 7, role := "user", createdAt := "then" }
    let taken : Record := { username := "ada", role := none }
    let new : Record := { username := "eve", role := none, id := some 3 }
    let s : RealmState := ⟨{ path := ⟨"/", ["htpasswd"]⟩ }, ⟨[row]⟩⟩
    let scene : Scene := ⟨⟨[]⟩, ⟨2024, 1, 1, 0, 0, 0, 0⟩, none⟩
    (update scene taken s).state = s ∧ (update scene new s).state = s ∧
      ((s.accounts.held new).update scene.now.text).after.record.id = some 3 := by
  intro row taken new s scene
  have keyed : s.accounts.Keyed := ⟨by decide, by decide⟩
  have usable : scene.databaseFault = none := rfl
  obtain ⟨-, refused, -, left⟩ := refused_write_changes_nothing usable keyed taken
  obtain ⟨-, refused', -, left'⟩ := refused_write_changes_nothing usable keyed new
  obtain ⟨refusal, failed⟩ := refused.2 rfl
  obtain ⟨refusal', failed'⟩ := refused'.2 rfl
  obtain ⟨-, _, -, kept⟩ := left _ failed
  obtain ⟨-, _, -, kept'⟩ := left' _ failed'
  exact ⟨kept.state, kept'.state, congrArg Record.id kept'.record⟩

end Store

end AuthRealm.Account
