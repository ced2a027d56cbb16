import AuthRealm.Account.Table
import Mathlib.Data.List.Nodup

/-!
# Well-formed tables

The two constraints that a table keeps: numbers ascend along it, and no user name occurs twice
(`Table.WellFormed`). So neither a number nor a name occurs twice (`Table.Keyed`), and that is
enough for a row to be found by its name or by its number, and to be the same row
(`Keyed.find?_of_mem`, `Keyed.eq_of_id`).

Every write of one account is read here as one of two changes:

* a row **added** at the end, with the next number and a name that does not occur;
* the row of a name **modified** (`Table.modify`), its number and its name left as they are.

Noting a login is the second by definition (`stampLogin_eq_modify`). Overwriting finds its row by
number and not by name, so it is the second only in a table with keys (`Keyed.overwrite_eq_modify`);
in one with a number twice it would overwrite two accounts.

`Step` is the list of all that an operation can do: one of the two, or the row of a name removed, or
nothing.
-/

namespace AuthRealm.Account.Table

/-! ### Finding rows -/

theorem mem_of_find? {t : Table} {u : String} {r : Row} (h : t.find? u = some r) : r ∈ t.rows :=
  List.mem_of_find?_eq_some h

theorem username_of_find? {t : Table} {u : String} {r : Row} (h : t.find? u = some r) :
    r.username = u := by
  simpa using List.find?_some h

theorem find?_eq_none_iff {t : Table} {u : String} :
    t.find? u = none ↔ ∀ r ∈ t.rows, r.username ≠ u := by
  simp [find?]

/-- The account store checks the password of a name that has a local row. -/
theorem isLocal_eq_true_iff {t : Table} {u : String} :
    t.isLocal u = true ↔ ∃ r, t.find? u = some r ∧ r.isLocal = true := by
  cases h : t.find? u <;> simp [isLocal, h]

theorem mem_of_findByCookie? {t : Table} {cookie : String} {r : Row}
    (h : t.findByCookie? cookie = some r) :
    r ∈ t.rows ∧ r.cookie = some cookie ∧ r.isActive = true := by
  unfold findByCookie? at h
  split at h
  · exact absurd h (by simp)
  · have hr := List.find?_some h
    rw [Bool.and_eq_true, beq_iff_eq] at hr
    exact ⟨List.mem_of_find?_eq_some h, hr⟩

/-- A cookie finds the first row, if that is active and bears it. -/
theorem findByCookie?_cons {row : Row} {rest : List Row} {cookie : String}
    (given : cookie ≠ "") (bears : row.cookie = some cookie) (active : row.isActive = true) :
    findByCookie? ⟨row :: rest⟩ cookie = some row := by
  rw [findByCookie?, if_neg given]
  exact List.find?_cons_of_pos (by rw [bears, active, beq_self_eq_true]; rfl)

/-- A cookie finds the active row that bears it, if there is no other. -/
theorem findByCookie?_of_only {t : Table} {cookie : String} {r : Row} (given : cookie ≠ "")
    (hr : r ∈ t.rows) (bears : r.cookie = some cookie) (active : r.isActive = true)
    (only : ∀ r' ∈ t.rows, r'.cookie = some cookie → r' = r) :
    t.findByCookie? cookie = some r := by
  cases found : t.findByCookie? cookie with
  | some r' =>
    obtain ⟨hr', bears', -⟩ := mem_of_findByCookie? found
    rw [only r' hr' bears']
  | none =>
    rw [findByCookie?, if_neg given, List.find?_eq_none] at found
    exact absurd (found r hr) (by simp [bears, active])

/-- A row that is added with a new name is found by it. -/
theorem find?_append_self {t : Table} {u : String} {r : Row} (absent : t.find? u = none)
    (hr : r.username = u) : find? ⟨t.rows ++ [r]⟩ u = some r := by
  rw [find?] at absent
  rw [find?, List.find?_append, absent, Option.none_or]
  exact List.find?_cons_of_pos (beq_iff_eq.2 hr)

/-! ### Constraints -/

/-- The keys of a table: neither a number nor a user name occurs twice. -/
structure Keyed (t : Table) : Prop where
  ids : (t.rows.map (·.id)).Nodup
  names : (t.rows.map (·.username)).Nodup

/-- The constraints of a table: numbers are positive and ascend, user names do not repeat. -/
structure WellFormed (t : Table) : Prop where
  ids : (t.rows.map (·.id)).Pairwise (· < ·)
  positive : ∀ i ∈ t.rows.map (·.id), 0 < i
  names : (t.rows.map (·.username)).Nodup

theorem wellFormed_empty : ({} : Table).WellFormed :=
  ⟨List.Pairwise.nil, by simp, List.nodup_nil⟩

theorem WellFormed.keyed {t : Table} (h : t.WellFormed) : t.Keyed :=
  ⟨h.ids.imp Nat.ne_of_lt, h.names⟩

/-- A row is known by its name. -/
theorem Keyed.eq_of_username {t : Table} (h : t.Keyed) {r r' : Row} (hr : r ∈ t.rows)
    (hr' : r' ∈ t.rows) (hu : r.username = r'.username) : r = r' :=
  List.inj_on_of_nodup_map h.names hr hr' hu

/-- A row is found by its name. -/
theorem Keyed.find?_of_mem {t : Table} (h : t.Keyed) {r : Row} (hr : r ∈ t.rows) :
    t.find? r.username = some r := by
  cases hf : t.find? r.username with
  | none => exact absurd rfl (find?_eq_none_iff.1 hf r hr)
  | some r' =>
    rw [h.eq_of_username (mem_of_find? hf) hr (username_of_find? hf)]

/-- A row is known by its number. -/
theorem Keyed.eq_of_id {t : Table} (h : t.Keyed) {r r' : Row} (hr : r ∈ t.rows)
    (hr' : r' ∈ t.rows) (hid : r.id = r'.id) : r = r' :=
  List.inj_on_of_nodup_map h.ids hr hr' hid

/-- The number and the name of a row pick the same rows. -/
theorem Keyed.id_eq_iff {t : Table} (h : t.Keyed) {u : String} {old r : Row}
    (found : t.find? u = some old) (hr : r ∈ t.rows) : r.id = old.id ↔ r.username = u := by
  constructor
  · intro hi
    rw [h.eq_of_id hr (mem_of_find? found) hi, username_of_find? found]
  · intro hn
    have hr' := h.find?_of_mem hr
    rw [hn, found, Option.some.injEq] at hr'
    rw [hr']

theorem WellFormed.eq_of_username {t : Table} (h : t.WellFormed) {r r' : Row} (hr : r ∈ t.rows)
    (hr' : r' ∈ t.rows) (hu : r.username = r'.username) : r = r' :=
  h.keyed.eq_of_username hr hr' hu

theorem WellFormed.find?_of_mem {t : Table} (h : t.WellFormed) {r : Row} (hr : r ∈ t.rows) :
    t.find? r.username = some r :=
  h.keyed.find?_of_mem hr

/-- The next number is larger than all there are. -/
theorem lt_nextId {t : Table} {r : Row} (hr : r ∈ t.rows) : r.id < t.nextId := by
  -- a running maximum bounds the number it starts from and every number it has passed
  have bound : ∀ (rows : List Row) (n : Nat),
      n ≤ rows.foldl (fun n r ↦ max n r.id) n ∧
        ∀ r ∈ rows, r.id ≤ rows.foldl (fun n r ↦ max n r.id) n := by
    intro rows
    induction rows with
    | nil => simp
    | cons r' rows ih =>
      intro n
      obtain ⟨hn, hrows⟩ := ih (max n r'.id)
      refine ⟨Nat.le_trans (Nat.le_max_left _ _) hn, fun r hr ↦ ?_⟩
      rcases List.mem_cons.1 hr with rfl | hr
      · exact Nat.le_trans (Nat.le_max_right _ _) hn
      · exact hrows r hr
  exact Nat.lt_succ_of_le ((bound t.rows 0).2 r hr)

/-- A row with a number and a name that do not occur keeps the keys. -/
theorem Keyed.append {t : Table} (h : t.Keyed) {r : Row} (hid : r.id = t.nextId)
    (hname : t.find? r.username = none) : (Table.mk (t.rows ++ [r])).Keyed where
  ids := by
    rw [List.map_append, List.map_singleton, List.nodup_append]
    refine ⟨h.ids, List.nodup_singleton _, fun i hi j hj ↦ ?_⟩
    obtain ⟨r', hr', rfl⟩ := List.mem_map.1 hi
    rw [List.mem_singleton.1 hj, hid]
    exact Nat.ne_of_lt (lt_nextId hr')
  names := by
    rw [List.map_append, List.map_singleton, List.nodup_append]
    refine ⟨h.names, List.nodup_singleton _, fun u hu v hv ↦ ?_⟩
    obtain ⟨r', hr', rfl⟩ := List.mem_map.1 hu
    rw [List.mem_singleton.1 hv]
    exact find?_eq_none_iff.1 hname r' hr'

/-- **Adding a row** with the next number and a name that does not occur keeps the constraints. -/
theorem WellFormed.append {t : Table} (h : t.WellFormed) {r : Row} (hid : r.id = t.nextId)
    (hname : t.find? r.username = none) : (Table.mk (t.rows ++ [r])).WellFormed where
  ids := by
    rw [List.map_append, List.pairwise_append]
    -- the new number is above all that are there
    refine ⟨h.ids, List.pairwise_singleton _ _, ?_⟩
    intro i hi j hj
    obtain ⟨r', hr', rfl⟩ := List.mem_map.1 hi
    obtain rfl : j = r.id := by simpa using hj
    rw [hid]
    exact lt_nextId hr'
  positive := by
    intro i hi
    rw [List.map_append, List.mem_append] at hi
    rcases hi with hi | hi
    · exact h.positive i hi
    · obtain rfl : i = r.id := by simpa using hi
      rw [hid]
      exact Nat.succ_pos _
  names := (h.keyed.append hid hname).names

/-- **Removing rows** keeps the constraints. -/
theorem WellFormed.filter {t : Table} (h : t.WellFormed) (p : Row → Bool) :
    (Table.mk (t.rows.filter p)).WellFormed where
  ids := h.ids.sublist (List.filter_sublist.map _)
  positive := fun i hi ↦ h.positive i ((List.filter_sublist.map _).subset hi)
  names := h.names.sublist (List.filter_sublist.map _)

/-! ### Modifying the row of a name -/

/-- The table with every row of a user name changed by `f`. -/
def modify (t : Table) (u : String) (f : Row → Row) : Table :=
  ⟨t.rows.map fun r ↦ if r.username = u then f r else r⟩

theorem stampLogin_eq_modify (t : Table) (now u : String) :
    t.stampLogin now u = t.modify u fun r ↦ { r with lastLogin := some now } := rfl

/-- **In a table with keys**, overwriting by the number of the row of a name modifies that row. -/
theorem Keyed.overwrite_eq_modify {t : Table} (h : t.Keyed) {old row : Row}
    (hold : t.find? row.username = some old) (hid : row.id = old.id) :
    t.overwrite row = t.modify row.username fun _ ↦ row := by
  simp only [overwrite, modify, Table.mk.injEq]
  refine List.map_congr_left fun r hr ↦ ?_
  simp only [hid, h.id_eq_iff hold hr]

section modify

variable {t : Table} {u : String} {f : Row → Row}

theorem mem_modify_of_ne {r : Row} (hr : r ∈ t.rows) (hn : r.username ≠ u) :
    r ∈ (t.modify u f).rows :=
  List.mem_map.2 ⟨r, hr, if_neg hn⟩

theorem mem_modify_of_eq {r : Row} (hr : r ∈ t.rows) (hn : r.username = u) :
    f r ∈ (t.modify u f).rows :=
  List.mem_map.2 ⟨r, hr, if_pos hn⟩

/-- The row of the name itself is found as it has been changed. -/
theorem find?_modify_self (f : Row → Row) (hname : ∀ r, r.username = u → (f r).username = u)
    {r : Row} (found : t.find? u = some r) : (t.modify u f).find? u = some (f r) := by
  have same : (fun r : Row ↦ r.username == u) ∘ (fun r ↦ if r.username = u then f r else r) =
      fun r : Row ↦ r.username == u := by
    funext r
    by_cases hr : r.username = u
    · simp [hr, hname r hr]
    · simp [hr]
  have hr : r.username = u := username_of_find? found
  rw [find?] at found
  rw [find?, modify, List.find?_map, same, found, Option.map_some, if_pos hr]

/-- A row that keeps its number leaves the numbers of the table as they are. -/
theorem map_id_modify (hid : ∀ r ∈ t.rows, r.username = u → (f r).id = r.id) :
    (t.modify u f).rows.map (·.id) = t.rows.map (·.id) := by
  rw [Table.modify, List.map_map]
  refine List.map_congr_left fun r hr ↦ ?_
  by_cases hn : r.username = u
  · simp [hn, hid r hr hn]
  · simp [hn]

theorem map_username_modify (hname : ∀ r ∈ t.rows, r.username = u → (f r).username = r.username) :
    (t.modify u f).rows.map (·.username) = t.rows.map (·.username) := by
  rw [Table.modify, List.map_map]
  refine List.map_congr_left fun r hr ↦ ?_
  by_cases hn : r.username = u
  · simp only [Function.comp_apply, hn, if_true]
    rw [hname r hr hn, hn]
  · simp [hn]

/-- Modifying a row with its number and its name left as they are keeps the constraints, -/
theorem WellFormed.modify (h : t.WellFormed)
    (hid : ∀ r ∈ t.rows, r.username = u → (f r).id = r.id)
    (hname : ∀ r ∈ t.rows, r.username = u → (f r).username = r.username) :
    (t.modify u f).WellFormed :=
  ⟨map_id_modify hid ▸ h.ids, map_id_modify hid ▸ h.positive, map_username_modify hname ▸ h.names⟩

/-- and the keys. -/
theorem Keyed.modify (h : t.Keyed) (hid : ∀ r ∈ t.rows, r.username = u → (f r).id = r.id)
    (hname : ∀ r ∈ t.rows, r.username = u → (f r).username = r.username) : (t.modify u f).Keyed :=
  ⟨map_id_modify hid ▸ h.ids, map_username_modify hname ▸ h.names⟩

/-- The rows of other names stay as they are, and in their order. -/
theorem filter_modify (hname : ∀ r, r.username = u → (f r).username = u) :
    (t.modify u f).rows.filter (·.username != u) = t.rows.filter (·.username != u) := by
  have same : (fun r : Row ↦ r.username != u) ∘ (fun r ↦ if r.username = u then f r else r) =
      fun r : Row ↦ r.username != u := by
    funext r
    by_cases hr : r.username = u
    · simp [hr, hname r hr]
    · simp [hr]
  rw [Table.modify, List.filter_map, same]
  refine (List.map_congr_left fun r hr ↦ ?_).trans (List.map_id _)
  exact if_neg (bne_iff_ne.1 (List.mem_filter.1 hr).2)

end modify

/-! ### The writes of a store -/

/-- The record that a write hands back: with the number and the creation time of its row. -/
def writtenAs (record : Record) (row : Row) : Record :=
  { record with id := some row.id, createdAt := some row.createdAt }

theorem create_of_absent {t : Table} {now : String} {record : Record} {role : String}
    (hrole : record.role = some role) (absent : t.find? record.username = none) :
    t.create now record = .ok (⟨t.rows ++ [rowOf record role t.nextId now]⟩, t.nextId) := by
  simp [create, hrole, absent]

/-- Adding without a role is refused. -/
theorem create_of_no_role {t : Table} {now : String} {record : Record}
    (hrole : record.role = none) : t.create now record = .error .roleMissing := by
  simp [create, hrole]

theorem create_of_present {t : Table} {now : String} {record : Record} {role : String} {old : Row}
    (hrole : record.role = some role) (present : t.find? record.username = some old) :
    t.create now record = .error .usernameTaken := by
  simp [create, hrole, present]

theorem upsert_of_absent {t : Table} {now : String} {record : Record} {role : String}
    (hrole : record.role = some role) (absent : t.find? record.username = none) :
    t.upsert now record =
      .ok (⟨t.rows ++ [rowOf record role t.nextId now]⟩,
        writtenAs record (rowOf record role t.nextId now)) := by
  simp [upsert, hrole, absent, writtenAs]

theorem upsert_of_present {t : Table} {now : String} {record : Record} {role : String} {old : Row}
    (hrole : record.role = some role) (present : t.find? record.username = some old) :
    t.upsert now record =
      .ok (t.overwrite (rowOf record role old.id old.createdAt),
        writtenAs record (rowOf record role old.id old.createdAt)) := by
  simp [upsert, hrole, present, writtenAs]

/-- A write brings in no row but its own. -/
theorem mem_of_upsert {t t' : Table} {now : String} {record written : Record} {r : Row}
    (hu : t.upsert now record = .ok (t', written)) (hr : r ∈ t'.rows) :
    r ∈ t.rows ∨ r.toProfile = record.toProfile := by
  -- a written row is put behind the others or in the place of the one of its name
  cases hrole : record.role with
  | none => simp [Table.upsert, hrole] at hu
  | some role =>
    cases hf : t.find? record.username with
    | none =>
      rw [upsert_of_absent hrole hf, Except.ok.injEq, Prod.mk.injEq] at hu
      rw [← hu.1, List.mem_append, List.mem_singleton] at hr
      rcases hr with hr | rfl
      · exact Or.inl hr
      · exact Or.inr rfl
    | some old =>
      rw [upsert_of_present hrole hf, Except.ok.injEq, Prod.mk.injEq] at hu
      rw [← hu.1, overwrite, List.mem_map] at hr
      obtain ⟨r', hr', rfl⟩ := hr
      split
      · exact Or.inr rfl
      · exact Or.inl hr'

theorem mem_of_create {t t' : Table} {now : String} {record : Record} {id : Nat} {r : Row}
    (created : t.create now record = .ok (t', id)) (hr : r ∈ t'.rows) :
    r ∈ t.rows ∨ r.toProfile = record.toProfile := by
  cases hrole : record.role with
  | none => simp [create_of_no_role hrole] at created
  | some role =>
    cases hf : t.find? record.username with
    | some old => simp [create_of_present hrole hf] at created
    | none =>
      rw [create_of_absent hrole hf, Except.ok.injEq, Prod.mk.injEq] at created
      rw [← created.1, List.mem_append, List.mem_singleton] at hr
      rcases hr with hr | rfl
      · exact Or.inl hr
      · exact Or.inr rfl

/-- A write without a role is refused. -/
theorem upsert_of_no_role {t : Table} {now : String} {record : Record}
    (hrole : record.role = none) : t.upsert now record = .error .roleMissing := by
  simp [upsert, hrole]

/-! ### Step by step -/

/-- A row is of the same account as another. -/
structure SameAccount (old new : Row) : Prop where
  id : new.id = old.id
  username : new.username = old.username
  createdAt : new.createdAt = old.createdAt

theorem SameAccount.refl (row : Row) : SameAccount row row :=
  ⟨rfl, rfl, rfl⟩

theorem SameAccount.trans {r r' r'' : Row} (h : SameAccount r r') (h' : SameAccount r' r'') :
    SameAccount r r'' :=
  ⟨h'.id.trans h.id, h'.username.trans h.username, h'.createdAt.trans h.createdAt⟩

/-- **Everything an operation can do to a table.** Only one that deletes a name removes a row. -/
inductive Step (deletes : Option String) (t : Table) : Table → Prop where
  | kept : Step deletes t t
  | added (row : Row) (next : row.id = t.nextId) (fresh : t.find? row.username = none) :
      Step deletes t ⟨t.rows ++ [row]⟩
  | modified (u : String) (f : Row → Row)
      (same : ∀ row ∈ t.rows, row.username = u → SameAccount row (f row)) :
      Step deletes t (t.modify u f)
  | removed (u : String) (named : deletes = some u) : Step deletes t (t.delete u).1

/-- **The constraints are kept** by whatever an operation does. -/
theorem Step.wellFormed {deletes : Option String} {t t' : Table} (step : Step deletes t t')
    (h : t.WellFormed) : t'.WellFormed := by
  cases step with
  | kept => exact h
  | added row next fresh => exact h.append next fresh
  | modified u f same =>
    exact h.modify (fun r hr hn ↦ (same r hr hn).id) fun r hr hn ↦ (same r hr hn).username
  | removed u named => exact h.filter _

theorem step_upsert {t t' : Table} (h : t.WellFormed) {now : String} {record written : Record}
    (hu : t.upsert now record = .ok (t', written)) (deletes : Option String) :
    Step deletes t t' := by
  cases hrole : record.role with
  | none => simp [upsert_of_no_role hrole] at hu
  | some role =>
    cases hf : t.find? record.username with
    | none =>
      rw [upsert_of_absent hrole hf, Except.ok.injEq, Prod.mk.injEq] at hu
      rw [← hu.1]
      exact .added _ rfl hf
    | some old =>
      rw [upsert_of_present hrole hf, Except.ok.injEq, Prod.mk.injEq] at hu
      -- names are distinct, so overwriting a row by its number changes the row of that name
      have hold : t.find? (rowOf record role old.id old.createdAt).username = some old := hf
      rw [← hu.1, h.keyed.overwrite_eq_modify hold rfl]
      refine .modified _ _ fun r hr hn ↦ ?_
      have hr' := h.find?_of_mem hr
      rw [hn] at hr'
      obtain rfl : old = r := Option.some.inj (hf.symm.trans hr')
      exact ⟨rfl, hn.symm, rfl⟩

theorem step_create {t t' : Table} {now : String} {record : Record} {id : Nat}
    (hc : t.create now record = .ok (t', id)) (deletes : Option String) : Step deletes t t' := by
  cases hrole : record.role with
  | none => simp [create_of_no_role hrole] at hc
  | some role =>
    cases hf : t.find? record.username with
    | none =>
      rw [create_of_absent hrole hf, Except.ok.injEq, Prod.mk.injEq] at hc
      rw [← hc.1]
      exact .added _ rfl hf
    | some old => simp [create_of_present hrole hf] at hc

theorem step_stampLogin (t : Table) (now u : String) (deletes : Option String) :
    Step deletes t (t.stampLogin now u) :=
  stampLogin_eq_modify t now u ▸ .modified u _ fun _ _ _ ↦ ⟨rfl, rfl, rfl⟩

theorem WellFormed.upsert {t t' : Table} (h : t.WellFormed) {now : String} {record written : Record}
    (hu : t.upsert now record = .ok (t', written)) : t'.WellFormed :=
  (step_upsert h hu none).wellFormed h

theorem WellFormed.create {t t' : Table} (h : t.WellFormed) {now : String} {record : Record}
    {id : Nat} (hc : t.create now record = .ok (t', id)) : t'.WellFormed :=
  (step_create hc none).wellFormed h

theorem WellFormed.delete {t : Table} (h : t.WellFormed) (u : String) :
    (t.delete u).1.WellFormed :=
  h.filter _

theorem WellFormed.stampLogin {t : Table} (h : t.WellFormed) (now u : String) :
    (t.stampLogin now u).WellFormed :=
  (t.step_stampLogin now u none).wellFormed h

end AuthRealm.Account.Table
