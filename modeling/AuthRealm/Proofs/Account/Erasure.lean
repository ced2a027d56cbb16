import AuthRealm.Proofs.Account.Growth

/-!
# Accounts without their cookies

A cookie is made of a password, and nothing but a look-up of a cookie reads it. So two tables that
differ in cookies alone are told apart by no other operation. It is enough to erase the cookies and
to see that **every operation commutes with that**: looking up a name, noting a login, and writing a
record (`upsert_withoutCookies`), which gives the same refusal or the same number and creation time.
-/

namespace AuthRealm.Account

/-- The row of an account without its cookie. -/
def Row.withoutCookie (row : Row) : Row :=
  { row with cookie := none }

/-- A record without its cookie. -/
def Record.withoutCookie (record : Record) : Record :=
  { record with cookie := none }

/-- Two rows are the same but for their cookies. -/
def Row.SameButCookie (row row' : Row) : Prop :=
  row.withoutCookie = row'.withoutCookie

/-- Two records are the same but for their cookies. -/
def Record.SameButCookie (record record' : Record) : Prop :=
  record.withoutCookie = record'.withoutCookie

namespace Row.SameButCookie

variable {row row' : Row}

theorem username (h : row.SameButCookie row') : row.username = row'.username := by
  show row.withoutCookie.username = row'.withoutCookie.username
  rw [h]

theorem isLocal (h : row.SameButCookie row') : row.isLocal = row'.isLocal := by
  show row.withoutCookie.isLocal = row'.withoutCookie.isLocal
  rw [h]

theorem isActive (h : row.SameButCookie row') : row.isActive = row'.isActive := by
  show row.withoutCookie.isActive = row'.withoutCookie.isActive
  rw [h]

theorem record (h : row.SameButCookie row') : row.record.SameButCookie row'.record := by
  show row.withoutCookie.record = row'.withoutCookie.record
  rw [h]

end Row.SameButCookie

theorem Record.SameButCookie.username {record record' : Record}
    (h : record.SameButCookie record') : record.username = record'.username := by
  show record.withoutCookie.username = record'.withoutCookie.username
  rw [h]

namespace Table

/-- The table without the cookies of its rows. -/
def withoutCookies (t : Table) : Table :=
  ⟨t.rows.map Row.withoutCookie⟩

/-- Two tables are the same but for cookies. -/
def SameButCookies (t t' : Table) : Prop :=
  t.withoutCookies = t'.withoutCookies

variable (t : Table) (now u : String)

theorem find?_withoutCookies : t.withoutCookies.find? u = (t.find? u).map Row.withoutCookie := by
  rw [find?, withoutCookies, List.find?_map]
  rfl

theorem map_id_withoutCookies : t.withoutCookies.rows.map (·.id) = t.rows.map (·.id) := by
  rw [withoutCookies, List.map_map]
  rfl

theorem map_username_withoutCookies :
    t.withoutCookies.rows.map (·.username) = t.rows.map (·.username) := by
  rw [withoutCookies, List.map_map]
  rfl

theorem nextId_withoutCookies : t.withoutCookies.nextId = t.nextId := by
  rw [nextId_eq, nextId_eq, map_id_withoutCookies]

theorem stampLogin_withoutCookies :
    (t.stampLogin now u).withoutCookies = t.withoutCookies.stampLogin now u := by
  rw [stampLogin, stampLogin, withoutCookies, withoutCookies, List.map_map, List.map_map]
  refine congrArg Table.mk (List.map_congr_left fun row _ ↦ ?_)
  show (if row.username = u then _ else row).withoutCookie =
    if row.username = u then _ else row.withoutCookie
  split <;> rfl

theorem overwrite_withoutCookies (row : Row) :
    (t.overwrite row).withoutCookies = t.withoutCookies.overwrite row.withoutCookie := by
  rw [overwrite, overwrite, withoutCookies, withoutCookies, List.map_map, List.map_map]
  refine congrArg Table.mk (List.map_congr_left fun old _ ↦ ?_)
  show (if old.id = row.id then row else old).withoutCookie =
    if old.id = row.id then row.withoutCookie else old.withoutCookie
  split <;> rfl

theorem append_withoutCookies (row : Row) :
    withoutCookies ⟨t.rows ++ [row]⟩ = ⟨t.withoutCookies.rows ++ [row.withoutCookie]⟩ := by
  rw [withoutCookies, List.map_append]
  rfl

/-- **A write takes no notice of cookies**: without them it is the write of the record without its
own to the table without any. -/
theorem upsert_withoutCookies (record : Record) :
    t.withoutCookies.upsert now record.withoutCookie =
      (t.upsert now record).map fun written ↦
        (written.1.withoutCookies, written.2.withoutCookie) := by
  -- a row is found with its cookie or without, so both writes take the same branch
  have named : t.withoutCookies.find? record.withoutCookie.username =
      (t.find? record.username).map Row.withoutCookie := t.find?_withoutCookies record.username
  cases hrole : record.role with
  | none =>
    have none : record.withoutCookie.role = none := hrole
    rw [upsert_of_no_role hrole, upsert_of_no_role none]
    rfl
  | some role =>
    have some : record.withoutCookie.role = some role := hrole
    cases hf : t.find? record.username with
    | none =>
      rw [hf, Option.map_none] at named
      rw [upsert_of_absent hrole hf, upsert_of_absent some named, nextId_withoutCookies]
      simp only [Except.map, append_withoutCookies]
      rfl
    | some old =>
      rw [hf, Option.map_some] at named
      rw [upsert_of_present hrole hf, upsert_of_present some named]
      simp only [Except.map, overwrite_withoutCookies]
      rfl

namespace SameButCookies

variable {t t' : Table} (h : t.SameButCookies t')

include h

/-- Rows are found under the same names, and are the same but for their cookies. -/
theorem find? (u : String) : Option.Rel Row.SameButCookie (t.find? u) (t'.find? u) := by
  have found : (t.find? u).map Row.withoutCookie = (t'.find? u).map Row.withoutCookie := by
    rw [← find?_withoutCookies, ← find?_withoutCookies, h]
  cases hf : t.find? u with
  | none =>
    rw [hf, Option.map_none, eq_comm, Option.map_eq_none_iff] at found
    rw [found]
    exact .none
  | some row =>
    rw [hf, Option.map_some, eq_comm, Option.map_eq_some_iff] at found
    obtain ⟨row', found', same⟩ := found
    rw [found']
    exact .some same.symm

theorem isLocal (u : String) : t.isLocal u = t'.isLocal u := by
  rw [Table.isLocal, Table.isLocal]
  have rows := SameButCookies.find? h u
  generalize t.find? u = row at rows
  generalize t'.find? u = row' at rows
  cases rows with
  | none => rfl
  | some same => exact same.isLocal

theorem stampLogin (now u : String) :
    (t.stampLogin now u).SameButCookies (t'.stampLogin now u) := by
  rw [SameButCookies, stampLogin_withoutCookies, stampLogin_withoutCookies, h]

/-- The constraints say nothing of cookies. -/
theorem wellFormed (hw : t.WellFormed) : t'.WellFormed := by
  have ids : t'.rows.map (·.id) = t.rows.map (·.id) := by
    rw [← map_id_withoutCookies, ← h, map_id_withoutCookies]
  have names : t'.rows.map (·.username) = t.rows.map (·.username) := by
    rw [← map_username_withoutCookies, ← h, map_username_withoutCookies]
  exact ⟨ids ▸ hw.ids, ids ▸ hw.positive, names ▸ hw.names⟩

/-- One name has one row, so rows of the two tables with one name are the same but for their
cookies.
-/
theorem sameButCookie_of_username (hw : t.WellFormed) {row row' : Row} (hr : row ∈ t.rows)
    (hr' : row' ∈ t'.rows) (named : row.username = row'.username) : row.SameButCookie row' := by
  have hw' : t'.WellFormed := SameButCookies.wellFormed h hw
  have rows := SameButCookies.find? h row.username
  rw [hw.find?_of_mem hr, named, hw'.find?_of_mem hr'] at rows
  cases rows with
  | some same => exact same

end SameButCookies

end Table

end AuthRealm.Account
