import AuthRealm.Account.Table
import AuthRealm.Text.Json

/-!
# Tables in files

How a table of accounts is kept between runs of the program: as a JSON array of rows, each an object
with a member for every column. A column without a value is `null`.
-/

namespace AuthRealm.Account

open Text

namespace TableFile

/-- The value of a column that may be without one. -/
def ofOption (s : Option String) : Json :=
  (s.map Json.string).getD .null

/-- The object of a row. -/
def rowJson (r : Row) : Json :=
  .object [("id", .integer r.id), ("username", .string r.username),
    ("hashed_password", ofOption r.hashedPassword), ("cookie", ofOption r.cookie),
    ("account_type", .string r.kind.text), ("display_name", ofOption r.displayName),
    ("email", ofOption r.email), ("role", .string r.role), ("created_at", .string r.createdAt),
    ("last_login", ofOption r.lastLogin), ("is_active", .bool r.isActive)]

/-- The text of a table. -/
def text (t : Table) : String :=
  (Json.array (t.rows.map rowJson)).text ++ "\n"

/-- A text member of an object. -/
def string? (v : Json) (name : String) : Option String :=
  match v.member? name with
  | some (.string s) => some s
  | _ => none

/-- The row of an object. -/
def row? (v : Json) : Option Row := do
  let username ← string? v "username"
  let role ← string? v "role"
  let createdAt ← string? v "created_at"
  let kind ← Kind.ofText? (← string? v "account_type")
  match v.member? "id", v.member? "is_active" with
  | some (.integer id), some (.bool isActive) =>
    return {
      id := id.toNat
      username := username
      hashedPassword := string? v "hashed_password"
      cookie := string? v "cookie"
      kind := kind
      displayName := string? v "display_name"
      email := string? v "email"
      role := role
      createdAt := createdAt
      lastLogin := string? v "last_login"
      isActive := isActive }
  | _, _ => none

/-- Reads the text of a table. -/
def ofText? (s : String) : Option Table :=
  match Json.parse s with
  | .ok (.array rows) => (rows.mapM row?).map Table.mk
  | _ => none

end TableFile

end AuthRealm.Account
