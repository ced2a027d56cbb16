import AuthRealm.Storage.Path
import AuthRealm.Text.Fields
import AuthRealm.Text.Numeral
import AuthRealm.Text.Percent
import AuthRealm.Text.Printable
import AuthRealm.Text.Quoted

/-!
# URLs of account stores

The URL that says where accounts are kept: a dialect, perhaps a user and a host, a database and
options. Only one dialect is served, `sqlite`, whose database is a file or, without a name, memory.
What becomes of the other dialects that are known, and of options that ask something of a driver, is
up to the drivers of the machine, which are a parameter (`Drivers`).

The database is written with percent escapes and read without them (`unescape`, `escape`), so a path
put into a URL as it stands is read back as another path if it has a percent sign before two
hexadecimal digits, or a question mark, in it.
-/

namespace AuthRealm.Account

open Storage Text

/-- A port: the integer that stands in a URL, or a text that is none. -/
inductive Endpoint where
  | port (number : Int)
  | unreadable (text : String)
  deriving DecidableEq, Repr

/-- A URL, taken apart. -/
structure StoreUrl where
  dialect : String
  username : Option String := none
  password : Option String := none
  host : Option String := none
  endpoint : Option Endpoint := none
  database : Option String := none
  options : List (String × String) := []
  deriving DecidableEq, Repr

namespace StoreUrl

/-- A character that stands for itself anywhere in a URL. -/
def isPlain (c : Char) : Bool :=
  c.isAlphanum || c = '_' || c = '.' || c = '-' || c = '~'

/-- A character that stands for itself in the user of a URL. -/
def isPlainInUser (c : Char) : Bool :=
  isPlain c || c = ' ' || c = '+'

/-- A character that stands for itself in the database of a URL. -/
def isPlainInDatabase (c : Char) : Bool :=
  isPlainInUser c || c = '/'

/-- A character of the name of a dialect. -/
def isDialectChar (c : Char) : Bool :=
  c.isAlphanum || c = '_' || c = '+' || (0x80 ≤ c.toNat && isPrintable c)

/-- The longest start of a text of which every character passes, and the rest. -/
def spanWhile (p : Char → Bool) (s : List Char) : List Char × List Char :=
  (s.takeWhile p, s.dropWhile p)

/-- A user, and perhaps a password, before the sign that ends them; and the rest. -/
def userInfo? (s : List Char) : Option (List Char × Option (List Char) × List Char) :=
  let (name, rest) := spanWhile (fun c ↦ c != ':' && c != '/') s
  match rest with
  | ':' :: r =>
    let (password, after) := spanWhile (· != '@') r
    match after with
    | _ :: after => some (name, some password, after)
    | [] => atSign? name rest
  | _ => atSign? name rest
where
  /-- A user up to the last such sign of a run. -/
  atSign? (name rest : List Char) : Option (List Char × Option (List Char) × List Char) :=
    let behind := name.reverse.takeWhile (· != '@')
    if behind.length = name.length then none
    else some (name.take (name.length - behind.length - 1), none, behind.reverse ++ rest)

/-- A host, in brackets or bare, and the rest. -/
def host? (s : List Char) : Option (List Char) × List Char :=
  match s with
  | '[' :: r =>
    let (name, rest) := spanWhile (fun c ↦ c != ']' && c != '/' && c != '?') r
    match name, rest with
    | _ :: _, ']' :: rest => (some name, rest)
    | _, _ => bare s
  | _ => bare s
where
  /-- A host without brackets. -/
  bare (s : List Char) : Option (List Char) × List Char :=
    let (name, rest) := spanWhile (fun c ↦ c != ':' && c != '/' && c != '?') s
    if name.isEmpty then (none, s) else (some name, rest)

/-- A part of an option with its escapes read, of which a plus sign is one for a blank. -/
def unescapeOption (s : List Char) : String :=
  unescape (s.map fun c ↦ if c = '+' then ' ' else c)

/-- A part of an option with escapes for all characters that are not plain. -/
def escapeOption (s : String) : String :=
  String.ofList ((escape (fun c ↦ isPlain c || c = ' ') s).toList.map fun c ↦
    if c = ' ' then '+' else c)

/-- The options of a URL: pairs between ampersands, those without a value left out. -/
def optionsOf (s : List Char) : List (String × String) :=
  (fields '&' s).filterMap fun f ↦
    match cutAt '=' f with
    | (name, some value) =>
      if value.isEmpty then none else some (unescapeOption name, unescapeOption value)
    | (_, none) => none

/-- The port that a text writes. -/
def endpointOf (s : List Char) : Endpoint :=
  match readInteger? s with
  | some n => .port n
  | none => .unreadable (String.ofList s)

/-- Reads a URL. -/
def ofText? (s : String) : Option StoreUrl :=
  let (dialect, rest) := spanWhile isDialectChar s.toList
  match dialect, after? "://".toList rest with
  | _ :: _, some rest =>
    let (username, password, rest) :=
      match userInfo? rest with
      | some (u, p, r) => (some (unescape u), p.map unescape, r)
      | none => (none, none, rest)
    let (host, rest) := host? rest
    let (endpoint, rest) :=
      match rest with
      | ':' :: r =>
        let (endpoint, rest) := spanWhile (fun c ↦ c != '/' && c != '?') r
        (some (endpointOf endpoint), rest)
      | _ => (none, rest)
    let (database, rest) :=
      match rest with
      | '/' :: r =>
        let (name, rest) := spanWhile (· != '?') r
        (some (unescape name), rest)
      | _ => (none, rest)
    let options :=
      match rest with
      | '?' :: r => optionsOf (r.takeWhile (· != '\n'))
      | _ => []
    some ⟨String.ofList dialect, username, password, host.map String.ofList, endpoint, database,
      options⟩
  | _, _ => none

/-- The text of a URL, with a password hidden. -/
def text (u : StoreUrl) : String :=
  let user := match u.username with
    | none => ""
    | some name => escape isPlainInUser name ++ (if u.password.isSome then ":***" else "") ++ "@"
  let host := match u.host with
    | none => ""
    | some h => if h.toList.contains ':' then "[" ++ h ++ "]" else h
  let endpoint := match u.endpoint with
    | some (.port n) => ":" ++ toString n
    | _ => ""
  let database := match u.database with
    | none => ""
    | some d => "/" ++ escape isPlainInDatabase d
  let options := match u.options.mergeSort fun a b ↦ decide (a.1 ≤ b.1) with
    | [] => ""
    | os =>
      "?" ++ String.intercalate "&" (os.map fun o ↦ escapeOption o.1 ++ "=" ++ escapeOption o.2)
  u.dialect ++ "://" ++ user ++ host ++ endpoint ++ database ++ options

/-- Where the accounts of a URL are kept. -/
inductive Place where
  | file (location : Location)
  | memory
  deriving DecidableEq, Repr

/-- Why a URL names no place for accounts. -/
inductive Problem where
  | unreadable
  | badEndpoint (text : String)
  | unknownDialect (name : String)
  | misplaced (url : String)
  | driver (wording : String)
  | embeddedNul
  deriving DecidableEq, Repr

/-- The wording of a refusal. -/
def Problem.message : Problem → String
  | .unreadable => "Could not parse SQLAlchemy URL from given URL string"
  | .badEndpoint text =>
    if text = "" then "Port argument must be an integer or None"
    else "invalid literal for int() with base 10: " ++
      String.ofList ((quoted text).toList.take 200)
  | .unknownDialect name =>
    "Can't load plugin: sqlalchemy.dialects:" ++
      String.ofList (name.toList.map fun c ↦ if c = '+' then '.' else c)
  | .misplaced url =>
    "Invalid SQLite URL: " ++ url ++ "\nValid SQLite URL forms are\n sqlite:///:memory:\n" ++
      " sqlite:///relative/path/to/file.db\n sqlite:////absolute/path/to/file.db"
  | .driver wording => wording
  | .embeddedNul => "embedded null byte"

/-- Whether a problem is one of the URL to whoever looks at it. A port that is no number, a driver
that is not there or will not have an option, and a NUL are stumbled over on the way. -/
def Problem.isOfUrl : Problem → Bool
  | .unreadable | .unknownDialect _ | .misplaced _ => true
  | .badEndpoint _ | .driver _ | .embeddedNul => false

/-- The dialects that are served. -/
def servedDialects : List String := ["sqlite", "sqlite+pysqlite"]

/-- The drivers that dialects which are known but not served want. -/
def wantedDrivers : List (String × String) := [("postgresql", "psycopg"), ("mysql", "MySQLdb"),
  ("mariadb", "MySQLdb"), ("oracle", "oracledb"), ("mssql", "pyodbc")]

/-- What the drivers of a machine make of URLs. Unless it is said otherwise no driver is there but
that of the served dialect, which takes any options.

A server of accounts that another driver could reach is left out, and so is what an option makes of
the name of a database. -/
structure Drivers where
  /-- Why a dialect that is not served keeps no accounts here. -/
  refusal (u : StoreUrl) : Problem :=
    match wantedDrivers.find? fun w ↦ w.1 == u.dialect with
    | some (_, driver) => .driver ("No module named " ++ quoted driver)
    | none => .unknownDialect u.dialect
  /-- Why the driver of the served dialect will not have some options. -/
  objection? (options : List (String × String)) : Option Problem := none
  objection?_nil : objection? [] = none := by rfl

instance : Repr Drivers :=
  ⟨fun _ _ ↦ "drivers"⟩

/-- Whether a URL says who asks, or whom: a file has neither users nor a port. The port zero does
not count. -/
def hasAuthority (u : StoreUrl) : Bool :=
  u.username.getD "" != "" || u.password.getD "" != "" || u.host.isSome ||
    u.endpoint.getD (.port 0) != .port 0

/-- The place that the name of a database stands for, for a program in a working directory. A path
is taken without following links. -/
def placeOf (database : Option String) (workDir : Location) : Except Problem Place :=
  match database with
  | none => .ok .memory
  | some name =>
    if name = "" || name = ":memory:" then .ok .memory
    else if name.toList.contains '\x00' then .error .embeddedNul
    else
      let path := (Path.ofText name).within workDir
      .ok (.file (Location.normal [] path.names))

/-- The place that a URL names, on a machine with some drivers. -/
def place (drivers : Drivers) (u : StoreUrl) (workDir : Location) : Except Problem Place :=
  match u.endpoint with
  | some (.unreadable text) => .error (.badEndpoint text)
  | _ =>
    if !servedDialects.contains u.dialect then .error (drivers.refusal u)
    else if u.hasAuthority then .error (.misplaced u.text)
    else
      match drivers.objection? u.options with
      | some problem => .error problem
      | none => placeOf u.database workDir

end StoreUrl

end AuthRealm.Account
