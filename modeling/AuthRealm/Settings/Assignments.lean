import AuthRealm.Text.Blank
import AuthRealm.Text.Quoted
import AuthRealm.Text.Fields

/-!
# Assignment files

A file of assignments, one to a line: a name, an equals sign and a value, perhaps in quotes, perhaps
behind the word `export`. A line that cannot be read is passed over. Values may refer to earlier
assignments and to the environment; a reference may carry a default, and a name that nothing sets
stands for nothing.
-/

namespace AuthRealm.Assignments

open Text

/-- Whether a character ends a line. -/
def isLineEnd (c : Char) : Bool :=
  c = '\n' || c = '\r'

/-- A blank that does not end a line. -/
def isSpace (c : Char) : Bool :=
  isBlank c && !isLineEnd c

/-- Passes over blanks within a line. -/
def skipSpaces (s : List Char) : List Char :=
  s.dropWhile isSpace

/-- Passes over the word `export` with blanks behind it, if it is there. -/
def skipExport (s : List Char) : List Char :=
  match after? "export".toList s with
  | some r => if (r.head?.map isSpace).getD false then skipSpaces r else s
  | none => s

/-- What follows the line in which a text starts. -/
def skipLine (s : List Char) : List Char :=
  (s.dropWhile (!isLineEnd ·)).drop 1

/-! ### Quoted values -/

/-- The place of the quote that closes a value: the first one without a backslash before it, and
failing that the last one at all. `last` is the last quote passed over. -/
def closingQuote? (quote : Char) : Nat → Bool → Option Nat → List Char → Option Nat
  | _, _, last, [] => last
  | i, escaped, last, c :: r =>
    if c = quote then
      if escaped then closingQuote? quote (i + 1) false (some i) r else some i
    else closingQuote? quote (i + 1) (c = '\\') last r

/-- The character that a letter behind a backslash stands for in double quotes. -/
def doubleEscape? : Char → Option Char
  | '\\' => some '\\'
  | '\'' => some '\''
  | '"' => some '"'
  | 'a' => some '\x07'
  | 'b' => some '\x08'
  | 'f' => some '\x0c'
  | 'n' => some '\n'
  | 'r' => some '\r'
  | 't' => some '\t'
  | 'v' => some '\x0b'
  | _ => none

/-- The character that a letter behind a backslash stands for in single quotes. -/
def singleEscape? : Char → Option Char
  | '\\' => some '\\'
  | '\'' => some '\''
  | _ => none

/-- A quoted text with its escapes read. -/
def unescape (escape? : Char → Option Char) : List Char → List Char
  | '\\' :: c :: r =>
    match escape? c with
    | some d => d :: unescape escape? r
    | none => '\\' :: unescape escape? (c :: r)
  | c :: r => c :: unescape escape? r
  | [] => []
  termination_by s => s.length

/-! ### Lines -/

/-- An unquoted value up to a comment, which is a number sign behind blanks. -/
def withoutComment : List Char → List Char
  | [] => []
  | c :: r =>
    if isBlank c && (r.dropWhile isBlank).head? = some '#' then [] else c :: withoutComment r

/-- A value and what follows it. -/
def readValue? (s : List Char) : Option (List Char × List Char) :=
  match s with
  | '\'' :: r => (closingQuote? '\'' 0 false none r).map fun i ↦
      (unescape singleEscape? (r.take i), r.drop (i + 1))
  | '"' :: r => (closingQuote? '"' 0 false none r).map fun i ↦
      (unescape doubleEscape? (r.take i), r.drop (i + 1))
  | _ => some (trimEnd (withoutComment (s.takeWhile (!isLineEnd ·))), s.dropWhile (!isLineEnd ·))

/-- A name and what follows it. A comment has no name. -/
def readName? (s : List Char) : Except (List Char) (Option (List Char) × List Char) :=
  match s with
  | '#' :: _ => .ok (none, s)
  | '\'' :: r =>
    let name := r.takeWhile (· != '\'')
    let rest := r.dropWhile (· != '\'')
    if name.isEmpty || rest.isEmpty then .error s else .ok (some name, rest.drop 1)
  | _ =>
    let isNameChar (c : Char) : Bool := c != '=' && c != '#' && !isBlank c
    let name := s.takeWhile isNameChar
    if name.isEmpty then .error s else .ok (some name, s.dropWhile isNameChar)

/-- One line read from its start: the assignment, whose value may be missing, and what follows. A
line that cannot be read has no assignment. -/
def readLine (s : List Char) : Option (List Char × Option (List Char)) × List Char :=
  match readName? (skipExport s) with
  | .error rest => (none, skipLine rest)
  | .ok (name, rest) =>
    let rest := skipSpaces rest
    let valued : Except (List Char) (Option (List Char) × List Char) :=
      match rest with
      | '=' :: r =>
        match readValue? (skipSpaces r) with
        | some (v, r) => .ok (some v, r)
        | none => .error (skipSpaces r)
      | _ => .ok (none, rest)
    match valued with
    | .error rest => (none, skipLine rest)
    | .ok (value, rest) =>
      let commented :=
        match skipSpaces rest with
        | '#' :: r => r.dropWhile (!isLineEnd ·)
        | _ => rest
      match skipSpaces commented with
      | [] => (name.map (·, value), [])
      | c :: r => if isLineEnd c then (name.map (·, value), r) else (none, skipLine (c :: r))

/-- The assignments of a text, in order. The fuel is a bound on the lines. -/
def readLines : Nat → List Char → List (List Char × Option (List Char))
  | 0, _ => []
  | fuel + 1, s =>
    match s.dropWhile isBlank with
    | [] => []
    | start =>
      match readLine start with
      | (some a, rest) => a :: readLines fuel rest
      | (none, rest) => readLines fuel rest

/-! ### References -/

/-- A reference at the start of a text behind its opening mark: a name, perhaps a default, and the
number of characters up to its end. -/
def reference? (s : List Char) : Option (List Char × Option (List Char) × Nat) :=
  let name := s.takeWhile fun c ↦ c != '\x7d' && c != ':'
  match s.drop name.length with
  | '\x7d' :: _ => some (name, none, name.length + 1)
  | ':' :: '-' :: r =>
    let default := r.takeWhile (· != '\x7d')
    match r.drop default.length with
    | '\x7d' :: _ => some (name, some default, name.length + 2 + default.length + 1)
    | _ => none
  | _ => none

/-- A value with its references replaced. `skip` counts the characters of a reference that are still
to be passed over. -/
def expand (lookup : String → Option (Option String)) : Nat → List Char → List Char
  | _, [] => []
  | skip + 1, _ :: r => expand lookup skip r
  | 0, c :: r =>
    match (if c = '$' && r.head? = some '\x7b' then reference? (r.drop 1) else none) with
    | some (name, default, length) =>
      let value :=
        match lookup (String.ofList name) with
        | some v => (v.getD "").toList
        | none => default.getD []
      value ++ expand lookup (length + 1) r
    | none => c :: expand lookup 0 r

/-- The assignments with a value for a name, in the place where the name first occurs. -/
def assign (name : String) (value : Option String) :
    List (String × Option String) → List (String × Option String)
  | [] => [(name, value)]
  | b :: bs => if b.1 = name then (name, value) :: bs else b :: assign name value bs

/-- The value of a name in a list of pairs. -/
def lookup? {α : Type} (name : String) (pairs : List (String × α)) : Option α :=
  (pairs.find? fun p ↦ p.1 == name).map (·.2)

/-- The assignments of a file over an environment, with references replaced. An assignment without
a value sets its name to nothing. -/
def ofText (environment : List (String × String)) (text : List Char) :
    List (String × Option String) :=
  (readLines (text.length + 1) text).foldl (fun done (name, value) ↦
    let find (n : String) : Option (Option String) :=
      match lookup? n done with
      | some v => some v
      | none => (lookup? n environment).map some
    assign (String.ofList name) (value.map fun v ↦ String.ofList (expand find 0 v)) done) []

end AuthRealm.Assignments
