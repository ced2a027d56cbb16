import AuthRealm.Text.Hexadecimal

/-!
# JSON text

JSON values, their reader and their printer. The reader keeps the position of what it could not read
and says what it expected there, since both are shown to whoever sent the text. In an object the
last of several values for a name counts, at the place of the first. The printer writes no blanks,
and escapes whatever is not printable in ASCII.

Numbers stay exact: a whole number is an integer, any other a decimal. Three words for numbers that
JSON proper does not have are read as well. An integer of too many digits is not read at all.

Escapes can spell lone halves of surrogate pairs, which are no characters. A text with such halves
is a value of its own, by its code points; only in the name of a member is a half taken for the
replacement character.
-/

namespace AuthRealm.Text

/-- A JSON value. `decimal m e` is `m * 10 ^ e`, `constant` one of the words `NaN`, `Infinity` and
`-Infinity`, and `unpaired` a text with halves of surrogate pairs among its code points. -/
inductive Json where
  | null
  | bool (b : Bool)
  | integer (n : Int)
  | decimal (mantissa exponent : Int)
  | constant (word : String)
  | string (s : String)
  | unpaired (points : List Nat)
  | array (items : List Json)
  | object (members : List (String × Json))
  deriving Repr

namespace Json

/-- What a reader expected and did not find. -/
inductive Flaw where
  | value
  | propertyName
  | colon
  | comma
  | extraData
  | unterminatedString
  | controlCharacter
  | escape
  | unicodeEscape
  | tooManyDigits
  deriving DecidableEq, Repr

/-- The wording of a flaw. -/
def Flaw.text : Flaw → String
  | .value => "Expecting value"
  | .propertyName => "Expecting property name enclosed in double quotes"
  | .colon => "Expecting ':' delimiter"
  | .comma => "Expecting ',' delimiter"
  | .extraData => "Extra data"
  | .unterminatedString => "Unterminated string starting at"
  | .controlCharacter => "Invalid control character at"
  | .escape => "Invalid \\escape"
  | .unicodeEscape => "Invalid \\uXXXX escape"
  | .tooManyDigits => "Exceeds the limit for integer string conversion"

/-- Where in the text a flaw is, in characters from the start. -/
structure ParseError where
  flaw : Flaw
  position : Nat
  deriving DecidableEq, Repr

/-- What remains to be read, and the position where it starts. -/
structure Cursor where
  position : Nat
  rest : List Char

namespace Cursor

/-- Passes over `n` characters. -/
def skip (c : Cursor) (n : Nat) : Cursor :=
  ⟨c.position + n, c.rest.drop n⟩

/-- Passes over the blanks of JSON. -/
def skipBlanks (c : Cursor) : Cursor :=
  let blanks := c.rest.takeWhile fun d ↦ d = ' ' || d = '\t' || d = '\n' || d = '\r'
  c.skip blanks.length

/-- A failure at the cursor. -/
def fail {α : Type} (c : Cursor) (flaw : Flaw) : Except ParseError α :=
  .error ⟨flaw, c.position⟩

end Cursor

/-! ### Strings -/

/-- Whether a code point is half of a surrogate pair. -/
def isHalf (point : Nat) : Bool :=
  0xd800 ≤ point && point < 0xe000

/-- The value of a text by its code points. -/
def ofPoints (points : List Nat) : Json :=
  if points.any isHalf then .unpaired points else .string (String.ofList (points.map Char.ofNat))

/-- The name of a member by its code points. -/
def nameOf (points : List Nat) : String :=
  String.ofList (points.map fun n ↦ if isHalf n then '\ufffd' else Char.ofNat n)

/-- The number that exactly four hexadecimal digits write. -/
def hex4? : List Char → Option Nat
  | [a, b, c, d] => do
    return (((← hexValue? a) * 16 + (← hexValue? b)) * 16 + (← hexValue? c)) * 16 + (← hexValue? d)
  | _ => none

/-- The character that a letter behind a backslash stands for. -/
def escaped? : Char → Option Char
  | '"' => some '"'
  | '\\' => some '\\'
  | '/' => some '/'
  | 'b' => some '\x08'
  | 'f' => some '\x0c'
  | 'n' => some '\n'
  | 'r' => some '\r'
  | 't' => some '\t'
  | _ => none

/-- Reads the code points of a string from behind its opening quote, which stands at `opening`.
Those in `read` stand in front, the last one first. The fuel is a bound on the characters. -/
def readString (opening : Nat) : Nat → Cursor → List Nat → Except ParseError (List Nat × Cursor)
  | 0, _, _ => .error ⟨.unterminatedString, opening⟩
  | fuel + 1, c, read =>
    match c.rest with
    | [] => .error ⟨.unterminatedString, opening⟩
    | '"' :: _ => .ok (read.reverse, c.skip 1)
    | '\\' :: 'u' :: more =>
      if more.length ≤ 4 then .error ⟨.unicodeEscape, c.position + 1⟩
      else
        match hex4? (more.take 4) with
        | none => .error ⟨.unicodeEscape, c.position + 1⟩
        | some high =>
          let behind := c.skip 6
          if 0xd800 ≤ high && high < 0xdc00 && 6 < behind.rest.length &&
              behind.rest.take 2 == ['\\', 'u'] then
            match hex4? ((behind.rest.drop 2).take 4) with
            | none => .error ⟨.unicodeEscape, behind.position + 1⟩
            | some low =>
              if 0xdc00 ≤ low && low < 0xe000 then
                readString opening fuel (behind.skip 6)
                  ((0x10000 + (high - 0xd800) * 1024 + (low - 0xdc00)) :: read)
              else readString opening fuel behind (high :: read)
          else readString opening fuel behind (high :: read)
    | ['\\'] => .error ⟨.unterminatedString, opening⟩
    | '\\' :: d :: _ =>
      match escaped? d with
      | some e => readString opening fuel (c.skip 2) (e.toNat :: read)
      | none => c.fail .escape
    | d :: _ =>
      if d.toNat < 0x20 then c.fail .controlCharacter
      else readString opening fuel (c.skip 1) (d.toNat :: read)

/-! ### Numbers -/

/-- The number that decimal digits write. -/
def digitsValue (ds : List Char) : Nat :=
  ds.foldl (fun n d ↦ 10 * n + (d.toNat - 48)) 0

/-- The most digits of an integer that is read. -/
def maxDigits : Nat := 4300

/-- Whether a value is an integer of more digits than are read. -/
def isTooLong : Json → Bool
  | .integer n => Nat.pow 10 maxDigits ≤ n.natAbs
  | _ => false

/-- Reads a number: a sign, an integer without leading zeros, a fraction and an exponent. -/
def readNumber? (c : Cursor) : Option (Json × Cursor) :=
  let (negative, body) := match c.rest with
    | '-' :: r => (true, r)
    | r => (false, r)
  let whole := match body with
    | '0' :: _ => ['0']
    | r => r.takeWhile Char.isDigit
  if whole.isEmpty then none
  else
    let behind := body.drop whole.length
    let fraction := match behind with
      | '.' :: r => r.takeWhile Char.isDigit
      | _ => []
    let behind := if fraction.isEmpty then behind else behind.drop (1 + fraction.length)
    let (expSign, expDigits) := match behind with
      | e :: '-' :: r =>
        if e = 'e' || e = 'E' then ([e, '-'], r.takeWhile Char.isDigit) else ([], [])
      | e :: '+' :: r =>
        if e = 'e' || e = 'E' then ([e, '+'], r.takeWhile Char.isDigit) else ([], [])
      | e :: r => if e = 'e' || e = 'E' then ([e], r.takeWhile Char.isDigit) else ([], [])
      | [] => ([], [])
    let expLength := if expDigits.isEmpty then 0 else expSign.length + expDigits.length
    let length := (if negative then 1 else 0) + whole.length +
      (if fraction.isEmpty then 0 else 1 + fraction.length) + expLength
    let magnitude : Int := digitsValue (whole ++ fraction)
    let value := if negative then -magnitude else magnitude
    let exponent : Int :=
      if expDigits.isEmpty then 0
      else if expSign.contains '-' then -(digitsValue expDigits : Int) else digitsValue expDigits
    if fraction.isEmpty && expDigits.isEmpty then some (.integer value, c.skip length)
    else some (.decimal value (exponent - fraction.length), c.skip length)

/-! ### Values -/

/-- The words that stand for values. -/
def words : List (String × Json) :=
  [("null", .null), ("true", .bool true), ("false", .bool false), ("NaN", .constant "NaN"),
   ("Infinity", .constant "Infinity"), ("-Infinity", .constant "-Infinity")]

/-- The members of an object after one more, in place of an earlier one of the same name. -/
def setMember (name : String) (value : Json) : List (String × Json) → List (String × Json)
  | [] => [(name, value)]
  | m :: ms => if m.1 = name then (name, value) :: ms else m :: setMember name value ms

mutual

/-- Reads a value. The fuel is a bound on the depth and the number of values and members. -/
def readValue : Nat → Cursor → Except ParseError (Json × Cursor)
  | 0, c => c.fail .value
  | fuel + 1, c =>
    match c.rest with
    | '"' :: _ =>
      (readString c.position c.rest.length (c.skip 1) []).map fun (ps, d) ↦ (ofPoints ps, d)
    | '{' :: _ =>
      let inside := (c.skip 1).skipBlanks
      if inside.rest.head? = some '}' then .ok (.object [], inside.skip 1)
      else readMembers fuel inside []
    | '[' :: _ =>
      let inside := (c.skip 1).skipBlanks
      if inside.rest.head? = some ']' then .ok (.array [], inside.skip 1)
      else readItems fuel inside []
    | _ =>
      match words.find? fun w ↦ w.1.toList.isPrefixOf c.rest with
      | some w => .ok (w.2, c.skip w.1.length)
      | none =>
        match readNumber? c with
        | some (v, d) => if v.isTooLong then c.fail .tooManyDigits else .ok (v, d)
        | none => c.fail .value

/-- Reads the items of an array from the start of one, behind those in `read`. -/
def readItems : Nat → Cursor → List Json → Except ParseError (Json × Cursor)
  | 0, c, _ => c.fail .value
  | fuel + 1, c, read =>
    match readValue fuel c with
    | .error e => .error e
    | .ok (v, c) =>
      let c := c.skipBlanks
      match c.rest with
      | ']' :: _ => .ok (.array (v :: read).reverse, c.skip 1)
      | ',' :: _ => readItems fuel (c.skip 1).skipBlanks (v :: read)
      | _ => c.fail .comma

/-- Reads the members of an object from the start of one, behind those in `read`. -/
def readMembers : Nat → Cursor → List (String × Json) → Except ParseError (Json × Cursor)
  | 0, c, _ => c.fail .value
  | fuel + 1, c, read =>
    if c.rest.head? != some '"' then c.fail .propertyName
    else
      match readString c.position c.rest.length (c.skip 1) [] with
      | .error e => .error e
      | .ok (name, c) =>
        let c := c.skipBlanks
        if c.rest.head? != some ':' then c.fail .colon
        else
          match readValue fuel (c.skip 1).skipBlanks with
          | .error e => .error e
          | .ok (v, c) =>
            let c := c.skipBlanks
            let read := setMember (nameOf name) v read
            match c.rest with
            | '}' :: _ => .ok (.object read, c.skip 1)
            | ',' :: _ => readMembers fuel (c.skip 1).skipBlanks read
            | _ => c.fail .comma

end

/-- Reads a whole text. -/
def parse (s : String) : Except ParseError Json :=
  let text := s.toList
  match readValue (2 * text.length + 2) (Cursor.skipBlanks ⟨0, text⟩) with
  | .error e => .error e
  | .ok (v, c) =>
    let c := c.skipBlanks
    if c.rest.isEmpty then .ok v else c.fail .extraData

/-! ### Nesting -/

/-- Where a scan of JSON text stands: how deep it is, how deep it has been, and whether it is inside
a string, behind a backslash. -/
structure Nesting where
  depth : Nat := 0
  deepest : Nat := 0
  inString : Bool := false
  escaped : Bool := false

/-- The scan after one more character. -/
def Nesting.step (n : Nesting) (c : Char) : Nesting :=
  if n.inString then
    if n.escaped then { n with escaped := false }
    else if c = '\\' then { n with escaped := true }
    else { n with inString := c != '"' }
  else if c = '"' then { n with inString := true }
  else if c = '[' || c = '\x7b' then
    { n with depth := n.depth + 1, deepest := max n.deepest (n.depth + 1) }
  else if c = ']' || c = '\x7d' then { n with depth := n.depth - 1 }
  else n

/-- How deep lists and objects stand in each other in a text, as far as it can be read. -/
def nesting (s : List Char) : Nat :=
  (s.foldl Nesting.step {}).deepest

/-! ### Printing -/

/-- An escape for one sixteen-bit unit. -/
def unitEscape (v : Nat) : List Char :=
  '\\' :: 'u' :: hexDigits 4 v

/-- A character in a string. -/
def stringChar (c : Char) : List Char :=
  if c = '"' || c = '\\' then ['\\', c]
  else if 0x20 ≤ c.toNat && c.toNat < 0x7f then [c]
  else if c.toNat < 0x10000 then unitEscape c.toNat
  else
    let v := c.toNat - 0x10000
    unitEscape (0xd800 + v / 1024) ++ unitEscape (0xdc00 + v % 1024)

/-- A code point in a string. -/
def stringPoint (n : Nat) : List Char :=
  if isHalf n then unitEscape n else stringChar (Char.ofNat n)

/-- A string in its quotes. -/
def stringText (s : String) : String :=
  String.ofList ('"' :: s.toList.flatMap stringChar ++ ['"'])

mutual

/-- The text of a value. -/
def text : Json → String
  | .null => "null"
  | .bool b => if b then "true" else "false"
  | .integer n => toString n
  | .decimal m e => toString m ++ "e" ++ toString e
  | .constant word => word
  | .string s => stringText s
  | .unpaired points => String.ofList ('"' :: points.flatMap stringPoint ++ ['"'])
  | .array items => "[" ++ String.intercalate "," (itemTexts items) ++ "]"
  | .object members => "\x7b" ++ String.intercalate "," (memberTexts members) ++ "\x7d"

/-- The texts of items. -/
def itemTexts : List Json → List String
  | [] => []
  | v :: vs => v.text :: itemTexts vs

/-- The texts of members. -/
def memberTexts : List (String × Json) → List String
  | [] => []
  | (name, v) :: ms => (stringText name ++ ":" ++ v.text) :: memberTexts ms

end

/-! ### Looking into values -/

/-- The value of a member of an object. -/
def member? (name : String) : Json → Option Json
  | .object ms => (ms.find? fun m ↦ m.1 == name).map (·.2)
  | _ => none

end Json

end AuthRealm.Text
