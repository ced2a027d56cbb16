import AuthRealm.Http.Message
import AuthRealm.Text.Blank

/-!
# Cookies

How the service hands a cookie to a browser and reads it back. A value of plain characters is sent
as it is, any other between quotes with escapes; `unquote` undoes both. A value with a character
that no header can carry, or that could end the header, is not sent at all.
-/

namespace AuthRealm.Http

open Text

namespace Cookie

/-- The name of the cookie of the service. -/
def name : String := "realm_user"

/-! ### Writing -/

/-- A character that needs no quotes. -/
def isPlain (c : Char) : Bool :=
  c.isAlphanum || "!#$%&'*+-.^_\x60|~:".toList.contains c

/-- A character that needs no escape between quotes. -/
def isUnescaped (c : Char) : Bool :=
  isPlain c || " ()/<=>?@[]\x7b\x7d".toList.contains c

/-- A control character. -/
def isControl (c : Char) : Bool :=
  c.toNat < 0x20 || c.toNat = 0x7f

/-- The three octal digits of a byte. -/
def octal (v : Nat) : List Char :=
  [v / 64, v / 8, v].map fun d ↦ Char.ofNat (48 + d % 8)

/-- A character between quotes. -/
def quotedChar (c : Char) : List Char :=
  if c = '"' || c = '\\' then ['\\', c]
  else if isUnescaped c then [c]
  else '\\' :: octal c.toNat

/-- The text of a value, if it can be sent. -/
def valueText? (value : String) : Option String :=
  let chars := value.toList
  if chars.all isPlain then some value
  else if chars.any isControl || chars.any (0x100 ≤ ·.toNat) then none
  else some (String.ofList ('"' :: chars.flatMap quotedChar ++ ['"']))

/-- The header that hands out a cookie for this session, to be kept from scripts and other sites. -/
def header? (value : String) (secure : Bool) : Option String :=
  (valueText? value).map fun v ↦
    name ++ "=" ++ v ++ "; HttpOnly; Path=/; SameSite=lax" ++ (if secure then "; Secure" else "")

/-! ### Reading -/

/-- An octal digit. -/
def isOctal (c : Char) : Bool :=
  '0' ≤ c && c ≤ '7'

/-- The character that three octal digits stand for, of which the first is at most three. -/
def octalEscape? (a : Char) (r : List Char) : Option Char :=
  match r with
  | b :: c :: _ =>
    if '0' ≤ a && a ≤ '3' && isOctal b && isOctal c then
      some (Char.ofNat ((a.toNat - 48) * 64 + (b.toNat - 48) * 8 + (c.toNat - 48)))
    else none
  | _ => none

/-- The text between quotes with its escapes read: three octal digits up to 377 stand for a
character, any other character but a line feed for itself. -/
def unescapeQuoted : List Char → List Char
  | [] => []
  | [c] => [c]
  | c :: a :: r =>
    if c = '\\' then
      match octalEscape? a r with
      | some d => d :: unescapeQuoted (r.drop 2)
      | none => if a = '\n' then c :: a :: unescapeQuoted r else a :: unescapeQuoted r
    else c :: unescapeQuoted (a :: r)
  termination_by s => s.length
  decreasing_by all_goals (simp only [List.length_cons, List.length_drop]; omega)

/-- A value without its quotes, if it has any. -/
def unquote (s : List Char) : List Char :=
  match s with
  | '"' :: r => if r.getLast? = some '"' then unescapeQuoted r.dropLast else s
  | _ => s

/-- The name and the value of one piece of a header, if there is anything in it. -/
def ofPiece? (piece : List Char) : Option (String × String) :=
  let (key, value) :=
    match cutAt '=' piece with
    | (key, some value) => (trim key, trim value)
    | (value, none) => ([], trim value)
  if key.isEmpty && value.isEmpty then none
  else some (String.ofList key, String.ofList (unquote value))

/-- The cookies of a header. -/
def ofHeader (value : String) : List (String × String) :=
  (fields ';' value.toList).filterMap ofPiece?

/-- The value of the service's cookie in a request, empty if there is none. Of several the last
counts. -/
def ofRequest (r : Request) : String :=
  let cookies := (r.headers.all "cookie").flatMap ofHeader
  ((cookies.reverse.find? fun c ↦ c.1 == name).map (·.2)).getD ""

end Cookie

end AuthRealm.Http
