import AuthRealm.Text.Decimal
import AuthRealm.Text.Json
import AuthRealm.Text.Quoted

/-!
# Values in messages

How a message shows a value that a client sent: words for what is no text or number, texts between
quotes (`quoted`), lists in brackets, members in braces. A place inside a value is shown as its
steps in parentheses, and bytes like a text with a letter in front.
-/

namespace AuthRealm.Text

/-- One byte between quotes. -/
def quotedByte (quote : Char) (b : UInt8) : List Char :=
  if b < 0x80 then quotedChar quote (Char.ofNat b.toNat) else '\\' :: 'x' :: hexDigits 2 b.toNat

/-- Bytes between quotes. -/
def quotedBytes (bytes : List UInt8) : String :=
  let quote := quoteFor (bytes.map fun b ↦ Char.ofNat b.toNat)
  String.ofList ('b' :: quote :: bytes.flatMap (quotedByte quote) ++ [quote])

/-- Code points between quotes, of which halves of surrogate pairs are written as escapes. -/
def quotedPoints (points : List Nat) : String :=
  let quote := quoteFor (points.map Char.ofNat)
  let shown (n : Nat) : List Char :=
    if Json.isHalf n then '\\' :: 'u' :: hexDigits 4 n else quotedChar quote (Char.ofNat n)
  String.ofList (quote :: points.flatMap shown ++ [quote])

/-- A member of a table, by its name and the text of its value. -/
def shownMember (name text : String) : String :=
  quoted name ++ ": " ++ text

namespace Json

/-- One of the words that stand for no number. -/
def shownConstant (word : String) : String :=
  if word = "NaN" then "nan" else if word = "Infinity" then "inf" else "-inf"

mutual

/-- A value in a message. -/
def shown : Json → String
  | .null => "None"
  | .bool b => if b then "True" else "False"
  | .integer n => toString n
  | .decimal m e => decimalText m e
  | .constant word => shownConstant word
  | .string s => quoted s
  | .unpaired points => quotedPoints points
  | .array items => "[" ++ String.intercalate ", " (shownItems items) ++ "]"
  | .object members => "\x7b" ++ String.intercalate ", " (shownMembers members) ++ "\x7d"

/-- Items in a message. -/
def shownItems : List Json → List String
  | [] => []
  | v :: vs => v.shown :: shownItems vs

/-- Members in a message. -/
def shownMembers : List (String × Json) → List String
  | [] => []
  | (name, v) :: ms => shownMember name v.shown :: shownMembers ms

end

/-- A place in a message, by the steps to it. A single step is followed by a comma. -/
def shownPlace (steps : List Json) : String :=
  match steps with
  | [step] => "(" ++ step.shown ++ ",)"
  | _ => "(" ++ String.intercalate ", " (shownItems steps) ++ ")"

end Json

end AuthRealm.Text
