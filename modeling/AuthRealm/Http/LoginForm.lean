import AuthRealm.Http.Message
import AuthRealm.Text.Blank
import AuthRealm.Text.Shown

/-!
# Login forms

What a client sends to log in: a JSON object with a user name and a password, each a text of limited
length. A body is read as JSON only if its type says so; everything that is wrong with it is
reported at once, with the place and the value that is at fault.

A reader gives a body up without a report where an integer has too many digits, or where lists and
objects are nested deeper than its stack has room for. How deep that is depends on the machine, so
it is a parameter: the levels below the outermost. A body is one of UTF-8; that other encodings may
be guessed from a NUL among its first characters is left out.
-/

namespace AuthRealm.Http

open Text

/-- A name and a password to log in with. -/
structure LoginForm where
  username : String
  password : String
  deriving DecidableEq, Repr

namespace LoginForm

/-- The most characters of a name and of a password. -/
def maxUsername : Nat := 255
def maxPassword : Nat := 1024

/-- What is wrong with a value. -/
inductive Problem where
  | missing
  | invalidJson (flaw : Json.Flaw)
  | notObject
  | notString
  | notUnicode
  | tooShort (least : Nat)
  | tooLong (most : Nat)
  deriving DecidableEq, Repr

namespace Problem

/-- The kind of a problem, as reports name it. -/
def code : Problem → String
  | .missing => "missing"
  | .invalidJson _ => "json_invalid"
  | .notObject => "model_attributes_type"
  | .notString => "string_type"
  | .notUnicode => "string_unicode"
  | .tooShort _ => "string_too_short"
  | .tooLong _ => "string_too_long"

/-- The wording of a problem. -/
def message : Problem → String
  | .missing => "Field required"
  | .invalidJson _ => "JSON decode error"
  | .notObject => "Input should be a valid dictionary or object to extract fields from"
  | .notString => "Input should be a valid string"
  | .notUnicode =>
    "Input should be a valid string, unable to parse raw data as a unicode string"
  | .tooShort n => "String should have at least " ++ characters n
  | .tooLong n => "String should have at most " ++ characters n
where
  /-- A number of characters. -/
  characters (n : Nat) : String :=
    toString n ++ (if n = 1 then " character" else " characters")

/-- What a report adds to the wording, if anything. -/
def context? : Problem → Option (String × Json)
  | .invalidJson flaw => some ("error", .string flaw.text)
  | .tooShort n => some ("min_length", .integer n)
  | .tooLong n => some ("max_length", .integer n)
  | _ => none

end Problem

/-- What has a problem: a value, or a body that was not read. -/
inductive Culprit where
  | value (v : Json)
  | unread (body : String)
  deriving Repr

/-- A culprit as a report shows it; a body that was not read by its bytes. -/
def Culprit.shown : Culprit → String
  | .value v => v.shown
  | .unread body => quotedBytes body.toUTF8.toList

/-- A problem, where it is, and what has it. -/
structure Complaint where
  problem : Problem
  place : List Json
  culprit : Culprit
  deriving Repr

/-- The report of a problem. -/
def Complaint.report (c : Complaint) : String :=
  let members := [shownMember "type" (quoted c.problem.code),
    shownMember "loc" (Json.shownPlace (.string "body" :: c.place)),
    shownMember "msg" (quoted c.problem.message), shownMember "input" c.culprit.shown]
  let context := match c.problem.context? with
    | some m => [shownMember "ctx" (Json.object [m]).shown]
    | none => []
  "\x7b" ++ String.intercalate ", " (members ++ context) ++ "\x7d"

/-- The report of all problems of a form. -/
def report (complaints : List Complaint) : String :=
  "[" ++ String.intercalate ", " (complaints.map Complaint.report) ++ "]"

/-! ### Checking values -/

/-- Checks a text that has a least and a most number of characters. -/
def checkText (least most : Nat) (place : List Json) : Json → Except Complaint String
  | .string s =>
    if s.length < least then .error ⟨.tooShort least, place, .value (.string s)⟩
    else if most < s.length then .error ⟨.tooLong most, place, .value (.string s)⟩
    else .ok s
  | .unpaired points => .error ⟨.notUnicode, place, .value (.unpaired points)⟩
  | v => .error ⟨.notString, place, .value v⟩

/-- Checks a member of a form. -/
def checkMember (form : Json) (name : String) (most : Nat) : Except Complaint String :=
  match form.member? name with
  | none => .error ⟨.missing, [.string name], .value form⟩
  | some v => checkText 1 most [.string name] v

/-- Checks a form. -/
def ofJson (form : Json) : Except (List Complaint) LoginForm :=
  match form with
  | .object _ =>
    match checkMember form "username" maxUsername, checkMember form "password" maxPassword with
    | .ok username, .ok password => .ok ⟨username, password⟩
    | .error c, .ok _ => .error [c]
    | .ok _, .error d => .error [d]
    | .error c, .error d => .error [c, d]
  | v => .error [⟨.notObject, [], .value v⟩]

/-! ### Reading bodies -/

/-- Whether a content type says that a body is JSON. -/
def isJsonType (contentType : String) : Bool :=
  let value := (trim (cutAt ';' contentType.toList).1).map Char.toLower
  match fields '/' value with
  | [main, sub] =>
    main == "application".toList && (sub == "json".toList || "+json".toList.isSuffixOf sub)
  | _ => false

/-- A body without a mark of its byte order. -/
def withoutMark (body : String) : String :=
  match body.toList with
  | '\ufeff' :: r => String.ofList r
  | _ => body

/-- Why a request brings no form: what is wrong with its body, or that its reader gave it up. -/
inductive Refusal where
  | complaints (complaints : List Complaint)
  | unparsable
  deriving Repr

/-- Whether a text, or what was read of it, is nested more levels below the outermost than its
reader has room for. -/
def isTooDeep (room : Nat) (s : List Char) : Bool :=
  room + 1 < Json.nesting s

/-- Reads a text as JSON, with room for so many levels of nesting below the outermost. -/
def readBody (room : Nat) (text : String) : Except Refusal Json :=
  match Json.parse text with
  | .error e =>
    if e.flaw = .tooManyDigits || isTooDeep room (text.toList.take e.position) then
      .error .unparsable
    else .error (.complaints
      [⟨.invalidJson e.flaw, [.integer e.position], .value (.object [])⟩])
  | .ok form => if isTooDeep room text.toList then .error .unparsable else .ok form

/-- Reads the body of a request. -/
def ofRequest (room : Nat) (r : Request) : Except Refusal LoginForm :=
  if r.body = "" then .error (.complaints [⟨.missing, [], .value .null⟩])
  else if isJsonType ((r.headers.first? "content-type").getD "") then
    match readBody room (withoutMark r.body) with
    | .error refusal => .error refusal
    | .ok form => (ofJson form).mapError .complaints
  else .error (.complaints [⟨.notObject, [], .unread r.body⟩])

end LoginForm

end AuthRealm.Http
