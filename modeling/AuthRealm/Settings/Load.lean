import AuthRealm.Settings.Assignments
import AuthRealm.Settings.Basic
import AuthRealm.Text.Charset
import AuthRealm.Text.Json
import AuthRealm.Text.LineEnding

/-!
# Loading settings

Settings come from arguments, from the environment and from a file of assignments, in this order of
precedence, setting by setting; names are compared without regard to case. A list in the environment
or the file is written as JSON, and `null` there counts as not given.

Loading checks every value and reports every problem, in the order of the settings. Nothing is read
from the file tree: whether the paths exist is for the realm to find out.
-/

namespace AuthRealm

open Storage Text

namespace Settings

/-- The settings, in the order in which problems are reported. -/
inductive Field where
  | debug
  | baseFolder
  | backingStore
  | userFile
  | overrideLocal
  | charset
  | secureCookies
  | loginRateLimit
  | verifyRateLimit
  | allowedHosts
  deriving DecidableEq, Repr

/-- The name of a setting, in lower case. -/
def Field.name : Field → String
  | .debug => "debug"
  | .baseFolder => "base_folder"
  | .backingStore => "htpasswd_backing_store"
  | .userFile => "htpasswd_userfile"
  | .overrideLocal => "htpasswd_override_local_authentication"
  | .charset => "htpasswd_encoding"
  | .secureCookies => "secure_cookies"
  | .loginRateLimit => "login_rate_limit"
  | .verifyRateLimit => "verify_rate_limit"
  | .allowedHosts => "allowed_hosts"

/-! ### Problems -/

/-- What is wrong with a value. -/
inductive Problem where
  | notBoolean
  | unreadableBoolean
  | notString
  | notUnicode
  | notList
  | notPath
  | blankPath
  | unknownCharset (name : String)
  | nulInCharset
  | frozen
  deriving DecidableEq, Repr

/-- The kind of a problem, as reports name it. -/
def Problem.code : Problem → String
  | .notBoolean => "bool_type"
  | .unreadableBoolean => "bool_parsing"
  | .notString => "string_type"
  | .notUnicode => "string_unicode"
  | .notList => "list_type"
  | .notPath => "path_type"
  | .blankPath => "value_error"
  | .unknownCharset _ => "value_error"
  | .nulInCharset => "value_error"
  | .frozen => "frozen_instance"

/-- The wording of a problem. -/
def Problem.message : Problem → String
  | .notBoolean => "Input should be a valid boolean"
  | .unreadableBoolean => "Input should be a valid boolean, unable to interpret input"
  | .notString => "Input should be a valid string"
  | .notUnicode => "Input should be a valid string, unable to parse raw data as a unicode string"
  | .notList => "Input should be a valid list"
  | .notPath => "Input is not a valid path for <class 'pathlib.Path'>"
  | .blankPath => "Value error, path settings must not be empty"
  | .unknownCharset name => "Value error, Unknown encoding for htpasswd file: " ++ quoted name
  | .nulInCharset => "Value error, embedded null character"
  | .frozen => "Instance is frozen"

/-- A problem and where it is: a setting, and the index of an item in it. -/
structure FieldProblem where
  name : String
  index : Option Nat := none
  problem : Problem
  deriving DecidableEq, Repr

/-- The report of a problem. -/
def FieldProblem.text (p : FieldProblem) : String :=
  let place := match p.index with
    | some i => p.name ++ "." ++ toString i
    | none => p.name
  place ++ ": " ++ p.problem.message ++ " [" ++ p.problem.code ++ "]"

/-- Where settings that are not arguments come from. -/
inductive Source where
  | environment
  | file
  deriving DecidableEq, Repr

/-- The name of a source in reports. -/
def Source.name : Source → String
  | .environment => "EnvSettingsSource"
  | .file => "DotEnvSettingsSource"

/-- Why settings could not be loaded: values with problems, a list that is no JSON, or a file of
assignments that is no text. -/
inductive LoadError where
  | invalid (problems : List FieldProblem)
  | unreadableList (field : Field) (source : Source)
  | undecodable (error : DecodeError)
  deriving DecidableEq, Repr

/-- The wording of a refusal. -/
def LoadError.message : LoadError → String
  | .invalid problems => String.intercalate "; " (problems.map FieldProblem.text)
  | .unreadableList field source =>
    "error parsing value for field \"" ++ field.name ++ "\" from source \"" ++ source.name ++ "\""
  | .undecodable error => error.message

/-! ### Checking values -/

/-- The words for true and for false. -/
def trueWords : List String := ["1", "on", "t", "true", "y", "yes"]
def falseWords : List String := ["0", "off", "f", "false", "n", "no"]

/-- The integer that a decimal equals, if it equals one that fits a machine word. -/
def wholeOf? (mantissa exponent : Int) : Option Int :=
  if 0 ≤ exponent then
    if exponent ≤ 18 then some (mantissa * Int.ofNat (Nat.pow 10 exponent.toNat)) else none
  else if -400 ≤ exponent then
    let unit := Int.ofNat (Nat.pow 10 (-exponent).toNat)
    if mantissa % unit = 0 then some (mantissa / unit) else none
  else none

/-- The first integer that does not fit a machine word. -/
def wordBound : Int := 9223372036854775808

/-- Checks a switch. -/
def checkBool : Json → Except Problem Bool
  | .bool b => .ok b
  | .integer n => ofInteger n
  | .decimal m e =>
    match wholeOf? m e with
    | some n => ofInteger n
    | none => .error .notBoolean
  | .string s =>
    let word := String.ofList (s.toList.map Char.toLower)
    if trueWords.contains word then .ok true
    else if falseWords.contains word then .ok false
    else .error .unreadableBoolean
  | _ => .error .notBoolean
where
  /-- Zero and one are switches, other integers that fit a machine word are not readable as one. -/
  ofInteger (n : Int) : Except Problem Bool :=
    if n = 0 then .ok false
    else if n = 1 then .ok true
    else if -wordBound ≤ n ∧ n < wordBound then .error .unreadableBoolean
    else .error .notBoolean

/-- Checks a text. -/
def checkString : Json → Except Problem String
  | .string s => .ok s
  | .unpaired _ => .error .notUnicode
  | _ => .error .notString

/-- Checks a folder. -/
def checkFolder : Json → Except Problem Path
  | .string s => .ok (Path.ofText s)
  | _ => .error .notPath

/-- Checks a path setting: its text without blanks around it, which must leave something. -/
def checkPath (v : Json) : Except Problem String :=
  (checkString v).bind fun s ↦
    let trimmed := String.ofList (trim s.toList)
    if trimmed = "" then .error .blankPath else .ok trimmed

/-- Checks the name of a charset. -/
def checkCharset (v : Json) : Except Problem String :=
  (checkString v).bind fun s ↦
    if hasNul s then .error .nulInCharset
    else if isKnownName s then .ok s
    else .error (.unknownCharset s)

/-- The problems of the items of a list, from the index `i`. -/
def itemProblems (name : String) : Nat → List Json → List FieldProblem
  | _, [] => []
  | i, v :: vs =>
    match checkString v with
    | .ok _ => itemProblems name (i + 1) vs
    | .error p => ⟨name, some i, p⟩ :: itemProblems name (i + 1) vs

/-- Checks a list of texts. -/
def checkStrings (name : String) : Json → Except (List FieldProblem) (List String)
  | .array vs =>
    match itemProblems name 0 vs with
    | [] => .ok (vs.filterMap fun v ↦ (checkString v).toOption)
    | problems => .error problems
  | _ => .error [⟨name, none, .notList⟩]

/-- One checked value, or the default where none is given, with its problems. -/
def checked {α : Type} (field : Field) (given : Field → Option Json) (default : α)
    (check : Json → Except Problem α) : α × List FieldProblem :=
  match given field with
  | none => (default, [])
  | some v =>
    match check v with
    | .ok a => (a, [])
    | .error p => (default, [⟨field.name, none, p⟩])

/-- Settings from the values given for them. -/
def validate (given : Field → Option Json) : Except (List FieldProblem) Settings :=
  let base : Settings := {}
  let (debug, p1) := checked .debug given base.debug checkBool
  let (baseFolder, p2) := checked .baseFolder given base.baseFolder checkFolder
  let (backingStore, p3) := checked .backingStore given base.backingStore checkPath
  let (userFile, p4) := checked .userFile given base.userFile checkPath
  let (overrideLocal, p5) := checked .overrideLocal given base.overrideLocal checkBool
  let (charset, p6) := checked .charset given base.charset checkCharset
  let (secureCookies, p7) := checked .secureCookies given base.secureCookies checkBool
  let (loginRateLimit, p8) := checked .loginRateLimit given base.loginRateLimit checkString
  let (verifyRateLimit, p9) := checked .verifyRateLimit given base.verifyRateLimit checkString
  let (allowedHosts, p10) :=
    match given .allowedHosts with
    | none => (base.allowedHosts, [])
    | some v =>
      match checkStrings Field.allowedHosts.name v with
      | .ok hosts => (hosts, [])
      | .error ps => (base.allowedHosts, ps)
  match p1 ++ p2 ++ p3 ++ p4 ++ p5 ++ p6 ++ p7 ++ p8 ++ p9 ++ p10 with
  | [] => .ok ⟨debug, baseFolder, backingStore, userFile, overrideLocal, charset, secureCookies,
      loginRateLimit, verifyRateLimit, allowedHosts⟩
  | problems => .error problems

/-! ### Sources -/

/-- The last value whose name is that of a setting, letter case apart. -/
def lastNamed? {α : Type} (field : Field) (values : List (String × α)) : Option α :=
  (values.reverse.find? fun v ↦
    String.ofList (v.1.toList.map Char.toLower) == field.name).map (·.2)

/-- The value that a source of texts gives for each setting; lists are read as JSON. -/
def fromTexts (source : Source) (values : List (String × String)) :
    Except LoadError (Field → Option Json) :=
  let plain (f : Field) : Option Json := (lastNamed? f values).map .string
  match lastNamed? .allowedHosts values with
  | none => .ok plain
  | some text =>
    match Json.parse text with
    | .error _ => .error (.unreadableList .allowedHosts source)
    | .ok v =>
      let hosts : Option Json := match v with
        | .null => none
        | v => some v
      .ok fun f ↦ if f = .allowedHosts then hosts else plain f

/-- The value given as an argument: under the exact name, or under one in another letter case. -/
def fromArguments (arguments : List (String × Json)) (field : Field) : Option Json :=
  match arguments.find? fun a ↦ a.1 == field.name with
  | some a => some a.2
  | none => lastNamed? field arguments

/-- The place of the file of assignments. -/
def assignmentFile (s : Surroundings) : Path :=
  Path.ofLocation (s.workDir ++ [".env"])

/-- The text of a file of assignments with plain line ends. -/
def plainLines (text : List Char) : List Char :=
  joinFields '\n' (lines text)

/-- The assignments of the file in the working directory, if there is one. A file that cannot be
looked up or opened is taken for none: what loading settings makes of it is left out. -/
def fileValues (s : Surroundings) : Except LoadError (List (String × String)) :=
  match s.tree.findNode (assignmentFile s) with
  | .ok (.file bytes _) =>
    match Charset.decodeUtf8 0 0 bytes with
    | .error e => .error (.undecodable e)
    | .ok text =>
      .ok ((Assignments.ofText s.environment (plainLines text)).filterMap
        fun (name, value) ↦ value.map (name, ·))
  | _ => .ok []

/-- Loads settings from arguments, the environment and the file of assignments. -/
def load (s : Surroundings) (arguments : List (String × Json)) : Except LoadError Settings :=
  match fileValues s with
  | .error e => .error e
  | .ok values =>
    match fromTexts .environment s.environment with
    | .error e => .error e
    | .ok environment =>
      match fromTexts .file values with
      | .error e => .error e
      | .ok file =>
        let given (f : Field) : Option Json :=
          match fromArguments arguments f with
          | some v => some v
          | none =>
            match environment f with
            | some v => some v
            | none => file f
        match validate given with
        | .ok settings => .ok settings
        | .error problems => .error (.invalid problems)

end Settings

end AuthRealm
