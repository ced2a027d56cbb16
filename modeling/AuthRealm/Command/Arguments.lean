import AuthRealm.Command.Usage
import AuthRealm.Text.Fields
import AuthRealm.Text.Numeral

/-!
# Command line arguments

A command line is read in two passes. The first says of every argument, on its own, whether it is an
option, an operand or the separator `--`; behind the separator everything is an operand. The second
takes options with their values from the front until a command is met, and hands all that follows to
that command, which is read in the same two passes with options of its own.

An option with two dashes may be cut short as long as only one option starts so. Options with one
dash and no value can be written in one argument. An option that nobody knows is passed over and
reported at the end, so that a request for help that comes later is still heard.
-/

namespace AuthRealm.Command

open Text

/-! ### What an argument is -/

/-- Text that is written in the same argument as an option: behind an equals sign or directly. -/
inductive Attached where
  | behindEquals (text : List Char)
  | joined (text : List Char)
  deriving DecidableEq, Repr

/-- What one argument is. -/
inductive Reading where
  | operand
  | separator
  | flag (flag : Flag) (short : Bool) (attached : Option Attached)
  | unknown
  deriving DecidableEq, Repr

/-- An argument and what it is. -/
structure Token where
  text : String
  reading : Reading
  deriving DecidableEq, Repr

/-- Every spelling of some options, each with its option. -/
def spelled (flags : List Flag) : List (String × Flag) :=
  flags.flatMap fun f ↦ f.spellings.map (·, f)

/-- The option of a spelling. -/
def flagOf? (flags : List Flag) (spelling : String) : Option Flag :=
  ((spelled flags).find? fun s ↦ s.1 == spelling).map (·.2)

/-- Whether a spelling has one dash. -/
def isShort (spelling : String) : Bool :=
  !("--".toList.isPrefixOf spelling.toList)

/-- Whether a text is a negative number: a dash, and digits with at most one point among or before
them. -/
def isNegativeNumber (s : List Char) : Bool :=
  match s with
  | '-' :: r =>
    let whole := r.takeWhile isDigit
    match r.drop whole.length with
    | [] => !whole.isEmpty
    | '.' :: fraction => !fraction.isEmpty && fraction.all isDigit
    | _ => false
  | _ => false
where
  /-- A decimal digit of any script. -/
  isDigit (c : Char) : Bool := (digitValue? c).isSome

/-- What an argument is that starts with a dash and is no known spelling as a whole. -/
def readOption (flags : List Flag) (argument : String) : Except Misuse Reading :=
  let chars := argument.toList
  let (start, value) := cutAt '=' chars
  let exact := if value.isSome then flagOf? flags (String.ofList start) else none
  match exact, value with
  | some f, some v => .ok (.flag f (isShort (String.ofList start)) (some (.behindEquals v)))
  | _, _ =>
    if isShort argument then
      match flagOf? flags (String.ofList (chars.take 2)) with
      | some f => .ok (.flag f true (some (.joined (chars.drop 2))))
      | none => .ok unmatched
    else
      match (spelled flags).filter fun s ↦ start.isPrefixOf s.1.toList with
      | [] => .ok unmatched
      | [s] => .ok (.flag s.2 false (value.map .behindEquals))
      | several => .error (.ambiguous argument (several.map (·.1)))
where
  /-- What an argument is that no option fits: numbers and texts with a blank are operands. -/
  unmatched : Reading :=
    if isNegativeNumber argument.toList || argument.toList.contains ' ' then .operand else .unknown

/-- What an argument in front of any separator is. -/
def readArgument (flags : List Flag) (argument : String) : Except Misuse Reading :=
  match argument.toList with
  | '-' :: _ :: _ =>
    match flagOf? flags argument with
    | some f => .ok (.flag f (isShort argument) none)
    | none => readOption flags argument
  | _ => .ok .operand

/-- The first pass: what each argument is. -/
def tokens (flags : List Flag) : List String → Except Misuse (List Token)
  | [] => .ok []
  | a :: rest =>
    if a = "--" then .ok (⟨a, .separator⟩ :: rest.map fun b ↦ ⟨b, .operand⟩)
    else
      match readArgument flags a with
      | .error e => .error e
      | .ok r =>
        match tokens flags rest with
        | .error e => .error e
        | .ok ts => .ok (⟨a, r⟩ :: ts)

/-! ### Options with their values -/

/-- What an argument with options says: which options with which values, whether the last of them
takes its value from the next argument, and what is left over. -/
structure Bundle where
  flags : List (Flag × String) := []
  pending : Option Flag := none
  leftOver : List String := []
  deriving DecidableEq, Repr

/-- Reads what an option and the text attached to it say. The fuel is a bound on the characters. -/
def readBundle (known : List Flag) : Nat → Flag → Bool → Option Attached → Except Misuse Bundle
  | 0, _, _, _ => .ok {}
  | _ + 1, f, _, none =>
    .ok (if f.takesValue then { pending := some f } else { flags := [(f, "")] })
  | fuel + 1, f, short, some attached =>
    let text := match attached with
      | .behindEquals t => t
      | .joined t => t
    if f.takesValue then .ok { flags := [(f, String.ofList text)] }
    else
      match short, attached with
      | true, .joined (c :: rest) =>
        if c = '-' then .error (.valueRefused f (String.ofList text))
        else
          match flagOf? known (String.ofList ['-', c]) with
          | none => .ok { flags := [(f, "")], leftOver := [String.ofList ('-' :: text)] }
          | some g =>
            let behind := match rest with
              | [] => none
              | '=' :: v => some (.behindEquals v)
              | _ => some (.joined rest)
            (readBundle known fuel g true behind).map fun b ↦ { b with flags := (f, "") :: b.flags }
      | _, _ => .error (.valueRefused f (String.ofList text))

/-! ### Command lines -/

/-- What a command line asks for. -/
inductive Request where
  | users
  | check (username : String)
  deriving DecidableEq, Repr

/-- A command line that was understood. Without a request it asks for help. -/
structure Invocation where
  userFile : Option String := none
  baseFolder : Option String := none
  verbose : Bool := false
  request : Option Request := none
  deriving DecidableEq, Repr

/-- Why a command line leads to no command: it asks for help, or it is not understood. -/
inductive Stop where
  | help (topic : Topic)
  | misuse (topic : Topic) (problem : Misuse)
  deriving DecidableEq, Repr

/-- The invocation after one more option. A request for help ends the reading. -/
def Invocation.apply (topic : Topic) (i : Invocation) : Flag × String → Except Stop Invocation
  | (.help, _) => .error (.help topic)
  | (.userFile, v) => .ok { i with userFile := some v }
  | (.baseFolder, v) => .ok { i with baseFolder := some v }
  | (.verbose, _) => .ok { i with verbose := true }

/-- What options leave to be read: the invocation so far, what was left over, and the rest. -/
structure Progress where
  invocation : Invocation := {}
  leftOver : List String := []
  rest : List Token := []
  deriving DecidableEq, Repr

/-- Takes options with their values from the front. -/
def takeOptions (topic : Topic) (i : Invocation) (leftOver : List String) :
    List Token → Except Stop Progress
  | [] => .ok ⟨i, leftOver, []⟩
  | t :: rest =>
    match t.reading with
    | .operand => .ok ⟨i, leftOver, t :: rest⟩
    | .separator => .ok ⟨i, leftOver, t :: rest⟩
    | .unknown => takeOptions topic i (leftOver ++ [t.text]) rest
    | .flag f short attached =>
      match readBundle topic.flags (t.text.length + 1) f short attached with
      | .error e => .error (.misuse topic e)
      | .ok bundle =>
        match bundle.pending with
        | none =>
          match bundle.flags.foldlM (Invocation.apply topic) i with
          | .error stop => .error stop
          | .ok i => takeOptions topic i (leftOver ++ bundle.leftOver) rest
        | some g =>
          match rest with
          | ⟨value, .operand⟩ :: rest =>
            match (bundle.flags ++ [(g, value)]).foldlM (Invocation.apply topic) i with
            | .error stop => .error stop
            | .ok i => takeOptions topic i (leftOver ++ bundle.leftOver) rest
          | _ => .error (.misuse topic (.valueMissing g))

/-- Reads the operands of a command, with options between them. `wanted` says that the operand that
the command takes is still to come; a separator before or behind it belongs to it. The fuel is a
bound on the arguments. -/
def readOperands (topic : Topic) : Nat → Bool → Option String → List String → List Token →
    Except Stop (Option String × List String)
  | 0, _, operand, leftOver, _ => .ok (operand, leftOver)
  | fuel + 1, wanted, operand, leftOver, ts =>
    match takeOptions topic {} leftOver ts with
    | .error stop => .error stop
    | .ok ⟨_, leftOver, rest⟩ =>
      match wanted, rest with
      | _, [] => .ok (operand, leftOver)
      | true, ⟨_, .separator⟩ :: ⟨value, _⟩ :: rest =>
        readOperands topic fuel false (some value) leftOver rest
      | true, ⟨value, .operand⟩ :: ⟨_, .separator⟩ :: rest =>
        readOperands topic fuel false (some value) leftOver rest
      | true, ⟨value, .operand⟩ :: rest =>
        readOperands topic fuel false (some value) leftOver rest
      | _, t :: rest => readOperands topic fuel wanted operand (leftOver ++ [t.text]) rest

/-- Reads what follows a command: the request, and what was left over. -/
def readCommand (topic : Topic) (arguments : List String) : Except Stop (Request × List String) :=
  match tokens topic.flags arguments with
  | .error e => .error (.misuse topic e)
  | .ok ts =>
    match readOperands topic (ts.length + 1) topic.takesOperand none [] ts with
    | .error stop => .error stop
    | .ok (operand, leftOver) =>
      match topic, operand with
      | .check, some username => .ok (.check username, leftOver)
      | .check, none => .error (.misuse topic .operandMissing)
      | _, _ => .ok (.users, leftOver)

/-- The invocation, unless something was left over. -/
def finish (i : Invocation) : List String → Except Stop Invocation
  | [] => .ok i
  | leftOver => .error (.misuse .program (.unrecognized leftOver))

/-- Reads a command line. -/
def parse (arguments : List String) : Except Stop Invocation :=
  match tokens (Topic.flags .program) arguments with
  | .error e => .error (.misuse .program e)
  | .ok ts =>
    match takeOptions .program {} [] ts with
    | .error stop => .error stop
    | .ok ⟨i, leftOver, rest⟩ =>
      match rest with
      | [] => finish i leftOver
      | [⟨text, .separator⟩] => finish i (leftOver ++ [text])
      | ⟨word, _⟩ :: following =>
        match Topic.commands.find? fun c ↦ c.1 == word with
        | none => .error (.misuse .program (.unknownCommand word))
        | some (_, topic) =>
          match readCommand topic (following.map (·.text)) with
          | .error stop => .error stop
          | .ok (request, more) => finish { i with request := some request } (leftOver ++ more)

end AuthRealm.Command
