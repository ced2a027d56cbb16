import AuthRealm.Text.Quoted

/-!
# Usage of the command line

The options and commands that there are, the help about them, and what is said about a command line
that is not understood. A `Topic` is what help can be about: the program or one of its commands.

The texts are laid out for a terminal of eighty columns.
-/

namespace AuthRealm.Command

open Text

/-- The options. -/
inductive Flag where
  | help
  | userFile
  | baseFolder
  | verbose
  deriving DecidableEq, Repr

namespace Flag

/-- How an option is written. -/
def spellings : Flag → List String
  | .help => ["-h", "--help"]
  | .userFile => ["--htpasswd"]
  | .baseFolder => ["--base-folder"]
  | .verbose => ["-v", "--verbose"]

/-- Whether an option has a value. -/
def takesValue : Flag → Bool
  | .help => false
  | .userFile => true
  | .baseFolder => true
  | .verbose => false

/-- How reports name an option. -/
def label (f : Flag) : String :=
  String.intercalate "/" f.spellings

end Flag

/-- What help can be about. -/
inductive Topic where
  | program
  | users
  | check
  deriving DecidableEq, Repr

namespace Topic

/-- The commands, in the order in which they are listed. -/
def commands : List (String × Topic) :=
  [("users", .users), ("check", .check)]

/-- The options that are understood where help about a topic is given. -/
def flags : Topic → List Flag
  | .program => [.help, .userFile, .baseFolder, .verbose]
  | .users => [.help]
  | .check => [.help]

/-- Whether an operand is needed. -/
def takesOperand : Topic → Bool
  | .check => true
  | _ => false

/-- What a user types to get to a topic. -/
def invocation : Topic → String
  | .program => "htrealm"
  | .users => "htrealm users"
  | .check => "htrealm check"

/-- How a topic is used, in short. -/
def usage : Topic → String
  | .program =>
    "usage: htrealm [-h] [--htpasswd PATH] [--base-folder DIR] [-v]\n" ++
    "               \x7busers,check\x7d ...\n"
  | .users => "usage: htrealm users [-h]\n"
  | .check => "usage: htrealm check [-h] username\n"

/-- What an option for help is said to do, in a list of options that are at most as long. -/
def helpOption : String :=
  "options:\n" ++
  "  -h, --help  show this help message and exit\n"

/-- All there is to say about a topic. -/
def help : Topic → String
  | .program =>
    usage .program ++
    "\nInspect an htpasswd realm and test logins.\n" ++
    "\npositional arguments:\n" ++
    "  \x7busers,check\x7d\n" ++
    "    users            List users defined in the htpasswd file\n" ++
    "    check            Test a login (prompts for the password)\n" ++
    "\noptions:\n" ++
    "  -h, --help         show this help message and exit\n" ++
    "  --htpasswd PATH    Path to the htpasswd file (overrides HTPASSWD_USERFILE)\n" ++
    "  --base-folder DIR  Value for $\x7bbaseFolder\x7d (overrides BASE_FOLDER)\n" ++
    "  -v, --verbose      Enable debug logging\n" ++
    "\nExamples:\n" ++
    "  python main.py users\n" ++
    "  python main.py check alice\n" ++
    "  HTPASSWD_USERFILE=/etc/htpasswd python main.py users\n" ++
    "        \n"
  | .users => usage .users ++ "\n" ++ helpOption
  | .check => usage .check ++ "\npositional arguments:\n  username\n\n" ++ helpOption

end Topic

/-! ### What is said about a command line that is not understood -/

/-- Why a command line is not understood. -/
inductive Misuse where
  | ambiguous (argument : String) (candidates : List String)
  | valueMissing (flag : Flag)
  | valueRefused (flag : Flag) (value : String)
  | unknownCommand (word : String)
  | operandMissing
  | unrecognized (arguments : List String)
  deriving DecidableEq, Repr

/-- The wording of a misuse. -/
def Misuse.message : Misuse → String
  | .ambiguous argument candidates =>
    "ambiguous option: " ++ argument ++ " could match " ++ String.intercalate ", " candidates
  | .valueMissing flag => "argument " ++ flag.label ++ ": expected one argument"
  | .valueRefused flag value =>
    "argument " ++ flag.label ++ ": ignored explicit argument " ++ quoted value
  | .unknownCommand word =>
    "argument command: invalid choice: " ++ quoted word ++ " (choose from " ++
      String.intercalate ", " (Topic.commands.map fun c ↦ quoted c.1) ++ ")"
  | .operandMissing => "the following arguments are required: username"
  | .unrecognized arguments => "unrecognized arguments: " ++ String.intercalate " " arguments

/-- The report of a misuse where help about a topic is given. -/
def Misuse.report (m : Misuse) (topic : Topic) : String :=
  topic.usage ++ topic.invocation ++ ": error: " ++ m.message ++ "\n"

end AuthRealm.Command
