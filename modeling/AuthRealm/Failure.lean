import AuthRealm.Account.Password
import AuthRealm.Account.StoreUrl
import AuthRealm.Account.Table
import AuthRealm.Http.Authorization
import AuthRealm.Http.Host
import AuthRealm.Settings.Load
import AuthRealm.Storage.Tree
import AuthRealm.Text.Charset

/-!
# Failures

The ways in which an operation ends without an answer. A login that is refused is an answer, not a
failure, and so is a credential file that cannot be read: both have a place in the results of the
operations. What is left are settings that cannot be used, an account database that cannot be
reached or refuses a write, and requests that no realm serves.
-/

namespace AuthRealm

open Storage Text

/-- Why an account database cannot be used. -/
inductive DatabaseFault where
  | cannotOpen
  | notDatabase
  | noTable
  deriving DecidableEq, Repr

/-- The wording of a fault. -/
def DatabaseFault.message : DatabaseFault → String
  | .cannotOpen => "unable to open database file"
  | .notDatabase => "file is not a database"
  | .noTable => "no such table: users"

/-- What a directory is needed for. -/
inductive Need where
  | userFile
  | store
  deriving DecidableEq, Repr

/-- How messages name what a directory is needed for. -/
def Need.text : Need → String
  | .userFile => "htpasswd file"
  | .store => "Backing store"

/-- Why a realm cannot be set up. -/
inductive SetupProblem where
  | noDirectory (need : Need) (path : String)
  | closedDirectory (need : Need) (path : String)
  | unusableUrl (url : String) (problem : Account.StoreUrl.Problem)
  | unreachableStore (url : String) (fault : DatabaseFault)
  deriving DecidableEq, Repr

namespace SetupProblem

/-- The fault of a database, with the help page that its driver names. -/
def faultText : DatabaseFault → String
  | .notDatabase => "(sqlite3.DatabaseError) " ++ DatabaseFault.notDatabase.message ++
      helpPage "4xp6"
  | fault => "(sqlite3.OperationalError) " ++ fault.message ++ helpPage "e3q8"
where
  /-- Where the driver explains a kind of fault. -/
  helpPage (code : String) : String :=
    "\n(Background on this error at: https:/" ++ "/sqlalche.me/e/21/" ++ code ++ ")"

/-- The wording of a problem. -/
def message : SetupProblem → String
  | .noDirectory need path => need.text ++ " directory does not exist: " ++ path
  | .closedDirectory need path => need.text ++ " directory is not readable: " ++ path
  | .unusableUrl url problem => "Cannot open backing store " ++ url ++ ": " ++ problem.message
  | .unreachableStore url fault => "Cannot open backing store " ++ url ++ ": " ++ faultText fault

end SetupProblem

/-- Why an operation ends without an answer. -/
inductive Failure where
  | path (error : PathError)
  | file (fault : Fault) (path : String)
  | charset (error : CharsetError)
  | decoding (error : DecodeError)
  | password (error : Account.Password.HashError)
  | unknownKind (name : String)
  | refusedWrite (refusal : Account.Refusal)
  | database (fault : DatabaseFault)
  | storeUrl (problem : Account.StoreUrl.Problem)
  | settings (error : Settings.LoadError)
  | setup (problem : SetupProblem)
  | readOnly (path : String)
  | hostPattern
  | rateKey (error : Http.KeyError)
  | notOpen
  deriving DecidableEq, Repr

/-- The wording of a failure. -/
def Failure.message : Failure → String
  | .path error => error.message
  | .file fault p => fault.message p
  | .charset error => error.message
  | .decoding error => error.message
  | .password error => error.message
  | .unknownKind name => quoted name ++ " is not a valid AccountType"
  | .refusedWrite refusal => refusal.message
  | .database fault => fault.message
  | .storeUrl problem => problem.message
  | .settings error => error.message
  | .setup problem => problem.message
  | .readOnly p =>
    "Password changes are not supported by HtpasswdRealm; edit " ++ p ++ " instead."
  | .hostPattern => Http.Host.patternMessage
  | .rateKey error => error.message
  | .notOpen => "nothing is open"

end AuthRealm
