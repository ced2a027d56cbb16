import AuthRealm.Command.Run
import AuthRealm.Http.Service

/-!
# Steps of a scenario

What can happen on a machine where realms are at work: someone changes files or the environment, a
store or a realm is opened and used, a command is run, the service is started and asked. Each kind
of step has its constructor, and what a step answers is an `Answer`.

Paths in steps are read from the working directory. A time that is not given is chosen by the
scenario, a later one for each change.
-/

namespace AuthRealm.Scenario

open Account

/-- An account as a caller writes it down: the kind is still a text. -/
structure Draft where
  record : Record
  kindName : String := "local"
  deriving DecidableEq, Repr

/-- The account that a draft describes. -/
def Draft.resolve (d : Draft) : Except Failure Record :=
  match Kind.ofText? d.kindName with
  | some kind => .ok { d.record with kind := kind }
  | none => .error (.unknownKind d.kindName)

/-- A change of the machine. It is made by someone from whom permissions keep the same things as
from the program, but for the change of a permission itself, which is its owner's. -/
inductive MachineStep where
  | write (path : String) (bytes : List UInt8) (time : Option Int)
  | touch (path : String) (time : Option Int)
  | makeDirectory (path : String) (time : Option Int)
  | remove (path : String)
  | link (path target : String)
  | permit (path : String) (readable searchable : Bool)
  | environment (set : List (String × String)) (unset : List String)
  | clock (now : Timestamp)
  deriving Repr

/-- A use of the credential store. -/
inductive CredentialStep where
  | openFile (path charset : String)
  | refresh
  | secret (username : String)
  | lists (username : String)
  | usernames
  | entries
  | modifiedAt
  deriving Repr

/-- A use of the account store. -/
inductive AccountStep where
  | openUrl (url : Option String)
  | create (draft : Draft)
  | update (draft : Draft)
  | find (username : String)
  | findByCookie (cookie : String)
  | list
  | hasUsers
  | delete (username : String)
  | isLocal (username : String)
  | authenticate (username password : String)
  | stampLogin (username : String)
  | close
  | destroy
  deriving Repr

/-- A use of the realm. -/
inductive RealmStep where
  | openOver (realm : Realm)
  | setup (arguments : List (String × Text.Json))
  | isLocal (username : String)
  | authenticate (username password : String)
  | authenticateCookie (cookie : String)
  | changePassword
  | info
  | close
  deriving Repr

/-- A step. -/
inductive Step where
  | machine (step : MachineStep)
  | settings
  | credentials (step : CredentialStep)
  | accounts (step : AccountStep)
  | realm (step : RealmStep)
  | command (arguments : List String) (password : String)
  | startService
  | request (request : Http.Request)
  deriving Repr

/-- What a step answers. -/
inductive Answer where
  | done
  | truth (b : Bool)
  | number (n : Option Int)
  | text (s : Option String)
  | texts (ss : List String)
  | pairs (count : Nat) (ps : List (String × String))
  | record (r : Option Record)
  | records (rs : List Record)
  | written (r : Record)
  | settings (s : Settings)
  | refreshed (report : Credential.Report) (path : Storage.Path)
  | opened (realm store : String) (users : Nat) (overrideLocal : Bool)
  | info (realm : String) (users : Nat)
  | command (report : Command.Report)
  | response (response : Http.Response)

end AuthRealm.Scenario
