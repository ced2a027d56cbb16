import AuthRealm.Secret.Scheme
import AuthRealm.Text.Quoted

/-!
# Log records

Everything that the realm, the account store and the settings report while they work. A record
carries what it is about; its text is written from that, so what a record may show is a matter of
its type: no constructor carries a password or a secret.
-/

namespace AuthRealm

open Text

/-- How grave a record is. -/
inductive Level where
  | debug
  | info
  | warning
  | error
  deriving DecidableEq, Repr

/-- The name of a level. -/
def Level.name : Level → String
  | .debug => "DEBUG"
  | .info => "INFO"
  | .warning => "WARNING"
  | .error => "ERROR"

/-- A record of what happened. -/
inductive LogRecord where
  /-- Lines of a credential file were malformed. -/
  | skippedLines (count : Nat)
  /-- A credential file was read. -/
  | readFile (count : Nat) (path : String)
  /-- A credential file could not be read. -/
  | readFailed (path reason : String) (kept : Nat)
  /-- A secret of the credential file matched. -/
  | secretMatched (scheme : Secret.Scheme) (username : String)
  /-- The account of an external user was not kept. -/
  | notPersisted (username : String)
  /-- A cookie was refused since its owner has left the credential file. -/
  | cookieRejected (username : String)
  /-- A realm was set up over an account store. -/
  | backedBy (store : String)
  /-- A realm was set up over a credential file. -/
  | setUp (count : Nat) (path status : String)
  /-- A write of an account was refused and is tried once more. -/
  | retriedWrite (username : String)
  /-- A local account logged in. -/
  | localLogin (username : String)
  /-- Settings were loaded. -/
  | settingsLoaded (baseFolder : String)
  deriving DecidableEq, Repr

namespace LogRecord

/-- How grave a record is. -/
def level : LogRecord → Level
  | .skippedLines _ => .debug
  | .readFile _ _ => .info
  | .readFailed _ _ _ => .error
  | .secretMatched _ _ => .debug
  | .notPersisted _ => .warning
  | .cookieRejected _ => .debug
  | .backedBy _ => .info
  | .setUp _ _ _ => .debug
  | .retriedWrite _ => .debug
  | .localLogin _ => .debug
  | .settingsLoaded _ => .debug

/-- Which part of the program reports it. -/
def logger : LogRecord → String
  | .retriedWrite _ => "htrealm.auth"
  | .localLogin _ => "htrealm.auth"
  | .settingsLoaded _ => "htrealm.config"
  | _ => "htrealm.realm"

/-- What it says. -/
def message : LogRecord → String
  | .skippedLines n => "Skipped " ++ toString n ++ " malformed htpasswd line(s)"
  | .readFile n path => "Read " ++ toString n ++ " user(s) from htpasswd file " ++ path
  | .readFailed path reason kept =>
    "Failed to read " ++ path ++ ": " ++ reason ++ "; keeping " ++ toString kept ++
      " cached user(s)"
  | .secretMatched scheme username =>
    "Htpasswd " ++ scheme.name ++ " password matched for user " ++ quoted username
  | .notPersisted username => "Backing store did not persist external user " ++ quoted username
  | .cookieRejected username =>
    "Cookie for " ++ quoted username ++ " rejected: no longer in htpasswd file"
  | .backedBy store => "Htpasswd realm backed by " ++ store
  | .setUp n path status =>
    "Read " ++ toString n ++ " users from htpasswd file " ++ path ++ " (" ++ status ++ ")"
  | .retriedWrite username =>
    "Concurrent insert for " ++ quoted username ++ "; retrying as update"
  | .localLogin username => "Local account authenticated: " ++ username
  | .settingsLoaded baseFolder => "Settings loaded (base_folder=" ++ baseFolder ++ ")"

/-- A record as one line. -/
def text (r : LogRecord) : String :=
  r.level.name ++ " " ++ r.logger ++ " " ++ r.message

end LogRecord

end AuthRealm
