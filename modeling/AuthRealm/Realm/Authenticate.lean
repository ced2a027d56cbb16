import AuthRealm.Account.Store
import AuthRealm.Text.Quoted

/-!
# Authentication in a realm

A realm decides for each user name who checks the password. The account store checks those of local
accounts; all others are external, and their passwords are checked against the credential file. A
realm that overrides local accounts takes every name in the credential file as external, whatever
the account store says.

An external login leaves an account behind: the user's own if there is one, else a new one, marked
external, with the sentinel in place of a hash, and with a cookie. A cookie, once given, stays.
-/

namespace AuthRealm

open Account

/-- How a realm decides. A refusing realm has an account store that answers but does not write. -/
structure Realm where
  overrideLocal : Bool := true
  refusing : Bool := false
  deriving DecidableEq, Repr

/-- The cookie of a first external login: the SHA-1 of name and password, in hexadecimal digits. -/
def makeCookie (username password : String) : String :=
  String.ofList (Text.hexText (Digest.sha1 (username ++ password).toUTF8).toList)

/-- A record as an external login leaves it: with a cookie if it had none, the sentinel for a hash,
and marked external. -/
def externalRecord (record : Record) (password : String) : Record :=
  let cookie :=
    if record.cookie.getD "" = "" && password != "" then some (makeCookie record.username password)
    else record.cookie
  { record with cookie := cookie, hashedPassword := some externalSentinel, kind := .external }

namespace Realm

/-- Whether the account store, not the realm, checks the password of a user name. -/
def isLocal (realm : Realm) (scene : Scene) (username : String) : Action Bool := do
  if realm.overrideLocal then
    let _ ← Action.refresh scene
    if (← Action.credentials).lists username then return false
  Store.isLocal scene username

/-- Keeps the record of an external login; gives it back as it is then known. -/
def keep (realm : Realm) (scene : Scene) (record : Record) : Action Record := do
  if realm.refusing then
    Action.log (.notPersisted record.username)
    return record
  Store.update scene record

/-- Checks a password against the credential file. -/
def authenticateExternal (realm : Realm) (scene : Scene) (username password : String) :
    Action (Option Record) := do
  let _ ← Action.refresh scene
  match (← Action.credentials).secret? username with
  | none => return none
  | some secret =>
    match Secret.check secret password with
    | none => return none
    | some scheme =>
      Action.log (.secretMatched scheme username)
      let row ← Store.find? scene username
      let record : Record := match row with
        | some row => row.record
        | none => { username := username }
      return some (← realm.keep scene (externalRecord record password))

/-- Checks a name and a password. -/
def authenticate (realm : Realm) (scene : Scene) (username password : String) :
    Action (Option Record) := do
  if ← realm.isLocal scene username then Store.authenticate scene username password
  else realm.authenticateExternal scene username password

/-- Checks a cookie. An external account is accepted only while the credential file lists it. -/
def authenticateCookie (scene : Scene) (cookie : String) : Action (Option Record) := do
  match ← Store.findByCookie? scene cookie with
  | none => return none
  | some row =>
    if row.isLocal then return some row.record
    let _ ← Action.refresh scene
    if (← Action.credentials).lists row.username then return some row.record
    Action.log (.cookieRejected row.username)
    return none

end Realm

end AuthRealm
