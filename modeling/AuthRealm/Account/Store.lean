import AuthRealm.Realm.Action

/-!
# The account store

The operations of an account store: the table operations, behind a database that may be out of
reach, at the time of the scene. Each needs the database; a write that the table refuses is a
failure that changes nothing.
-/

namespace AuthRealm.Account.Store

/-- The account of a user name. -/
def find? (scene : Scene) (username : String) : Action (Option Row) := do
  return (← Action.accounts scene).find? username

/-- The active account with a cookie. An empty cookie is not looked up. -/
def findByCookie? (scene : Scene) (cookie : String) : Action (Option Row) := do
  if cookie = "" then return none
  return (← Action.accounts scene).findByCookie? cookie

/-- Whether the store itself checks the password of a user name. -/
def isLocal (scene : Scene) (username : String) : Action Bool := do
  return (← Action.accounts scene).isLocal username

/-- All accounts, in ascending order of user names. -/
def list (scene : Scene) : Action (List Row) := do
  return (← Action.accounts scene).sorted

/-- Whether there is any account. -/
def hasUsers (scene : Scene) : Action Bool := do
  return !(← Action.accounts scene).rows.isEmpty

/-- Adds an account; gives its number. -/
def create (scene : Scene) (record : Record) : Action Nat := do
  match (← Action.accounts scene).create scene.now.text record with
  | .error refusal => Action.fail (.refusedWrite refusal)
  | .ok (table, id) =>
    Action.setAccounts table
    return id

/-- Adds an account or overwrites the one of the same user name; gives the record as written. A
refused write is tried once more, for the case that someone else has just added the name. -/
def update (scene : Scene) (record : Record) : Action Record := do
  match (← Action.accounts scene).upsert scene.now.text record with
  | .ok (table, written) =>
    Action.setAccounts table
    return written
  | .error _ =>
    Action.log (.retriedWrite record.username)
    match (← Action.accounts scene).upsert scene.now.text record with
    | .ok (table, written) =>
      Action.setAccounts table
      return written
    | .error refusal => Action.fail (.refusedWrite refusal)

/-- Removes the account of a user name; tells whether there was one. -/
def delete (scene : Scene) (username : String) : Action Bool := do
  let (table, found) := (← Action.accounts scene).delete username
  Action.setAccounts table
  return found

/-- Notes a login. -/
def stampLogin (scene : Scene) (username : String) : Action Unit := do
  Action.setAccounts ((← Action.accounts scene).stampLogin scene.now.text username)

/-- Whether a password is the one of an account: there is a hash, it is not the sentinel, and it is
a hash of the password. -/
def passwordMatches (row : Row) (password : String) : Bool :=
  match row.hashedPassword with
  | none => false
  | some hash =>
    hash != "" && hash != externalSentinel && Password.verify password hash

/-- Checks a password against the account's own hash. The record handed back is the one from before
the login was noted. -/
def authenticate (scene : Scene) (username password : String) : Action (Option Record) := do
  match (← Action.accounts scene).find? username with
  | none => return none
  | some row =>
    if passwordMatches row password && row.isActive then
      stampLogin scene username
      Action.log (.localLogin username)
      return some row.record
    else return none

end AuthRealm.Account.Store
