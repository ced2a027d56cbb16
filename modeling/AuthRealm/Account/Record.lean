/-!
# Accounts

A user known to the account store. A `Profile` is what an account says about its user; a `Row` is a
profile that a table holds, with the number, the role and the time of creation that every row has;
a `Record` is what callers hand in and get back, where those three may still be absent.

The password of an external account is kept elsewhere. In place of a hash its row has a sentinel,
which is no hash of anything.
-/

namespace AuthRealm.Account

/-- Who checks the password of an account. -/
inductive Kind where
  | localAccount
  | external
  deriving DecidableEq, Repr

namespace Kind

/-- The text of a kind. -/
def text : Kind → String
  | .localAccount => "local"
  | .external => "external"

/-- Reads the text of a kind. -/
def ofText? : String → Option Kind
  | "local" => some .localAccount
  | "external" => some .external
  | _ => none

end Kind

/-- What stands in place of a hash for an account whose password is kept elsewhere. -/
def externalSentinel : String := "#externalAccount"

/-- What an account says about its user. -/
structure Profile where
  username : String
  hashedPassword : Option String := none
  cookie : Option String := none
  kind : Kind := .localAccount
  displayName : Option String := none
  email : Option String := none
  lastLogin : Option String := none
  isActive : Bool := true
  deriving DecidableEq, Repr

/-- Whether the account store itself checks the password. -/
def Profile.isLocal (p : Profile) : Bool :=
  p.kind == .localAccount && p.hashedPassword != some externalSentinel

/-- An account as callers hold it. -/
structure Record extends Profile where
  id : Option Int := none
  role : Option String := some "user"
  createdAt : Option String := none
  deriving DecidableEq, Repr

/-- An account as a table holds it. -/
structure Row extends Profile where
  id : Nat
  role : String
  createdAt : String
  deriving DecidableEq, Repr

/-- The record of a row. -/
def Row.record (r : Row) : Record :=
  { r.toProfile with id := some r.id, role := some r.role, createdAt := some r.createdAt }

end AuthRealm.Account
