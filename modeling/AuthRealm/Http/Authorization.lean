import AuthRealm.Text.Base64
import AuthRealm.Text.Blank
import AuthRealm.Text.Fields

/-!
# Basic authorization

How a request presents a name and a password, and by which key its attempts are counted. A client
that presents nothing under the Basic scheme is counted by its address alone, any other by address
and user name.

Two readers look at the same header and do not agree on what is readable: credentials have to be
ASCII with a colon, while for the key any UTF-8 will do. Only a parameter that is not ASCII itself
leaves the key undefined.
-/

namespace AuthRealm.Http

open Text

/-- Why attempts cannot be counted by what a request presents. -/
inductive KeyError where
  | notAscii
  deriving DecidableEq, Repr

/-- The wording of a refusal. -/
def KeyError.message : KeyError → String
  | .notAscii => "string argument should contain only ASCII characters"

namespace Authorization

/-- The scheme and the parameter of a header value. -/
def parts (value : String) : List Char × List Char :=
  let (scheme, rest) := cutAt ' ' value.toList
  (scheme, trim (rest.getD []))

/-- The parameter of a header value under the Basic scheme. -/
def basicParameter? (value : String) : Option (List Char) :=
  let (scheme, parameter) := parts value
  if scheme.map Char.toLower = "basic".toList then some parameter else none

/-- Whether all characters of a text are ASCII. -/
def isAscii (s : List Char) : Bool :=
  s.all fun c ↦ c.toNat < 0x80

/-- What a request presents under the Basic scheme. -/
inductive Presented where
  | nothing
  | unreadable
  | credentials (username password : String)
  deriving DecidableEq, Repr

/-- The credentials in a text with a colon between name and password. -/
def credentialsOf (s : List Char) : Presented :=
  match cutAt ':' s with
  | (username, some password) => .credentials (String.ofList username) (String.ofList password)
  | (_, none) => .unreadable

/-- Reads the parameter of the Basic scheme. -/
def readParameter (parameter : List Char) : Presented :=
  if isAscii parameter then
    match Base64.decode? parameter with
    | some bytes =>
      if bytes.all (· < 0x80) then credentialsOf (bytes.map fun b ↦ Char.ofNat b.toNat)
      else .unreadable
    | none => .unreadable
  else .unreadable

/-- What the value of an authorization header presents. -/
def present : Option String → Presented
  | none => .nothing
  | some value =>
    match basicParameter? value with
    | some parameter => readParameter parameter
    | none => .nothing

/-! ### Counting attempts -/

/-- The address of a client; an unknown one counts as local. -/
def addressOf (client : Option String) : String :=
  match client with
  | some address => if address = "" then "127.0.0.1" else address
  | none => "127.0.0.1"

/-- The user name that a parameter spells, whether or not there is a password behind it. -/
def usernameOf? (parameter : List Char) : Option String := do
  let bytes ← Base64.decode? parameter
  let text ← String.fromUTF8? (ByteArray.mk bytes.toArray)
  return String.ofList (cutAt ':' text.toList).1

/-- The key by which the attempts of a client are counted. -/
def rateKey (client : Option String) (authorization : Option String) : Except KeyError String :=
  let address := addressOf client
  match authorization.bind basicParameter? with
  | none => .ok address
  | some [] => .ok address
  | some parameter =>
    if isAscii parameter then
      match usernameOf? parameter with
      | some username => .ok (address ++ ":" ++ username)
      | none => .ok address
    else .error .notAscii

end Authorization

end AuthRealm.Http
