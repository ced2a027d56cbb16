import AuthRealm.Text.Fields
import AuthRealm.Text.Json
import AuthRealm.Text.Percent

/-!
# Requests and responses

The messages of the HTTP service. A request is what one client sends; only its path, not the query
behind it, selects what is done. A response has a JSON body, or a text where the service itself has
nothing to say.
-/

namespace AuthRealm.Http

open Text

/-- The headers of a message, in the order in which they were sent. -/
abbrev Headers := List (String × String)

/-- A name with its ASCII letters in lower case. -/
def lowerCase (s : String) : String :=
  String.ofList (s.toList.map Char.toLower)

/-- The values of a header, letter case of the name apart. -/
def Headers.all (h : Headers) (name : String) : List String :=
  (h.filter fun e ↦ lowerCase e.1 == name).map (·.2)

/-- The first value of a header. -/
def Headers.first? (h : Headers) (name : String) : Option String :=
  (h.all name).head?

/-- A request. The client is the address that it comes from, if that is known. -/
structure Request where
  method : String := "GET"
  target : String
  headers : Headers := []
  body : String := ""
  client : Option String := none
  deriving DecidableEq, Repr

namespace Request

/-- The target without a fragment, and cut into the path and the query behind it. -/
def parts (r : Request) : List Char × Option (List Char) :=
  cutAt '?' (cutAt '#' r.target.toList).1

/-- The path that a request is for, with its escapes read. -/
def path (r : Request) : String :=
  unescape r.parts.1

/-- The query, with the question mark in front of it. -/
def query (r : Request) : String :=
  match r.parts.2 with
  | some q => if q.isEmpty then "" else String.ofList ('?' :: q)
  | none => ""

/-- The host that a request names. -/
def host (r : Request) : String :=
  (r.headers.first? "host").getD ""

end Request

/-- What a response carries. -/
inductive Content where
  | json (value : Json)
  | text (text : String)
  deriving Repr

/-- A response. -/
structure Response where
  status : Nat
  headers : Headers := []
  content : Content
  deriving Repr

namespace Response

/-- A response without its content, as an answer to a request for headers only. -/
def headersOnly (r : Response) : Response :=
  { r with content := .text "" }

/-- A character of a location that is sent as it is. -/
def isLocationChar (c : Char) : Bool :=
  c.isAlphanum || "_.-~:/%#?=@[]!$&'()*+,;".toList.contains c

/-- A response that sends the client to another place, to repeat its request there. -/
def redirect (location : String) : Response :=
  { status := 307, headers := [("location", escape isLocationChar location)], content := .text "" }

end Response

/-! ### Errors -/

/-- The body of an error: a code, a message and a detail. -/
def errorBody (code message : String) (detail : Json) : Json :=
  .object [("error", .object
    [("code", .string code), ("message", .string message), ("detail", detail)])]

/-- A response with an error. -/
def errorResponse (status : Nat) (code message : String) (detail : Json := .null)
    (headers : Headers := []) : Response :=
  { status := status, headers := headers, content := .json (errorBody code message detail) }

end AuthRealm.Http
