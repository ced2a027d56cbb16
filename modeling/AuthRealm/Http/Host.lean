import AuthRealm.Http.Message

/-!
# Trusted hosts

Which host names a service answers to. A pattern is a name, `*.` and a domain for all names below
it, or `*` for everything. A request that leaves out the `www.` of a trusted name is sent to that
name.
-/

namespace AuthRealm.Http

open Text

namespace Host

/-- Whether a text may stand as a pattern: a star only in front, and only before a dot or alone. -/
def isPattern (s : String) : Bool :=
  match s.toList with
  | '*' :: rest => !rest.contains '*' && (rest.isEmpty || rest.head? = some '.')
  | rest => !rest.contains '*'

/-- What is said about a text that is no pattern. -/
def patternMessage : String :=
  "Domain wildcard patterns must be like '*.example.com'."

/-- Whether what follows a host name is nothing or a colon and a number. -/
def isEndpoint (s : List Char) : Bool :=
  match s with
  | [] => true
  | ':' :: digits => !digits.isEmpty && digits.all Char.isDigit
  | _ => false

/-- The name in a host header, in lower case and without the number behind it. -/
def nameOf? (header : String) : Option (List Char) :=
  let s := header.toList.map Char.toLower
  let length :=
    match s with
    | '[' :: r => (r.takeWhile (· != ']')).length + 2
    | _ => (s.takeWhile (· != ':')).length
  let name := s.take length
  if name.isEmpty || !isEndpoint (s.drop length) then none else some name

/-- Whether a pattern covers a name. -/
def covers (name : List Char) (pattern : List Char) : Bool :=
  match pattern with
  | '*' :: domain => domain.isSuffixOf name
  | _ => name == pattern

/-- What becomes of a request for a host. -/
inductive Admission where
  | admitted
  | redirected
  | refused
  deriving DecidableEq, Repr

/-- Decides about a host header. -/
def admission (patterns : List String) (header : String) : Admission :=
  if patterns.contains "*" then .admitted
  else
    let patterns := patterns.map fun p ↦ p.toList.map Char.toLower
    match nameOf? header with
    | none => .refused
    | some name =>
      if patterns.any (covers name) then .admitted
      else if patterns.contains ("www.".toList ++ name) then .redirected
      else .refused

end Host

end AuthRealm.Http
