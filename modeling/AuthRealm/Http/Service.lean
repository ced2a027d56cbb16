import AuthRealm.Http.Authorization
import AuthRealm.Http.Cookie
import AuthRealm.Http.Host
import AuthRealm.Http.LoginForm
import AuthRealm.Http.RateLimit
import AuthRealm.Realm.Authenticate

/-!
# The HTTP service

A realm behind HTTP. Answering a request has two halves. `Service.decide` looks at the request and
the counters alone: it either answers at once or names the one `Operation` of the realm that the
request is for. `Operation.perform` carries that out. So whatever is refused in the first half,
be it for its host, its path, its form or its rate, has touched neither the realm nor its stores.

A failure of an operation is answered too, without a word about what failed; what the operation did
before it failed stays done.
-/

namespace AuthRealm.Http

open Text

/-! ### Routes -/

/-- What the service has an answer for. -/
inductive Route where
  | login
  | verify
  | password
  | health
  | schema
  deriving DecidableEq, Repr

namespace Route

/-- All routes. -/
def all : List Route := [.login, .verify, .password, .health, .schema]

/-- The path of a route. -/
def path : Route → String
  | .login => "/api/v1/auth/login"
  | .verify => "/api/v1/auth/verify"
  | .password => "/api/v1/auth/password"
  | .health => "/api/v1/health"
  | .schema => "/openapi.json"

/-- The methods of a route. -/
def methods : Route → List String
  | .login => ["POST"]
  | .verify => ["GET"]
  | .password => ["POST"]
  | .health => ["GET"]
  | .schema => ["GET", "HEAD"]

/-- Whether a route answers to a path: its own, or that with a line feed behind it, in front of
which the pattern of a route ends as well. -/
def answersTo (r : Route) (path : String) : Bool :=
  path == r.path || path == r.path ++ "\n"

/-- The route of a path. -/
def ofPath? (path : String) : Option Route :=
  all.find? fun r ↦ r.answersTo path

end Route

/-- What the service asks of its realm. -/
inductive Operation where
  | login (form : LoginForm)
  | verify (username password : String)
  | resume (cookie : String)
  | changePassword
  | health
  deriving DecidableEq, Repr

/-- A service: its realm, what it answers to and how often, and how often it was asked. Two things
are up to what it is built on: the document that describes its routes, and how many levels of
nesting below the outermost the reader of bodies has room for. -/
structure Service where
  realm : Realm
  allowedHosts : List String
  secureCookies : Bool := false
  loginLimits : List RateLimit := []
  verifyLimits : List RateLimit := []
  counters : Counters := {}
  document : Json := .object []
  room : Nat := 900
  deriving Repr

/-- The service that settings describe, over a realm. -/
def Service.ofSettings (settings : Settings) (realm : Realm) : Service where
  realm := realm
  allowedHosts := settings.allowedHosts
  secureCookies := settings.secureCookies
  loginLimits := RateLimit.ofText settings.loginRateLimit
  verifyLimits := RateLimit.ofText settings.verifyRateLimit

/-! ### Responses -/

namespace Response

/-- The challenge to present a name and a password. -/
def challenge : String × String :=
  ("www-authenticate", "Basic realm=\"htrealm\"")

/-- What keeps an answer out of caches. -/
def noStore : String × String :=
  ("cache-control", "no-store")

/-- A host that the service does not answer to. -/
def unknownHost : Response :=
  { status := 400, content := .text "Invalid host header" }

/-- A path that leads nowhere. -/
def notFound : Response :=
  { status := 404, content := .json (.object [("detail", .string "Not Found")]) }

/-- A method that a route does not have. -/
def wrongMethod (route : Route) : Response :=
  { status := 405
    headers := [("allow", String.intercalate ", " route.methods)]
    content := .json (.object [("detail", .string "Method Not Allowed")]) }

/-- A name and a password that could not be read. -/
def unreadableCredentials : Response :=
  errorResponse 401 "http_401" "Not authenticated" .null [challenge]

/-- A login that was refused. Nothing tells which part of it was wrong. -/
def badCredentials (headers : Headers) : Response :=
  errorResponse 401 "bad_credentials" "Invalid username or password." .null (headers ++ [noStore])

/-- A request that brings no form. -/
def badForm : LoginForm.Refusal → Response
  | .complaints complaints =>
    errorResponse 422 "validation_error" "Request validation failed."
      (.string (LoginForm.report complaints)) []
  | .unparsable => errorResponse 400 "http_400" "There was an error parsing the body" .null []

/-- More requests than a limit allows. -/
def tooMany (limit : RateLimit) : Response :=
  errorResponse 429 "rate_limited" "Too many requests." (.string ("429: " ++ limit.text))
    [("retry-after", "60")]

/-- An operation that the realm does not have. -/
def unsupported (reason : String) : Response :=
  errorResponse 405 "unsupported_operation" "Credential changes are not supported."
    (.string reason) []

/-- An operation that failed. -/
def internalError : Response :=
  errorResponse 500 "internal_error" "An unexpected error occurred." .null []

/-- A text or nothing. -/
def textOrNull : Option String → Json
  | some s => .string s
  | none => .null

/-- Who has been authenticated. -/
def identity (record : Account.Record) : Content :=
  .json (.object [("username", .string record.username),
    ("account_type", .string record.kind.text), ("display_name", textOrNull record.displayName),
    ("role", textOrNull record.role)])

/-- The answer to a login: the identity, and the cookie if there is one. A cookie that cannot be
sent is a failure. -/
def loggedIn (secure : Bool) (record : Account.Record) : Response :=
  let cookie := record.cookie.getD ""
  if cookie = "" then { status := 200, headers := [noStore], content := identity record }
  else
    match Cookie.header? cookie secure with
    | some value =>
      { status := 200, headers := [("set-cookie", value), noStore], content := identity record }
    | none => internalError

/-- The answer to a check. -/
def verified (record : Account.Record) : Response :=
  { status := 200, headers := [noStore], content := identity record }

end Response

/-! ### Deciding -/

/-- What is to be done about a request. -/
inductive Decision where
  | answer (response : Response)
  | perform (operation : Operation)
  deriving Repr

namespace Service

/-- Counts a request for a path under a key, and lets it through unless a limit is exceeded. -/
def countAgainst (s : Service) (path key : String) (limits : List RateLimit)
    (operation : Operation) : Counters × Decision :=
  match s.counters.hit path key limits with
  | (counters, some limit) => (counters, .answer (.tooMany limit))
  | (counters, none) => (counters, .perform operation)

/-- Decides about a login. -/
def decideLogin (s : Service) (r : Request) : Counters × Decision :=
  match LoginForm.ofRequest s.room r with
  | .error refusal => (s.counters, .answer (.badForm refusal))
  | .ok form => s.countAgainst r.path (Authorization.addressOf r.client) s.loginLimits (.login form)

/-- Decides about a check. What is presented under the Basic scheme goes before a cookie. -/
def decideVerify (s : Service) (r : Request) : Counters × Decision :=
  let authorization := r.headers.first? "authorization"
  let countedAs (operation : Operation) : Counters × Decision :=
    match Authorization.rateKey r.client authorization with
    | .ok key => s.countAgainst r.path key s.verifyLimits operation
    | .error _ => (s.counters, .answer .internalError)
  match Authorization.present authorization with
  | .unreadable => (s.counters, .answer .unreadableCredentials)
  | .credentials username password => countedAs (.verify username password)
  | .nothing => countedAs (.resume (Cookie.ofRequest r))

/-- Decides about a request for a known path and with its method. -/
def decideRoute (s : Service) (r : Request) : Route → Counters × Decision
  | .login => s.decideLogin r
  | .verify => s.decideVerify r
  | .password => (s.counters, .perform .changePassword)
  | .health => (s.counters, .perform .health)
  | .schema => (s.counters, .answer { status := 200, content := .json s.document })

/-- The place of a path on the host of a request. -/
def location (host path query : String) : String :=
  "http:/" ++ "/" ++ (if host = "" then "localhost" else host) ++ path ++ query

/-- The path with its final slashes taken away, or with one added if it has none. -/
def otherPath (path : String) : String :=
  let reversed := path.toList.reverse
  match reversed with
  | '/' :: _ => String.ofList (reversed.dropWhile (· == '/')).reverse
  | _ => path ++ "/"

/-- The answer to a request for a path that is none of the routes. -/
def unknownPath (r : Request) : Response :=
  if r.path != "/" && (Route.ofPath? (otherPath r.path)).isSome then
    .redirect (location r.host (otherPath r.path) r.query)
  else .notFound

/-- Decides about a request from an allowed host. -/
def decidePath (s : Service) (r : Request) : Counters × Decision :=
  match Route.ofPath? r.path with
  | none => (s.counters, .answer (unknownPath r))
  | some route =>
    if route.methods.contains r.method then s.decideRoute r route
    else (s.counters, .answer (.wrongMethod route))

/-- Decides about a request. -/
def decide (s : Service) (r : Request) : Counters × Decision :=
  match Host.admission s.allowedHosts r.host with
  | .admitted => s.decidePath r
  | .redirected =>
    (s.counters, .answer (.redirect (location ("www." ++ r.host) r.path r.query)))
  | .refused => (s.counters, .answer .unknownHost)

end Service

/-! ### Performing -/

/-- The condition of the service: whether the credential file is there, and whether the account
database can be opened. A database without accounts is one that can. -/
def healthReport (scene : Scene) (path : Storage.Path) : Action Response :=
  match scene.tree.isFile path with
  | .error fault => Action.fail (.file fault path.text)
  | .ok present =>
    let database := match scene.databaseFault with
      | none => "ok"
      | some .noTable => "ok"
      | some _ => "error"
    return {
      status := 200
      content := .json (.object [("status", .string "healthy"), ("version", .string "0.1.0"),
        ("components", .object [("app", .string "ok"),
          ("credential_file", .string (if present then "ok" else "missing")),
          ("database", .string database)])]) }

namespace Operation

/-- The response to a check. -/
def verifyResponse : Option Account.Record → Response
  | some record => .verified record
  | none => .badCredentials [Response.challenge]

/-- Carries out an operation. -/
def run (realm : Realm) (secure : Bool) (scene : Scene) : Operation → Action Response
  | .login form => do
    match ← realm.authenticate scene form.username form.password with
    | some record => return .loggedIn secure record
    | none => return .badCredentials []
  | .verify username password => do
    return verifyResponse (← realm.authenticate scene username password)
  | .resume cookie => do
    return verifyResponse (← Realm.authenticateCookie scene cookie)
  | .changePassword => do
    return .unsupported (Failure.message (.readOnly (← Action.credentials).path.text))
  | .health => do healthReport scene (← Action.credentials).path

/-- Carries out an operation and answers even if it fails. -/
def perform (realm : Realm) (secure : Bool) (scene : Scene) (operation : Operation) :
    Action Response := do
  match ← Action.attempt (operation.run realm secure scene) with
  | .ok response => return response
  | .error _ => return .internalError

end Operation

namespace Service

/-- Answers a request; gives the service as it is afterwards too. -/
def respond (s : Service) (scene : Scene) (r : Request) : Action (Service × Response) := do
  let (counters, decision) := s.decide r
  let response ←
    match decision with
    | .answer response => pure response
    | .perform operation => operation.perform s.realm s.secureCookies scene
  return ({ s with counters := counters },
    if r.method = "HEAD" then response.headersOnly else response)

end Service

end AuthRealm.Http
