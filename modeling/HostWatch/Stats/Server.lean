import HostWatch.Host.Info
import HostWatch.Monitor.Basic
import HostWatch.Text.Base64
import HostWatch.Text.Utf8
set_option autoImplicit false

/-!
# Stats: the read-only server

`/health` says that the server is there, and `/stats` shows what the monitor knows.  When
the server has credentials, every path that does not start with `/health` asks for them
before anything else is looked at.
-/

namespace HostWatch.Stats

open HostWatch.Text
open HostWatch.Time (Instant)

/-- A user name and a password. -/
structure Credentials where
  username : String
  password : String
  deriving DecidableEq, Repr, Inhabited

/-- The credentials of a server: there are some when a user name that is not empty and a
password are configured. -/
def Credentials.ofConfig? (c : StatsServerConfig) : Option Credentials :=
  match c.username, c.password with
  | some username, some password => if username.isEmpty then none else some ⟨username, password⟩
  | _, _ => none

/-- What the server answers from. -/
structure ServerState where
  monitor : Monitor
  host : HostInfo
  credentials : Option Credentials
  deriving Inhabited

/-- The state of a server with a configuration. -/
def ServerState.new (monitor : Monitor) (host : HostInfo) (c : StatsServerConfig) : ServerState :=
  ⟨monitor, host, Credentials.ofConfig? c⟩

/-! ## Requests -/

/-- A request.  Its target is a path, a single asterisk, or an address with a scheme and a
host; an address may also be a host alone. -/
structure Request where
  method : String
  target : String
  headers : List (String × String)
  deriving DecidableEq, Repr, Inhabited

/-- The characters of a path, which ends at a query or a fragment. -/
def isPathChar (c : Char) : Bool := c ≠ '?' && c ≠ '#'

/-- The characters of a scheme. -/
def isSchemeChar (c : Char) : Bool := c.isAlphanum || c = '+' || c = '-' || c = '.'

/-- What follows the scheme of an address. -/
def afterScheme? (target : List Char) : Option (List Char) :=
  match target.dropWhile isSchemeChar with
  | ':' :: '/' :: '/' :: rest => some rest
  | _ => none

/-- The path of a request: the root when an address with a scheme has none, and nothing
when there is a host alone. -/
def Request.path (r : Request) : String :=
  match r.target.toList with
  | ['*'] => "*"
  | '/' :: rest => String.ofList ('/' :: rest.takeWhile isPathChar)
  | target =>
    match afterScheme? target with
    | none => ""
    | some rest =>
      match rest.dropWhile fun c => isPathChar c && c ≠ '/' with
      | '/' :: rest => String.ofList ('/' :: rest.takeWhile isPathChar)
      | _ => "/"

/-- The value of the first header with a name, if it is plain ASCII text. -/
def Request.header? (r : Request) (name : String) : Option String :=
  ((r.headers.find? fun h => eqIgnoreCase h.1 name).map (·.2)).filter fun v =>
    v.toList.all fun c => c = '\t' || (0x20 ≤ c.toNat && c.toNat < 0x7F)

/-- The credentials that an authorization gives. -/
def Credentials.ofAuthorization? (value : String) : Option Credentials := do
  let encoded ← afterFront? "Basic " value
  let bytes ← decodeBase64? (trim encoded).toList
  let text ← decode? bytes
  let (username, password) ← splitOnce ':' text.toList
  return ⟨String.ofList username, String.ofList password⟩

/-- The path is open to everyone. -/
def isOpen (path : String) : Bool := startsWith path "/health"

/-- The request may be answered. -/
def isAuthorized (credentials : Option Credentials) (r : Request) : Bool :=
  isOpen r.path ||
    match credentials with
    | none => true
    | some c => (r.header? "authorization").bind Credentials.ofAuthorization? = some c

/-! ## Responses -/

/-- The body of a response. -/
inductive Body where
  | empty
  | text (s : String)
  | json (v : Json)
  deriving Inhabited

/-- A response. -/
structure Response where
  status : Nat
  contentType : Option String
  challenge : Option String
  body : Body
  deriving Inhabited

/-- The type of plain text. -/
def plainType : String := "text/plain; charset=utf-8"

/-- A request without the right credentials. -/
def unauthorized : Response :=
  ⟨401, some plainType, some "Basic realm=\"Monic\"", .text "unauthorized"⟩

/-- A response that is a status only. -/
def bare (status : Nat) : Response := ⟨status, none, none, .empty⟩

/-- The server is there. -/
def healthy : Response := ⟨200, some plainType, none, .text "ok"⟩

/-- Everything the monitor knows, at `now`. -/
def view (s : ServerState) (now : Instant) : Json :=
  let m := s.monitor
  .obj [("host", s.host.toJson), ("status", (m.status now).toJson),
    ("resources", .ofOption ResourceSample.toJson m.history.resources.latest?),
    ("alerts", .arr (m.history.alerts.entries.map AlertEvent.toJson)),
    ("endpoints", .arr (m.history.endpoints.entries.map EndpointResult.toJson)),
    ("containers", .arr (m.history.containers.entries.map ContainerSample.toJson)),
    ("alert_states", .arr (m.book.snapshot.map KeyState.toJson))]

/-- What a path answers to an authorized request. -/
def route (s : ServerState) (r : Request) (now : Instant) : Response :=
  let reads := r.method == "GET" || r.method == "HEAD"
  if r.path = "/health" then (if reads then healthy else bare 405)
  else if r.path = "/stats" then
    if reads then ⟨200, some "application/json", none, .json (view s now)⟩ else bare 405
  else bare 404

/-- A response to a request that asks for the head alone has no body. -/
def Response.forMethod (method : String) (r : Response) : Response :=
  if method = "HEAD" then { r with body := .empty } else r

/-- The answer to a request at `now`. -/
def respond (s : ServerState) (r : Request) (now : Instant) : Response :=
  (if isAuthorized s.credentials r then route s r now else unauthorized).forMethod r.method

/-! ## The log -/

/-- The log of a request. -/
def requestLogs (s : ServerState) (r : Request) : List LogLine :=
  if isAuthorized s.credentials r then []
  else [⟨.warn, "Unauthorized stats request", [("path", r.path)]⟩]

/-- The line for a server that listens at an address. -/
def listening (address : String) : LogLine :=
  .plain .info ("Stats server listening on http://" ++ address)

/-- The line for a server that has stopped. -/
def stopped : LogLine := .plain .info "Stats server stopped"

/-- The text for an address that cannot be listened at. -/
def bindFailure (address : String) : String := "Failed to bind stats server on " ++ address

end HostWatch.Stats
