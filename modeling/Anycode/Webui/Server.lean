import Anycode.Data.HeaderMap
import Anycode.Data.Leases
import Anycode.Data.Run
import Anycode.Data.Text
import Anycode.Proxy.Router
import Anycode.Webui.RoundTrip

/-!
# The WebUI server

The router of `proxy/webui/mod.rs` with its authentication layer, the login and logout handlers
and the session store. Between the layer and its handler a request waits for its body, so other
requests may come between the two.
-/

namespace Anycode.Webui
open Data Pipeline Config
open Proxy (get post)

/-! ### The session store -/

/-- The text of a random UUID. -/
structure Uuid where
  text : List Char
  nonempty : text ≠ []
  plain : ∀ c ∈ text, c.isAlphanum = true ∨ c = '-'

/-- Nanoseconds, as every time below. -/
def sessionTtl : Nat := 24 * 3600 * 1000000000

def sessionCookie : List Char := "ac_session".toList

abbrev SessionStore := LeaseTable (List Char)

/-- The readings of the clock in `create`, and the token it draws. -/
structure Draw where
  uuid : Uuid
  now : Nat
  purgedAt : List Char → Nat

def SessionStore.create (sessions : SessionStore) (draw : Draw) : List Char × SessionStore :=
  (draw.uuid.text, sessions.grant draw.uuid.text (draw.now + sessionTtl) draw.purgedAt)

/-! ### Credentials and cookies -/

def constantTimeEq (a b : List UInt8) : Bool :=
  if a.length ≠ b.length then false else (a.zip b).foldl (fun acc pair => acc ||| (pair.1 ^^^ pair.2)) 0 == 0

def cookieOf (name part : List Char) : Option (List Char) :=
  (breakAt ['='] (trim part)).bind fun pair => if trim pair.1 = name then some (trim pair.2) else none

def cookieIn (name cookies : List Char) : Option (List Char) := (cookies.splitOn ';').findSome? (cookieOf name)

def getCookie (headers : HeaderMap) (name : List Char) : Option (List Char) :=
  ((headers.get "cookie").bind HeaderValue.toStr).bind (cookieIn name)

structure LoginForm where
  username : String
  password : String

structure HttpRequest where
  method : String
  path : List Char
  headers : HeaderMap
  query : Option (List Char)
  body : List UInt8

/-- What the web framework reads of a request for a handler; a request that it cannot read is
answered without the handler. -/
structure Extract where
  form : HttpRequest → Option LoginForm
  query : HttpRequest → Option ProfileQuery
  name : HttpRequest → Option String
  config : HttpRequest → Option ConfigDto
  active : HttpRequest → Option ActiveBackendRequest
  copy : HttpRequest → Option CopyBackendRequest

/-! ### The router -/

inductive Handler where
  | redirectToUi
  | serveIndex
  | loginGet
  | loginPost
  | logout
  | getConfig
  | putConfig
  | postActive
  | getBackend
  | postCopyBackend
  | getProfiles
  deriving DecidableEq

def put (method : String) : Bool := method == "PUT"

/-- The method routers of `build_router`; a parameter takes one segment that is not empty. -/
def routesAt (path : List Char) : List ((String → Bool) × Handler) :=
  if path = "/".toList ∨ path = "/ui".toList then [(get, .redirectToUi)]
  else if path = "/ui/".toList then [(get, .serveIndex)]
  else if path = "/login".toList then [(get, .loginGet), (post, .loginPost)]
  else if path = "/logout".toList then [(post, .logout)]
  else if path = "/api/config".toList then [(get, .getConfig), (put, .putConfig)]
  else if path = "/api/config/active".toList then [(post, .postActive)]
  else if path = "/api/profiles".toList then [(get, .getProfiles)]
  else
    match stripPrefix "/api/config/backends/".toList path with
    | none => []
    | some rest =>
      match rest.splitOn '/' with
      | [name] => if name.isEmpty then [] else [(get, .getBackend)]
      | [name, last] => if name.isEmpty || last != "copy".toList then [] else [(post, .postCopyBackend)]
      | _ => []

def handlerOf (request : HttpRequest) : Option Handler :=
  ((routesAt request.path).find? fun entry => entry.1 request.method).map Prod.snd

inductive Reply where
  | loginRedirect (location : List Char)
  | movedToUi
  | seeUi
  | index
  | loginPage
  | loggedIn (token : List Char)
  | invalidCredentials
  | loggedOut
  | api (response : Response)
  | backend (dto : BackendDto)
  | profiles (current : String)
  | unreadable
  | methodNotAllowed
  | notFound

/-! ### The handlers -/

structure AppState where
  webui : WebuiState
  credentials : Option (String × String)
  sessions : SessionStore

def getBackend (state : WebuiState) (q : ProfileQuery) (name : String) : Reply :=
  match q.resolve state.cliMode with
  | .error e => .api (.error .badRequest (.text e))
  | .ok target =>
    match (state.configStore.inner.profile target).backends.find? fun b => b.name == name with
    | some b => .backend (backendToDto b)
    | none =>
      .api (.error .notFound (.text ("Backend '" ++ name ++ "' not found in " ++ target.profileKey ++ " profile")))

def handlerLoginPost (app : AppState) (form : LoginForm) (draw : Draw) : Reply × AppState :=
  match app.credentials with
  | none => (.seeUi, app)
  | some (username, password) =>
    if constantTimeEq (utf8 form.username.toList) (utf8 username.toList) &&
        constantTimeEq (utf8 form.password.toList) (utf8 password.toList) then
      let (token, sessions) := app.sessions.create draw
      (.loggedIn token, { app with sessions := sessions })
    else (.invalidCredentials, app)

def handlerLogout (app : AppState) (headers : HeaderMap) : Reply × AppState :=
  match getCookie headers sessionCookie with
  | some token => (.loggedOut, { app with sessions := app.sessions.revoke token })
  | none => (.loggedOut, app)

/-- One of the writing endpoints, on what its extractors read. -/
def AppState.serveApi (app : AppState) (toml : Toml) (fault : Option Fault) : Option Request → Reply × AppState
  | none => (.unreadable, app)
  | some request =>
    let (response, webui) := serve toml fault app.webui request
    (.api response, { app with webui := webui })

/-- What a handler takes from outside: the token it may draw, and the file operation that fails. -/
structure Call where
  draw : Draw
  fault : Option Fault

def AppState.call (app : AppState) (extract : Extract) (toml : Toml) (call : Call) (request : HttpRequest) :
    Handler → Reply × AppState
  | .redirectToUi => (.movedToUi, app)
  | .serveIndex => (.index, app)
  | .loginGet => (.loginPage, app)
  | .loginPost =>
    match extract.form request with
    | none => (.unreadable, app)
    | some form => handlerLoginPost app form call.draw
  | .logout => handlerLogout app request.headers
  | .getConfig =>
    match extract.query request with
    | none => (.unreadable, app)
    | some q => (.api (Webui.getConfig app.webui q), app)
  | .putConfig =>
    app.serveApi toml call.fault ((extract.query request).bind fun q => (extract.config request).map (.putConfig q))
  | .postActive =>
    app.serveApi toml call.fault
      ((extract.query request).bind fun q => (extract.active request).map (.postActiveBackend q))
  | .getBackend =>
    match extract.query request, extract.name request with
    | some q, some name => (Webui.getBackend app.webui q name, app)
    | _, _ => (.unreadable, app)
  | .postCopyBackend =>
    app.serveApi toml call.fault ((extract.query request).bind fun q => (extract.name request).bind fun name =>
      (extract.copy request).map (.postCopyBackend q name))
  | .getProfiles => (.profiles app.webui.cliMode.profileKey, app)

def AppState.route (app : AppState) (extract : Extract) (toml : Toml) (call : Call) (request : HttpRequest) :
    Reply × AppState :=
  match handlerOf request with
  | some handler => app.call extract toml call request handler
  | none => (if (routesAt request.path).isEmpty then .notFound else .methodNotAllowed, app)

/-- `{:02X}`. -/
def upperHex (n : Nat) : List Char :=
  let digits := (Nat.toDigits 16 n).map Char.toUpper
  if digits.length < 2 then '0' :: digits else digits

def urlencoded (s : List Char) : List Char :=
  s.flatMap fun c =>
    if c.isAlphanum || c == '-' || c == '_' || c == '.' || c == '/' then [c] else '%' :: upperHex c.toNat

/-- `auth_middleware`: whether the request goes on to its handler. -/
def AppState.admits (app : AppState) (request : HttpRequest) (now : Nat) : Bool :=
  app.credentials.isNone || request.path == "/login".toList ||
    (getCookie request.headers sessionCookie).any fun token => app.sessions.isValid token now

/-! ### Runs -/

/-- The application with the requests that have passed its layer. -/
structure Site where
  app : AppState
  admitted : List HttpRequest

/-- A request reaches the layer, or an admitted one its handler. -/
inductive Visit where
  | arrive (request : HttpRequest) (now : Nat)
  | answer (k : Nat) (call : Call)

section
variable (extract : Extract) (toml : Toml)

def Site.visit (site : Site) : Visit → Option Reply × Site
  | .arrive request now =>
    if site.app.admits request now then (none, { site with admitted := site.admitted ++ [request] })
    else (some (.loginRedirect ("/login?next=".toList ++ urlencoded request.path)), site)
  | .answer k call =>
    match site.admitted[k]? with
    | none => (none, site)
    | some request =>
      let (reply, app) := site.app.route extract toml call request
      (some reply, ⟨app, site.admitted.eraseIdx k⟩)

def Site.step (site : Site) (visit : Visit) : Site := (site.visit extract toml visit).2

def Site.replies (site : Site) : List Visit → List Reply
  | [] => []
  | visit :: rest => (site.visit extract toml visit).1.toList ++ replies (site.step extract toml visit) rest

end

end Anycode.Webui
