import Anycode.Data.WebRouter
import Anycode.Proxy.SessionToken

/-!
# The proxy's router

`build_router` over the laws of the web framework, and the requests that its authentication
layer covers.
-/

namespace Anycode.Proxy
open Data

inductive Handler where
  | handleListModels
  | proxyHandler
  | healthHandler
  | handleSubagentStart
  | handleSubagentStop
  | handleTeammateStart
  deriving DecidableEq

/-- The authentication middleware, and the extension that marks a teammate's request. -/
inductive Layer where
  | authMiddleware
  | teammateMarker
  deriving DecidableEq

/-- A `get` route answers `HEAD` as well. -/
def get (method : String) : Bool := method == "GET" || method == "HEAD"

def post (method : String) : Bool := method == "POST"

section
variable (axum : WebRouter Layer Handler)

def mainRouter : axum.Router :=
  let router := axum.route axum.new "/v1/models".toList get .handleListModels
  let router := axum.route router "/models".toList get .handleListModels
  axum.layer (axum.fallback router .proxyHandler) .authMiddleware

def hookRoutes : axum.Router :=
  let router := axum.route axum.new "/api/subagent-start".toList post .handleSubagentStart
  let router := axum.route router "/api/subagent-stop".toList post .handleSubagentStop
  axum.route router "/api/teammate-start".toList post .handleTeammateStart

def teammateRouter : axum.Router := axum.layer (axum.fallback axum.new .proxyHandler) .teammateMarker

def buildRouter : axum.Router :=
  let router := axum.merge (axum.route axum.new "/health".toList get .healthHandler) (hookRoutes axum)
  axum.merge (axum.nest router "/teammate".toList (teammateRouter axum)) (mainRouter axum)

/-! ### Requests -/

structure Request where
  method : String
  path : List Char
  headers : HeaderMap

inductive Answer where
  | handled (handler : Handler) (isTeammate : Bool) (path : List Char)
  | rejected (rejection : Rejection)
  | notServed

/-- The layers of an endpoint, the outermost first, then its handler. -/
def passLayers (sessionToken : Option (List Char)) (headers : HeaderMap) (handler : Handler) (path : List Char) :
    Bool → List Layer → Answer
  | isTeammate, [] => .handled handler isTeammate path
  | isTeammate, .authMiddleware :: rest =>
    match authMiddleware sessionToken headers with
    | .ok () => passLayers sessionToken headers handler path isTeammate rest
    | .error rejection => .rejected rejection
  | _, .teammateMarker :: rest => passLayers sessionToken headers handler path true rest

def answer (sessionToken : Option (List Char)) (req : Request) : Answer :=
  match axum.serve (buildRouter axum) req.method req.path with
  | some endpoint => passLayers sessionToken req.headers endpoint.handler endpoint.path false endpoint.layers
  | none => .notServed

/-- The handlers that forward a request with the backend's credentials. -/
def forwards (handler : Handler) : Bool := handler == .proxyHandler || handler == .handleListModels

/-- A handler that forwards is reached with the token only. -/
def Covered (sessionToken : List Char) (req : Request) : Prop :=
  ∀ handler isTeammate path, answer axum (some sessionToken) req = .handled handler isTeammate path →
    forwards handler = true → hasValidToken sessionToken req.headers = true

/-! ### What a path meets -/

/-- An endpoint behind the authentication layer alone, or one that does not forward. -/
def Guarded (endpoint : Endpoint Layer Handler) : Prop :=
  endpoint.layers = [.authMiddleware] ∨ forwards endpoint.handler = false

def publicPaths : List (List Char) :=
  ["/health".toList, "/api/teammate-start".toList, "/api/subagent-stop".toList, "/api/subagent-start".toList]

def modelPaths : List (List Char) := ["/models".toList, "/v1/models".toList]

theorem mainRouter_routes : axum.Routes (mainRouter axum) modelPaths Guarded := by
  have versioned : axum.Routes (axum.route axum.new "/v1/models".toList get .handleListModels)
      ["/v1/models".toList] (fun endpoint => endpoint.layers = []) :=
    WebRouter.Routes.new.route List.not_mem_nil get rfl
  have both : axum.Routes (axum.route (axum.route axum.new "/v1/models".toList get .handleListModels)
      "/models".toList get .handleListModels) modelPaths (fun endpoint => endpoint.layers = []) :=
    versioned.route (by decide) get rfl
  refine (both.fallback .proxyHandler).layer fun endpoint unlayered => .inl ?_
  rw [Endpoint.wrap, unlayered]

theorem buildRouter_routes : axum.Routes (buildRouter axum) (publicPaths ++ modelPaths) Guarded := by
  have hooks : axum.Routes (hookRoutes axum) publicPaths.tail Guarded :=
    ((WebRouter.Routes.new.route List.not_mem_nil post (.inr rfl)).route (by decide) post (.inr rfl)).route
      (by decide) post (.inr rfl)
  have health : axum.Routes (axum.route axum.new "/health".toList get .healthHandler) ["/health".toList] Guarded :=
    WebRouter.Routes.new.route List.not_mem_nil get (.inr rfl)
  have teammate : axum.Routes (teammateRouter axum) [] Guarded :=
    (WebRouter.Routes.new.fallback Handler.proxyHandler).layer (P := fun _ => False) fun _ absurd => absurd.elim
  exact ((health.merge hooks (by decide)).nest teammate "/teammate".toList).merge (mainRouter_routes axum) (by decide)

theorem mainRouter_fallback (path : List Char) :
    axum.fallbackAt (mainRouter axum) path = some ⟨[.authMiddleware], .proxyHandler, path⟩ := by
  rw [mainRouter, axum.fallbackAt_layer, axum.fallbackAt_fallback]
  · rfl
  · intro path
    rw [axum.fallbackAt_route, axum.fallbackAt_route, axum.fallbackAt_new]

theorem teammateRouter_fallback (path : List Char) :
    axum.fallbackAt (teammateRouter axum) path = some ⟨[.teammateMarker], .proxyHandler, path⟩ := by
  rw [teammateRouter, axum.fallbackAt_layer, axum.fallbackAt_fallback _ _ _ axum.fallbackAt_new]
  rfl

/-- Without a route, a path under `/teammate` goes to the teammate pipeline and every other one
to the main pipeline. -/
theorem buildRouter_fallback (path : List Char) :
    axum.fallbackAt (buildRouter axum) path =
      some (match axum.strip "/teammate".toList path with
        | some rest => ⟨[.teammateMarker], .proxyHandler, rest⟩
        | none => ⟨[.authMiddleware], .proxyHandler, path⟩) := by
  have front : ∀ path, axum.fallbackAt
      (axum.merge (axum.route axum.new "/health".toList get .healthHandler) (hookRoutes axum)) path = none := by
    intro path
    have health : ∀ path, axum.fallbackAt (axum.route axum.new "/health".toList get .healthHandler) path = none :=
      fun path => by rw [axum.fallbackAt_route, axum.fallbackAt_new]
    rw [axum.fallbackAt_merge _ _ _ ⟨path, health path⟩, health, hookRoutes, axum.fallbackAt_route,
      axum.fallbackAt_route, axum.fallbackAt_route, axum.fallbackAt_new, Option.none_or]
  have nested : ∀ path, axum.fallbackAt (axum.nest (axum.merge (axum.route axum.new "/health".toList get .healthHandler)
      (hookRoutes axum)) "/teammate".toList (teammateRouter axum)) path =
        (axum.strip "/teammate".toList path).map fun rest => ⟨[.teammateMarker], .proxyHandler, rest⟩ := by
    intro path
    rw [axum.fallbackAt_nest, front, Option.or_none]
    cases axum.strip "/teammate".toList path with
    | none => rfl
    | some rest => rw [Option.bind_some, teammateRouter_fallback, Option.map_some]
  have root : axum.strip "/teammate".toList [] = none := by
    cases stripped : axum.strip "/teammate".toList [] with
    | none => rfl
    | some rest => exact absurd (axum.strip_prefix _ _ _ stripped) (by decide)
  rw [buildRouter, axum.fallbackAt_merge _ _ _ ⟨[], by rw [nested, root, Option.map_none]⟩, nested,
    mainRouter_fallback]
  cases axum.strip "/teammate".toList path <;> rfl

theorem passLayers_handler {sessionToken : Option (List Char)} {headers : HeaderMap} {handler reached : Handler}
    {path seen : List Char} {isTeammate marked : Bool} {layers : List Layer}
    (passed : passLayers sessionToken headers handler path isTeammate layers = .handled reached marked seen) :
    reached = handler := by
  induction layers generalizing isTeammate with
  | nil =>
    cases passed
    rfl
  | cons layer rest ih =>
    cases layer with
    | teammateMarker => exact ih passed
    | authMiddleware =>
      rw [passLayers] at passed
      split at passed
      · exact ih passed
      · cases passed

/-! ### Coverage -/

theorem guarded_covered {sessionToken : List Char} {headers : HeaderMap} {endpoint : Endpoint Layer Handler}
    (guarded : Guarded endpoint) {handler : Handler} {isTeammate : Bool} {path : List Char}
    (passed : passLayers (some sessionToken) headers endpoint.handler endpoint.path false endpoint.layers =
      .handled handler isTeammate path) (forwarding : forwards handler = true) :
    hasValidToken sessionToken headers = true := by
  rcases guarded with layered | quiet
  · rw [layered, passLayers, authMiddleware] at passed
    by_contra invalid
    rw [if_neg invalid] at passed
    cases passed
  · rw [passLayers_handler passed, quiet] at forwarding
    cases forwarding

/-- A request reaches a handler that forwards only with the token, exactly when it is outside
`/teammate` or carries the token anyway. -/
theorem covered_iff (sessionToken : List Char) (req : Request) :
    Covered axum sessionToken req ↔
      axum.strip "/teammate".toList req.path = none ∨ hasValidToken sessionToken req.headers = true := by
  have routes := buildRouter_routes axum
  constructor
  · intro covered
    cases stripped : axum.strip "/teammate".toList req.path with
    | none => exact .inl rfl
    | some rest =>
      refine .inr (covered .proxyHandler true rest ?_ rfl)
      have unrouted : axum.routed (buildRouter axum) req.path = none := by
        apply routes.only
        intro listed
        have under : ∀ path ∈ publicPaths ++ modelPaths, ¬ "/teammate".toList <+: path := by decide
        exact under req.path listed (axum.strip_prefix _ _ _ stripped)
      rw [answer, WebRouter.serve, unrouted, buildRouter_fallback, stripped]
      rfl
  · intro condition handler isTeammate path answered forwarding
    rcases condition with outside | valid
    · rw [answer, WebRouter.serve] at answered
      cases routed : axum.routed (buildRouter axum) req.path with
      | none =>
        rw [routed, buildRouter_fallback, outside] at answered
        exact guarded_covered (.inl rfl) answered forwarding
      | some methods =>
        rw [routed] at answered
        dsimp only at answered
        cases met : methods req.method with
        | none =>
          rw [met] at answered
          cases answered
        | some endpoint =>
          rw [met] at answered
          exact guarded_covered (routes.each req.path methods req.method endpoint routed met) answered forwarding
    · exact valid

/-- No header is looked at on the teammate pipeline. -/
theorem teammate_forwarded (sessionToken : List Char) (method : String) (rest : List Char) (nonempty : rest ≠ [])
    (headers : HeaderMap) :
    answer axum (some sessionToken) ⟨method, "/teammate".toList ++ '/' :: rest, headers⟩ =
      .handled .proxyHandler true ('/' :: rest) := by
  have stripped := axum.strip_under "/teammate".toList rest nonempty
  have unrouted : axum.routed (buildRouter axum) ("/teammate".toList ++ '/' :: rest) = none := by
    apply (buildRouter_routes axum).only
    intro listed
    have under : ∀ path ∈ publicPaths ++ modelPaths, ¬ "/teammate".toList <+: path := by decide
    exact under _ listed (List.prefix_append _ _)
  rw [answer, WebRouter.serve, unrouted, buildRouter_fallback, stripped]
  rfl

end

theorem teammate_not_covered :
    ¬ ∀ sessionToken req, Covered (WebRouter.tables Layer Handler) sessionToken req := by
  intro covered
  have answered := teammate_forwarded (WebRouter.tables Layer Handler) sessionToken "POST"
    "a1/v1/messages".toList (by decide) []
  exact absurd (covered sessionToken _ _ _ _ answered rfl) (by decide)

end Anycode.Proxy
