import Mathlib.Data.Bool.AllAny
import Anycode.Webui.Server

/-!
# Sessions of the WebUI

Who gets through the authentication layer: in every run exactly those whose cookie a login has
drawn within the last day and nobody has logged out since.
-/

namespace Anycode.Webui
open Data Pipeline Config
open Proxy (get post)

/-! ### What touches a session -/

section
variable (extract : Extract)

/-- The credentials that a login form carries are the configured ones. -/
def LogsIn (site : Site) (k : Nat) : Prop :=
  ∃ request form, site.admitted[k]? = some request ∧ handlerOf request = some .loginPost ∧
    extract.form request = some form ∧ site.app.credentials = some (form.username, form.password)

def Site.sessionEvent (site : Site) : Visit → Option (LeaseEvent (List Char))
  | .arrive _ _ => none
  | .answer k call =>
    (site.admitted[k]?).bind fun request =>
      match handlerOf request with
      | some .loginPost =>
        if (extract.form request).any fun form => decide (site.app.credentials = some (form.username, form.password)) then
          some (.grant call.draw.uuid.text (call.draw.now + sessionTtl) call.draw.purgedAt)
        else none
      | some .logout => (getCookie request.headers sessionCookie).map .revoke
      | _ => none

/-- A login that draws the token, or a logout with it. -/
def Site.Touches (site : Site) (visit : Visit) (token : List Char) : Prop :=
  ∃ touch, site.sessionEvent extract visit = some touch ∧ touch.key = token

/-- What the visit reads of the clock to drop sessions is not later than this. -/
def Site.ReadsBefore (now : Nat) (site : Site) (visit : Visit) : Prop :=
  ∀ touch, site.sessionEvent extract visit = some touch → touch.Before now

end

theorem foldl_or_eq_zero (pairs : List (UInt8 × UInt8)) (acc : UInt8) :
    pairs.foldl (fun acc pair => acc ||| (pair.1 ^^^ pair.2)) acc = 0 ↔ acc = 0 ∧ ∀ pair ∈ pairs, pair.1 = pair.2 := by
  induction pairs generalizing acc with
  | nil => simp
  | cons pair rest ih =>
    rw [List.foldl_cons, ih, UInt8.or_eq_zero_iff, UInt8.xor_eq_zero_iff, List.forall_mem_cons, and_assoc]

theorem eq_of_zip {a b : List UInt8} (size : a.length = b.length) (same : ∀ pair ∈ a.zip b, pair.1 = pair.2) : a = b := by
  refine List.ext_getElem size fun n left right => ?_
  exact same (a[n], b[n]) (List.mem_iff_getElem.mpr ⟨n, by rw [List.length_zip]; omega, List.getElem_zip⟩)

theorem constantTimeEq_iff (a b : List UInt8) : constantTimeEq a b = true ↔ a = b := by
  unfold constantTimeEq
  split
  · rename_i different
    exact iff_of_false Bool.false_ne_true (fun same => different (congrArg List.length same))
  · rename_i size
    rw [beq_iff_eq, foldl_or_eq_zero, and_iff_right rfl]
    constructor
    · exact eq_of_zip (not_not.mp size)
    · rintro rfl pair member
      obtain ⟨n, _, rfl⟩ := List.mem_iff_getElem.mp member
      rw [List.getElem_zip]

theorem constantTimeEq_utf8 (a b : String) :
    constantTimeEq (utf8 a.toList) (utf8 b.toList) = true ↔ a = b := by
  rw [constantTimeEq_iff]
  exact ⟨fun same => String.toList_inj.mp (utf8_injective same), fun same => same ▸ rfl⟩

/-! ### One step -/

theorem handlerLoginPost_eq (app : AppState) (form : LoginForm) (draw : Draw) :
    handlerLoginPost app form draw =
      if app.credentials = none then (.seeUi, app)
      else if app.credentials = some (form.username, form.password) then
        (.loggedIn draw.uuid.text,
          { app with sessions := app.sessions.grant draw.uuid.text (draw.now + sessionTtl) draw.purgedAt })
      else (.invalidCredentials, app) := by
  unfold handlerLoginPost
  cases app.credentials with
  | none => rfl
  | some pair =>
    obtain ⟨username, password⟩ := pair
    have checked : (constantTimeEq (utf8 form.username.toList) (utf8 username.toList) &&
        constantTimeEq (utf8 form.password.toList) (utf8 password.toList)) = true ↔
          some (username, password) = some (form.username, form.password) := by
      rw [Bool.and_eq_true, constantTimeEq_utf8, constantTimeEq_utf8, Option.some_inj, Prod.mk.injEq, eq_comm,
        @eq_comm _ form.password]
    rw [if_neg (Option.some_ne_none _)]
    simp only [checked]
    rfl

theorem serveApi_frame (app : AppState) (toml : Toml) (fault : Option Fault) (request : Option Request) :
    (app.serveApi toml fault request).2.credentials = app.credentials ∧
      (app.serveApi toml fault request).2.sessions = app.sessions := by
  cases request <;> exact ⟨rfl, rfl⟩

section
variable {extract : Extract} {toml : Toml}

/-- The handlers that are not about sessions leave them alone, and none changes the credentials. -/
theorem call_frame (app : AppState) (call : Call) (request : HttpRequest) (handler : Handler) :
    (app.call extract toml call request handler).2.credentials = app.credentials ∧
      (handler ≠ .loginPost → handler ≠ .logout → (app.call extract toml call request handler).2.sessions = app.sessions) := by
  cases handler with
  | redirectToUi | serveIndex | loginGet | getProfiles => exact ⟨rfl, fun _ _ => rfl⟩
  | loginPost =>
    refine ⟨?_, fun absurd => (absurd rfl).elim⟩
    rw [AppState.call]
    cases extract.form request with
    | none => rfl
    | some form =>
      dsimp only
      rw [handlerLoginPost_eq]
      split
      · rfl
      · split <;> rfl
  | logout =>
    refine ⟨?_, fun _ absurd => (absurd rfl).elim⟩
    rw [AppState.call, handlerLogout]
    cases getCookie request.headers sessionCookie <;> rfl
  | getConfig =>
    rw [AppState.call]
    cases extract.query request <;> exact ⟨rfl, fun _ _ => rfl⟩
  | getBackend =>
    rw [AppState.call]
    cases extract.query request <;> cases extract.name request <;> exact ⟨rfl, fun _ _ => rfl⟩
  | putConfig | postActive | postCopyBackend =>
    rw [AppState.call]
    exact ⟨(serveApi_frame _ _ _ _).1, fun _ _ => (serveApi_frame _ _ _ _).2⟩

variable {site : Site}

theorem call_logout (app : AppState) (call : Call) (request : HttpRequest) :
    (app.call extract toml call request .logout).2.sessions =
      ((getCookie request.headers sessionCookie).map app.sessions.revoke).getD app.sessions := by
  rw [AppState.call, handlerLogout]
  cases getCookie request.headers sessionCookie <;> rfl

theorem call_loginPost (app : AppState) (call : Call) (request : HttpRequest) :
    (app.call extract toml call request .loginPost).2.sessions =
      if (extract.form request).any fun form => decide (app.credentials = some (form.username, form.password)) then
        app.sessions.grant call.draw.uuid.text (call.draw.now + sessionTtl) call.draw.purgedAt
      else app.sessions := by
  rw [AppState.call]
  cases extract.form request with
  | none => rfl
  | some form =>
    dsimp only
    rw [handlerLoginPost_eq, Option.any_some]
    simp only [decide_eq_true_eq]
    split
    · rename_i unlocked
      rw [unlocked, if_neg (Option.some_ne_none _).symm]
    · split <;> rfl

theorem step_credentials (site : Site) (visit : Visit) : (site.step extract toml visit).app.credentials = site.app.credentials := by
  cases visit with
  | arrive request now =>
    rw [Site.step, Site.visit]
    split <;> rfl
  | answer k call =>
    rw [Site.step, Site.visit]
    cases site.admitted[k]? with
    | none => rfl
    | some request =>
      dsimp only
      rw [AppState.route]
      cases handlerOf request with
      | none => rfl
      | some handler => exact (call_frame _ _ _ _).1

theorem run_credentials (site : Site) (visits : List Visit) :
    (run (Site.step extract toml) site visits).app.credentials = site.app.credentials := by
  induction visits generalizing site with
  | nil => rfl
  | cons visit rest ih => exact (ih _).trans (step_credentials site visit)

/-- The session store follows the logins and logouts. -/
theorem step_sessions (site : Site) (visit : Visit) :
    (site.step extract toml visit).app.sessions =
      ((site.sessionEvent extract visit).map site.app.sessions.apply).getD site.app.sessions := by
  cases visit with
  | arrive request now =>
    rw [Site.step, Site.visit]
    split <;> rfl
  | answer k call =>
    rw [Site.step, Site.visit, Site.sessionEvent]
    cases site.admitted[k]? with
    | none => rfl
    | some request =>
      rw [Option.bind_some]
      dsimp only
      rw [AppState.route]
      cases handlerOf request with
      | none => rfl
      | some handler =>
        cases handler with
        | loginPost =>
          dsimp only
          rw [call_loginPost]
          split <;> rfl
        | logout =>
          dsimp only
          rw [call_logout]
          cases getCookie request.headers sessionCookie <;> rfl
        | redirectToUi | serveIndex | loginGet | getProfiles | getConfig | getBackend | putConfig | postActive
        | postCopyBackend => exact (call_frame _ _ _ _).2 (by decide) (by decide)

theorem sessionEvent_grant {visit : Visit} {token : List Char} {expiry : Nat} {purgedAt : List Char → Nat} :
    site.sessionEvent extract visit = some (.grant token expiry purgedAt) ↔
      ∃ k call, visit = .answer k call ∧ LogsIn extract site k ∧ call.draw.uuid.text = token ∧
        call.draw.now + sessionTtl = expiry ∧ call.draw.purgedAt = purgedAt := by
  constructor
  · intro granted
    cases visit with
    | arrive request now => cases granted
    | answer k call =>
      obtain ⟨request, admitted, granted⟩ := Option.bind_eq_some_iff.mp granted
      split at granted
      · rename_i handler
        split at granted
        · rename_i checked
          cases granted
          cases read : extract.form request with
          | none =>
            rw [read] at checked
            cases checked
          | some form =>
            rw [read, Option.any_some, decide_eq_true_iff] at checked
            exact ⟨k, call, rfl, ⟨request, form, admitted, handler, read, checked⟩, rfl, rfl, rfl⟩
        · cases granted
      · obtain ⟨_, _, absurd⟩ := Option.map_eq_some_iff.mp granted
        cases absurd
      · cases granted
  · rintro ⟨k, call, rfl, ⟨request, form, admitted, handler, read, same⟩, rfl, rfl, rfl⟩
    rw [Site.sessionEvent, admitted, Option.bind_some, handler]
    dsimp only
    rw [read, Option.any_some, if_pos (decide_eq_true same)]

/-- With credentials configured, a request reaches its handler exactly when its cookie carries a
token that a login with these credentials has drawn within the last day and that has not been
logged out since. -/
theorem admits_iff_loggedIn {visits : List Visit} {request : HttpRequest} {now : Nat}
    (locked : site.app.credentials ≠ none) (fresh : site.app.sessions = Table.empty)
    (inner : request.path ≠ "/login".toList)
    (past : Along (Site.step extract toml) (Site.ReadsBefore extract now) site visits) :
    (run (Site.step extract toml) site visits).app.admits request now = true ↔
      ∃ token before k call after, getCookie request.headers sessionCookie = some token ∧
        visits = before ++ .answer k call :: after ∧ LogsIn extract (run (Site.step extract toml) site before) k ∧
        call.draw.uuid.text = token ∧ now < call.draw.now + sessionTtl ∧
        Along (Site.step extract toml) (fun site visit => ¬ site.Touches extract visit token)
          (run (Site.step extract toml) site (before ++ [.answer k call])) after := by
  have kept : (run (Site.step extract toml) site visits).app.credentials.isNone = false := by
    rw [run_credentials]
    exact Option.isNone_eq_false_iff.mpr (Option.isSome_iff_ne_none.mpr locked)
  have valid : ∀ token, (run (Site.step extract toml) site visits).app.sessions.isValid token now = true ↔
      Leased (Site.step extract toml) (Site.sessionEvent extract) site visits token now := fun token =>
    isValid_run_iff (fun site => site.app.sessions) step_sessions fresh past
  have outside : (request.path == "/login".toList) = false := beq_eq_false_iff_ne.mpr inner
  have untouched : ∀ token (start : Site) after,
      Along (Site.step extract toml) (fun site visit => ¬ site.Touches extract visit token) start after ↔
        Along (Site.step extract toml) (fun site visit => ∀ touch, site.sessionEvent extract visit = some touch →
          touch.key ≠ token) start after := fun token start after =>
    along_congr fun _ _ => ⟨fun none touch found same => none ⟨touch, found, same⟩,
      fun none ⟨touch, found, same⟩ => none touch found same⟩
  rw [AppState.admits, kept, outside, Bool.false_or, Bool.false_or, Option.any_eq_true]
  constructor
  · rintro ⟨token, carried, live⟩
    obtain ⟨before, visit, after, expiry, purgedAt, rfl, granted, running, quiet⟩ := (valid token).mp live
    obtain ⟨k, call, rfl, login, drawn, rfl, _⟩ := sessionEvent_grant.mp granted
    exact ⟨token, before, k, call, after, carried, rfl, login, drawn, running, (untouched _ _ _).mpr quiet⟩
  · rintro ⟨token, before, k, call, after, carried, rfl, login, drawn, running, quiet⟩
    have granted := sessionEvent_grant.mpr ⟨k, call, rfl, login, drawn, rfl, rfl⟩
    exact ⟨token, carried,
      (valid token).mpr ⟨before, _, after, _, call.draw.purgedAt, rfl, granted, running, (untouched _ _ _).mp quiet⟩⟩

end

/-! A site whose credentials are configured, and a browser that sends the login form with some password. -/

def formExtract (password : String) : Extract where
  form _ := some ⟨"admin", password⟩
  query _ := some {}
  name _ := none
  config _ := none
  active _ := none
  copy _ := none

def lockedSite : Site := ⟨⟨twoKeysStored, some ("admin", "secret"), Table.empty⟩, []⟩

def loginRequest : HttpRequest := ⟨"POST", "/login".toList, [], none, []⟩

def drawnUuid : Uuid where
  text := "7f-0c".toList
  nonempty := by decide
  plain := List.all_iff_forall_prop.mp (by decide +kernel)

def loginCall : Call := ⟨⟨drawnUuid, 1, fun _ => 1⟩, none⟩

def sessionHeaders : HeaderMap := [(⟨"cookie", by decide +kernel⟩, ⟨utf8 "ac_session=7f-0c".toList, by decide +kernel⟩)]

def configRequest : HttpRequest := ⟨"GET", "/api/config".toList, sessionHeaders, none, []⟩

theorem admin_admitted : (run (Site.step (formExtract "secret") twoKeysToml) lockedSite
    [.arrive loginRequest 0, .answer 0 loginCall]).app.admits configRequest 5 = true := by
  refine (admits_iff_loggedIn (Option.some_ne_none _) rfl (by decide) ?_).mpr
    ⟨drawnUuid.text, [.arrive loginRequest 0], 0, loginCall, [], rfl, rfl, ?_, rfl, by decide, trivial⟩
  · refine ⟨nofun, ?_, trivial⟩
    intro touch found
    have granted : some (.grant drawnUuid.text (1 + sessionTtl) fun _ => 1) = some touch := found
    cases granted
    intro key
    exact Nat.le_of_ble_eq_true rfl
  · exact ⟨loginRequest, ⟨"admin", "secret"⟩, rfl, rfl, rfl, rfl⟩

section
variable {extract : Extract} {toml : Toml} {site : Site}

/-! ### Without a login -/

/-- The same site over another configuration. -/
def Site.over (site : Site) (webui : WebuiState) : Site := { site with app := { site.app with webui := webui } }

/-- Nobody is logged in, and nothing but the login page is waiting for its handler. -/
structure Site.Locked (site : Site) : Prop where
  credentials : site.app.credentials ≠ none
  sessions : site.app.sessions = Table.empty
  admitted : ∀ request ∈ site.admitted, request.path = "/login".toList

theorem handlerOf_login {request : HttpRequest} (login : request.path = "/login".toList) :
    handlerOf request = none ∨ handlerOf request = some .loginGet ∨ handlerOf request = some .loginPost := by
  have routes : routesAt request.path = [(get, .loginGet), (post, .loginPost)] := by rw [login]; rfl
  rw [handlerOf, routes, List.find?_cons, List.find?_cons, List.find?_nil]
  dsimp only
  cases get request.method with
  | true => exact .inr (.inl rfl)
  | false =>
    cases post request.method with
    | true => exact .inr (.inr rfl)
    | false => exact .inl rfl

variable (extract toml) in
/-- A request for the login page that does not log in is answered by its text and the credentials alone. -/
theorem route_login {request : HttpRequest} {credentials : Option (String × String)} (login : request.path = "/login".toList)
    (locked : credentials ≠ none) (noLogin : handlerOf request = some .loginPost →
      ∀ form, extract.form request = some form → credentials ≠ some (form.username, form.password)) (call : Call) :
    ∃ reply, ∀ app : AppState, app.credentials = credentials → app.route extract toml call request = (reply, app) := by
  rcases handlerOf_login login with handler | handler | handler
  · exact ⟨_, fun app _ => by rw [AppState.route, handler]⟩
  · exact ⟨.loginPage, fun app _ => by rw [AppState.route, handler]; rfl⟩
  · cases read : extract.form request with
    | none =>
      refine ⟨.unreadable, fun app _ => ?_⟩
      rw [AppState.route, handler]
      dsimp only
      rw [AppState.call, read]
    | some form =>
      refine ⟨.invalidCredentials, fun app same => ?_⟩
      rw [AppState.route, handler]
      dsimp only
      rw [AppState.call, read]
      dsimp only
      rw [handlerLoginPost_eq, same, if_neg locked, if_neg (noLogin handler form read)]

/-- Where nobody logs in, a locked site stays locked, and a visit is answered as it would be over
any other configuration, which it leaves as it was. -/
theorem visit_locked (locked : site.Locked) {visit : Visit}
    (noLogin : ∀ k call, visit = .answer k call → ¬ LogsIn extract site k) (webui : WebuiState) :
    (site.step extract toml visit).Locked ∧
      (site.over webui).visit extract toml visit =
        ((site.visit extract toml visit).1, (site.step extract toml visit).over webui) ∧
      (site.step extract toml visit).app.webui = site.app.webui := by
  cases visit with
  | arrive request now =>
    have same : (site.over webui).app.admits request now = site.app.admits request now := rfl
    rw [Site.step, Site.visit, Site.visit, same]
    split
    · rename_i admitted
      refine ⟨⟨locked.credentials, locked.sessions, ?_⟩, rfl, rfl⟩
      have closed : site.app.credentials.isNone = false :=
        Option.isNone_eq_false_iff.mpr (Option.isSome_iff_ne_none.mpr locked.credentials)
      have nobody : ((getCookie request.headers sessionCookie).any fun token => site.app.sessions.isValid token now) = false := by
        rw [locked.sessions]
        cases getCookie request.headers sessionCookie <;> rfl
      rw [AppState.admits, closed, nobody, Bool.false_or, Bool.or_false, beq_iff_eq] at admitted
      intro other member
      rcases List.mem_append.mp member with before | last
      · exact locked.admitted other before
      · rw [List.mem_singleton.mp last]
        exact admitted
    · exact ⟨locked, rfl, rfl⟩
  | answer k call =>
    have same : (site.over webui).admitted[k]? = site.admitted[k]? := rfl
    rw [Site.step, Site.visit, Site.visit, same]
    cases waiting : site.admitted[k]? with
    | none => exact ⟨locked, rfl, rfl⟩
    | some request =>
      have login := locked.admitted request (List.mem_of_getElem? waiting)
      obtain ⟨reply, answered⟩ := route_login extract toml login locked.credentials
        (fun handler form read same => noLogin k call rfl ⟨request, form, waiting, handler, read, same⟩) call
      dsimp only
      rw [answered site.app rfl, answered (site.over webui).app rfl]
      exact ⟨⟨locked.credentials, locked.sessions, fun other member => locked.admitted other (List.mem_of_mem_eraseIdx member)⟩,
        rfl, rfl⟩

def NoLogin (extract : Extract) (site : Site) (visit : Visit) : Prop :=
  ∀ k call, visit = .answer k call → ¬ LogsIn extract site k

/-- As long as nobody logs in, no visit changes the configuration, and the replies are the same
whatever it is: nothing of it is shown. -/
theorem nothing_without_login (locked : site.Locked) {visits : List Visit}
    (noLogin : Along (Site.step extract toml) (NoLogin extract) site visits) (webui : WebuiState) :
    (run (Site.step extract toml) site visits).app.webui = site.app.webui ∧
      (site.over webui).replies extract toml visits = site.replies extract toml visits := by
  induction visits generalizing site with
  | nil => exact ⟨rfl, rfl⟩
  | cons visit rest ih =>
    obtain ⟨first, later⟩ := noLogin
    obtain ⟨kept, same, unchanged⟩ := visit_locked locked first webui
    obtain ⟨after, replies⟩ := ih kept later
    have moved : (site.over webui).step extract toml visit = (site.step extract toml visit).over webui := congrArg Prod.snd same
    refine ⟨after.trans unchanged, ?_⟩
    rw [Site.replies, Site.replies, moved, replies, same]

end

theorem wrong_password_shows_nothing :
    (run (Site.step (formExtract "guess") twoKeysToml) lockedSite
        [.arrive loginRequest 0, .answer 0 loginCall, .arrive configRequest 5]).app.webui = lockedSite.app.webui ∧
      (lockedSite.over (glmStored "kimi" [])).replies (formExtract "guess") twoKeysToml
          [.arrive loginRequest 0, .answer 0 loginCall, .arrive configRequest 5] =
        lockedSite.replies (formExtract "guess") twoKeysToml
          [.arrive loginRequest 0, .answer 0 loginCall, .arrive configRequest 5] := by
  have locked : lockedSite.Locked := ⟨Option.some_ne_none _, rfl, fun _ member => absurd member List.not_mem_nil⟩
  refine nothing_without_login locked ?_ (glmStored "kimi" [])
  refine ⟨nofun, ?_, nofun, trivial⟩
  rintro k call ⟨⟩ ⟨request, form, _, _, read, same⟩
  cases read
  exact absurd same (by decide)

/-! ### The cookie on its way back -/

/-- A cookie as browsers keep it: no white space, no semicolon, and no equals sign in its name. -/
structure Cookie where
  name : List Char
  value : List Char
  noEquals : '=' ∉ name
  plain : ∀ c ∈ name ++ '=' :: value, isWhitespace c = false ∧ c ≠ ';'

def Cookie.text (cookie : Cookie) : List Char := cookie.name ++ '=' :: cookie.value

/-- The header of a browser that holds these cookies. -/
def cookieHeader (cookies : List Cookie) : List Char := "; ".toList.intercalate (cookies.map Cookie.text)

theorem breakAt_singleton {before : List Char} {c : Char} (absent : c ∉ before) (after : List Char) :
    breakAt [c] (before ++ c :: after) = some (before, after) := by
  induction before with
  | nil => simp [breakAt]
  | cons d before ih =>
    obtain ⟨different, later⟩ := List.ne_and_not_mem_of_not_mem_cons absent
    rw [List.cons_append, breakAt, if_neg (by simpa using different), ih later]
    rfl

theorem cookieOf_text (name : List Char) (cookie : Cookie) {part : List Char} (trimmed : trim part = cookie.text) :
    cookieOf name part = if cookie.name = name then some cookie.value else none := by
  have dark : ∀ c ∈ cookie.name ++ '=' :: cookie.value, isWhitespace c = false := fun c member => (cookie.plain c member).1
  rw [cookieOf, trimmed, Cookie.text, breakAt_singleton cookie.noEquals, Option.bind_some]
  dsimp only
  rw [trim_visible fun c member => dark c (List.mem_append_left _ member),
    trim_visible fun c member => dark c (List.mem_append_right _ (List.mem_cons_of_mem _ member))]

theorem cookieHeader_eq (first : Cookie) (rest : List Cookie) :
    cookieHeader (first :: rest) = [';'].intercalate (first.text :: rest.map fun cookie => ' ' :: cookie.text) := by
  induction rest generalizing first with
  | nil => rw [cookieHeader, List.map_singleton, List.map_nil, List.intercalate_singleton, List.intercalate_singleton]
  | cons second rest ih =>
    have later := ih second
    rw [cookieHeader, List.map_cons] at later
    rw [cookieHeader, List.map_cons, List.map_cons, List.intercalate_cons_cons, later, List.map_cons,
      List.intercalate_cons_cons]
    cases rest with
    | nil => simp
    | cons third rest => simp

theorem cookieIn_cookieHeader (name : List Char) (cookies : List Cookie) (sent : cookies ≠ []) :
    cookieIn name (cookieHeader cookies) = (cookies.find? fun cookie => cookie.name = name).map Cookie.value := by
  obtain ⟨first, rest, rfl⟩ := List.exists_cons_of_ne_nil sent
  have noSemicolon : ∀ cookie : Cookie, ';' ∉ cookie.text := fun cookie member => (cookie.plain ';' member).2 rfl
  have clean : ∀ part ∈ first.text :: rest.map (fun cookie => ' ' :: cookie.text), ';' ∉ part := by
    intro part member
    rcases List.mem_cons.mp member with rfl | later
    · exact noSemicolon first
    · obtain ⟨cookie, _, rfl⟩ := List.mem_map.mp later
      exact List.not_mem_cons_of_ne_of_not_mem (by decide) (noSemicolon cookie)
  have trimmed : ∀ cookie : Cookie, trim cookie.text = cookie.text := fun cookie =>
    trim_visible fun c member => (cookie.plain c member).1
  have spaced : ∀ cookie : Cookie, trim (' ' :: cookie.text) = cookie.text := trimmed
  rw [cookieIn, cookieHeader_eq, List.splitOn_intercalate ';' clean (List.cons_ne_nil _ _), List.findSome?_cons,
    cookieOf_text name first (trimmed first), List.find?_cons, List.findSome?_map]
  have others : ∀ rest : List Cookie, rest.findSome? (cookieOf name ∘ fun cookie => ' ' :: cookie.text) =
      (rest.find? fun cookie => cookie.name = name).map Cookie.value := by
    intro rest
    induction rest with
    | nil => rfl
    | cons cookie rest ih =>
      rw [List.findSome?_cons, Function.comp_apply, cookieOf_text name cookie (spaced cookie), ih, List.find?_cons]
      by_cases same : cookie.name = name <;> simp [same]
  rw [others]
  by_cases same : first.name = name <;> simp [same]

theorem getCookie_of_header {headers : HeaderMap} {value : HeaderValue} {cookies : List Cookie} {name : List Char}
    {cookie : Cookie} (first : headers.get "cookie" = some value) (text : value.toStr = some (cookieHeader cookies))
    (found : (cookies.find? fun cookie => cookie.name = name) = some cookie) : getCookie headers name = some cookie.value := by
  have sent : cookies ≠ [] := by
    rintro rfl
    cases found
  rw [getCookie, first, Option.bind_some, text, Option.bind_some, cookieIn_cookieHeader name cookies sent, found, Option.map_some]

section
variable {extract : Extract} {toml : Toml}

theorem serveApi_reply (app : AppState) (fault : Option Fault) (request : Option Request) (token : List Char) :
    (app.serveApi toml fault request).1 ≠ .loggedIn token := by
  cases request <;> nofun

/-- Only a login that matches is answered with a token. -/
theorem call_loggedIn {app : AppState} {call : Call} {request : HttpRequest} {handler : Handler} {token : List Char}
    (reply : (app.call extract toml call request handler).1 = .loggedIn token) :
    handler = .loginPost ∧ token = call.draw.uuid.text ∧ ∃ form, extract.form request = some form ∧
      app.credentials = some (form.username, form.password) := by
  cases handler with
  | redirectToUi | serveIndex | loginGet | getProfiles => cases reply
  | loginPost =>
    rw [AppState.call] at reply
    cases read : extract.form request with
    | none =>
      rw [read] at reply
      cases reply
    | some form =>
      rw [read] at reply
      dsimp only at reply
      rw [handlerLoginPost_eq] at reply
      split at reply
      · cases reply
      · split at reply
        · rename_i same
          cases reply
          exact ⟨rfl, rfl, form, rfl, same⟩
        · cases reply
  | logout =>
    rw [AppState.call, handlerLogout] at reply
    split at reply <;> cases reply
  | getConfig =>
    rw [AppState.call] at reply
    split at reply <;> cases reply
  | getBackend =>
    rw [AppState.call] at reply
    split at reply
    · rw [Webui.getBackend] at reply
      split at reply
      · cases reply
      · split at reply <;> cases reply
    · cases reply
  | putConfig | postActive | postCopyBackend => exact absurd reply (serveApi_reply _ _ _ _)

theorem loginReply_event {site : Site} {k : Nat} {call : Call} {token : List Char}
    (login : (site.visit extract toml (.answer k call)).1 = some (.loggedIn token)) :
    token = call.draw.uuid.text ∧ site.sessionEvent extract (.answer k call) =
      some (.grant call.draw.uuid.text (call.draw.now + sessionTtl) call.draw.purgedAt) := by
  rw [Site.visit] at login
  cases waiting : site.admitted[k]? with
  | none =>
    rw [waiting] at login
    cases login
  | some request =>
    rw [waiting] at login
    have reply : (site.app.route extract toml call request).1 = .loggedIn token := Option.some_inj.mp login
    rw [AppState.route] at reply
    cases handled : handlerOf request with
    | none =>
      rw [handled] at reply
      dsimp only at reply
      split at reply <;> cases reply
    | some handler =>
      rw [handled] at reply
      obtain ⟨rfl, drawn, form, read, same⟩ := call_loggedIn reply
      exact ⟨drawn, sessionEvent_grant.mpr ⟨k, call, rfl, ⟨request, form, waiting, handled, read, same⟩, rfl, rfl, rfl⟩⟩

/-- The token that a login answers with lets the browser in for a day, whatever else it keeps in
its cookies and whatever others do, until it is logged out. -/
theorem browser_stays_in {site : Site} {k : Nat} {call : Call} {token : List Char}
    (login : (site.visit extract toml (.answer k call)).1 = some (.loggedIn token)) {visits : List Visit} {now : Nat}
    (running : now < call.draw.now + sessionTtl)
    (others : Along (Site.step extract toml) (fun site visit => ¬ site.Touches extract visit token ∧
      site.ReadsBefore extract now visit) (site.step extract toml (.answer k call)) visits)
    {request : HttpRequest} {value : HeaderValue} {cookies : List Cookie} {cookie : Cookie}
    (carried : request.headers.get "cookie" = some value) (text : value.toStr = some (cookieHeader cookies))
    (found : (cookies.find? fun cookie => cookie.name = sessionCookie) = some cookie) (same : cookie.value = token) :
    (run (Site.step extract toml) (site.step extract toml (.answer k call)) visits).app.admits request now = true := by
  obtain ⟨rfl, granted⟩ := loginReply_event login
  have quiet : Along (Site.step extract toml) (fun site visit => ∀ touch, site.sessionEvent extract visit = some touch →
      touch.key ≠ call.draw.uuid.text ∧ touch.Before now) (site.step extract toml (.answer k call)) visits := by
    refine along_mono ?_ others
    rintro site visit ⟨alone, past⟩ touch found
    exact ⟨fun same => alone ⟨touch, found, same⟩, past touch found⟩
  have live : (run (Site.step extract toml) (site.step extract toml (.answer k call)) visits).app.sessions.isValid
      call.draw.uuid.text now = true := by
    rw [isValid_run_untouched (fun site => site.app.sessions) step_sessions quiet, step_sessions, granted, Option.map_some,
      Option.getD_some, LeaseTable.apply, LeaseTable.isValid_grant _ _ _ (fun other => absurd rfl other), if_pos rfl]
    exact decide_eq_true running
  rw [AppState.admits, getCookie_of_header carried text found, Option.any_some, same, live, Bool.or_true]

end

def sessionCookies : List Cookie :=
  [⟨sessionCookie, drawnUuid.text, by decide +kernel,
    List.all_iff_forall_prop.mp (by decide +kernel)⟩]

theorem admin_stays_in : (run (Site.step (formExtract "secret") twoKeysToml)
    (Site.step (formExtract "secret") twoKeysToml { lockedSite with admitted := [loginRequest] } (.answer 0 loginCall))
    [.arrive loginRequest 3]).app.admits configRequest 5 = true := by
  have quiet : Along (Site.step (formExtract "secret") twoKeysToml)
      (fun site visit => ¬ site.Touches (formExtract "secret") visit drawnUuid.text ∧
        site.ReadsBefore (formExtract "secret") 5 visit)
      (Site.step (formExtract "secret") twoKeysToml { lockedSite with admitted := [loginRequest] } (.answer 0 loginCall))
      [.arrive loginRequest 3] := ⟨⟨nofun, nofun⟩, trivial⟩
  have text : HeaderValue.toStr ⟨utf8 "ac_session=7f-0c".toList, by decide +kernel⟩ = some (cookieHeader sessionCookies) := by decide +kernel
  have login : (({ lockedSite with admitted := [loginRequest] } : Site).visit (formExtract "secret") twoKeysToml
      (.answer 0 loginCall)).1 = some (.loggedIn drawnUuid.text) := rfl
  exact browser_stays_in login (by decide) quiet rfl text rfl rfl

end Anycode.Webui
