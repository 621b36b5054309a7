import Anycode.Metrics.LogWriter
import Anycode.Pipeline.Response
import Mathlib.Data.List.InsertIdx

/-!
# Headers and bodies in the debug log

The stages at which the record of a request takes over headers and body previews, by the settings
of that moment, and when the log shows them. The texts that are taken over are redacted before
(`Metrics.Redaction`, `Metrics.Preview`). The body of an error response is logged by itself, at
every level but off and as it is.
-/

namespace Anycode.Metrics
open Config Data Pipeline

structure RequestLine where
  method : List Char
  path : List Char
  query : Option (List Char)

def RequestLine.toMeta (line : RequestLine) : RequestMeta := { method := line.method, path := line.path, query := line.query }

/-- What `redact_headers` and `redact_body` leave of a message. -/
structure Contents where
  headers : List (String × List Char)
  bodyPreview : Option (List Char)

/-- A request that is not finished: its record so far, and whether its response gets a preview. -/
structure OpenRequest where
  line : RequestLine
  record : LoggedRecord
  previews : Bool := false

/-- The fields of the record that do not come from headers or bodies, when it is finished. -/
structure Completion where
  backend : List Char
  status : Option Nat
  latencyMs : Option Nat
  ttfbMs : Option Nat
  requestBytes : Nat
  responseBytes : Nat
  responseAnalysis : Option ResponseAnalysis
  routingDecision : Option RoutingDecision
  completedAt : Nat

namespace OpenRequest

/-- `proxy_handler`. -/
def arrive (config : DebugLoggingConfig) (requestId backend : List Char) (line : RequestLine) : OpenRequest where
  line := line
  record :=
    { requestId := requestId, backend := backend, requestMeta := if config.level = .off then none else some line.toMeta }

/-- The end of `extract_request`. -/
def extract (config : DebugLoggingConfig) (contents : Contents) (analysis : RequestAnalysis) (req : OpenRequest) : OpenRequest :=
  let found := req.record.requestMeta.getD req.line.toMeta
  let headers := if config.headerPreview then some contents.headers else found.headers
  { req with
    record :=
      { req.record with
        requestMeta :=
          if config.level = .full then some { found with headers := headers, bodyPreview := contents.bodyPreview }
          else req.record.requestMeta
        requestAnalysis := if 2 ≤ config.level.rank then some analysis else req.record.requestAnalysis } }

/-- The start of `handle_response`; a stream gets no preview of zero bytes. -/
def respond (config : DebugLoggingConfig) (isStreaming : Bool) (headers : List (String × List Char)) (req : OpenRequest) :
    OpenRequest :=
  { req with
    previews := config.level = .full && (!isStreaming || config.fullBody || config.bodyPreviewBytes != 0)
    record :=
      { req.record with
        responseMeta :=
          if config.level = .full && config.headerPreview then
            some { req.record.responseMeta.getD {} with headers := some headers }
          else req.record.responseMeta } }

def finish (completion : Completion) (bodyPreview : Option (List Char)) (req : OpenRequest) : LoggedRecord :=
  { req.record with
    backend := completion.backend
    status := completion.status
    latencyMs := completion.latencyMs
    ttfbMs := completion.ttfbMs
    requestBytes := completion.requestBytes
    responseBytes := completion.responseBytes
    responseAnalysis := completion.responseAnalysis
    routingDecision := completion.routingDecision
    completedAt := some completion.completedAt
    responseMeta :=
      if req.previews then some { req.record.responseMeta.getD {} with bodyPreview := bodyPreview }
      else req.record.responseMeta }

end OpenRequest

/-- `app_log` of an error response's body. A status is given with the text that it prints as. -/
def errorBodyEvent (backend statusText shown : List Char) (now : Nat) : AuxiliaryLogEvent where
  timestamp := now
  operation := "upstream".toList
  message := some (withPrefix "Upstream error response body: backend='" backend ++ withPrefix "', status=" statusText ++
    withPrefix ", body=" shown)

structure Traffic where
  logger : Logger
  requests : List OpenRequest := []

inductive TrafficAct where
  | arrive (requestId backend : List Char) (line : RequestLine)
  | extract (k : Nat) (contents : Contents) (analysis : RequestAnalysis)
  | respond (k : Nat) (isStreaming : Bool) (headers : List (String × List Char))
  | logErrorBody (backend : List Char) (status : Nat) (statusText : List Char) (body : List UInt8) (now : Nat)
  | finish (k : Nat) (completion : Completion) (bodyPreview : Option (List Char)) (now : Nat)
  | log (act : LogAct) (other : ∀ record now, act ≠ .postResponse record now)

namespace Traffic
variable (texts : LogTexts)

def step (s : Traffic) : TrafficAct → Traffic
  | .arrive requestId backend line => { s with requests := s.requests ++ [.arrive s.logger.config requestId backend line] }
  | .extract k contents analysis => { s with requests := s.requests.modify k (.extract s.logger.config contents analysis) }
  | .respond k isStreaming headers => { s with requests := s.requests.modify k (.respond s.logger.config isStreaming headers) }
  | .logErrorBody backend status statusText body now =>
    match isSuccess status, errorPreview body with
    | false, .ok shown => { s with logger := s.logger.step texts (.logAuxiliary (errorBodyEvent backend statusText shown now)) }
    | _, _ => s
  | .finish k completion bodyPreview now =>
    match s.requests[k]? with
    | none => s
    | some req =>
      { logger := s.logger.step texts (.postResponse (req.finish completion bodyPreview) now), requests := s.requests.eraseIdx k }
  | .log act _ => { s with logger := s.logger.step texts act }

end Traffic

/-! ### Records without contents -/

def RequestMeta.bare (found : RequestMeta) : RequestMeta := { found with headers := none, bodyPreview := none }

def LoggedFields.bare (fields : LoggedFields) : LoggedFields :=
  { fields with requestMeta := fields.requestMeta.map RequestMeta.bare, responseMeta := none }

def LoggedRecord.bare (record : LoggedRecord) : LoggedRecord := { record with toLoggedFields := record.toLoggedFields.bare }

def OpenRequest.bare (req : OpenRequest) : OpenRequest := { req with record := req.record.bare }

def DebugLogEvent.bare (event : DebugLogEvent) : DebugLogEvent := { event with toLoggedFields := event.toLoggedFields.bare }

def LogEvent.bare : LogEvent → LogEvent
  | .request event => .request event.bare
  | .auxiliary event => .auxiliary event

def Taken.bare (taken : Taken) : Taken := { taken with event := taken.event.bare }

def Logger.bare (s : Logger) : Logger :=
  { s with
    sending := s.sending.map LogEvent.bare
    queue := s.queue.map LogEvent.bare
    received := s.received.map LogEvent.bare
    offered := s.offered.map fun offer => (offer.1.bare, offer.2)
    accepted := s.accepted.map LogEvent.bare
    taken := s.taken.map Taken.bare }

def Traffic.bare (s : Traffic) : Traffic := ⟨s.logger.bare, s.requests.map OpenRequest.bare⟩

/-- The acts differ in what the records take over of headers and bodies, and in what is cut off of
the bodies of error responses. -/
inductive TrafficAct.Alike : TrafficAct → TrafficAct → Prop where
  | same (act : TrafficAct) : Alike act act
  | extract (k : Nat) (contents others : Contents) (analysis : RequestAnalysis) :
      Alike (.extract k contents analysis) (.extract k others analysis)
  | respond (k : Nat) (isStreaming : Bool) (headers others : List (String × List Char)) :
      Alike (.respond k isStreaming headers) (.respond k isStreaming others)
  | logErrorBody (backend : List Char) (status : Nat) (statusText : List Char) (body other : List UInt8) (now : Nat)
      (shown : isSuccess status = false → errorPreview body = errorPreview other) :
      Alike (.logErrorBody backend status statusText body now) (.logErrorBody backend status statusText other now)
  | finish (k : Nat) (completion : Completion) (bodyPreview other : Option (List Char)) (now : Nat) :
      Alike (.finish k completion bodyPreview now) (.finish k completion other now)

namespace OpenRequest

theorem bare_extract (config : DebugLoggingConfig) (contents : Contents) (analysis : RequestAnalysis) (req : OpenRequest) :
    (req.extract config contents analysis).bare = (req.bare.extract config ⟨[], none⟩ analysis).bare := by
  obtain ⟨line, record, previews⟩ := req
  unfold extract bare LoggedRecord.bare LoggedFields.bare
  dsimp only
  by_cases full : config.level = .full
  · rw [if_pos full, if_pos full]
    cases record.requestMeta <;> rfl
  · rw [if_neg full, if_neg full]
    cases record.requestMeta <;> rfl

theorem extract_alike {req other : OpenRequest} (same : req.bare = other.bare) (config : DebugLoggingConfig)
    (contents others : Contents) (analysis : RequestAnalysis) :
    (req.extract config contents analysis).bare = (other.extract config others analysis).bare := by
  rw [bare_extract, same, ← bare_extract]

theorem bare_respond (config : DebugLoggingConfig) (isStreaming : Bool) (headers : List (String × List Char))
    (req : OpenRequest) : (req.respond config isStreaming headers).bare = (req.bare.respond config isStreaming []).bare := by
  obtain ⟨line, record, previews⟩ := req
  unfold respond bare LoggedRecord.bare LoggedFields.bare
  dsimp only
  cases record.requestMeta <;> rfl

theorem respond_alike {req other : OpenRequest} (same : req.bare = other.bare) (config : DebugLoggingConfig)
    (isStreaming : Bool) (headers others : List (String × List Char)) :
    (req.respond config isStreaming headers).bare = (other.respond config isStreaming others).bare := by
  rw [bare_respond, same, ← bare_respond]

theorem bare_finish (completion : Completion) (bodyPreview : Option (List Char)) (req : OpenRequest) :
    (req.finish completion bodyPreview).bare = (req.bare.finish completion none).bare := by
  obtain ⟨line, record, previews⟩ := req
  unfold finish bare LoggedRecord.bare LoggedFields.bare
  dsimp only
  cases record.requestMeta <;> rfl

theorem finish_alike {req other : OpenRequest} (same : req.bare = other.bare) (completion : Completion)
    (bodyPreview preview : Option (List Char)) :
    (req.finish completion bodyPreview).bare = (other.finish completion preview).bare := by
  rw [bare_finish, same, ← bare_finish]

end OpenRequest

/-! ### Steps of runs that are alike -/

theorem modify_alike {A B : Type} {view : A → B} {f g : A → A} (alike : ∀ x y, view x = view y → view (f x) = view (g y))
    {items others : List A} (same : items.map view = others.map view) (k : Nat) :
    (items.modify k f).map view = (others.modify k g).map view := by
  apply List.ext_getElem?
  intro i
  have here : (items[i]?).map view = (others[i]?).map view := by
    rw [← List.getElem?_map, same, List.getElem?_map]
  rw [List.getElem?_map, List.getElem?_map, List.getElem?_modify, List.getElem?_modify]
  cases found : items[i]? with
  | none =>
    rw [found] at here
    rw [Option.map_eq_none_iff.mp here.symm]
    rfl
  | some x =>
    rw [found] at here
    obtain ⟨y, other, xy⟩ := Option.map_eq_some_iff.mp here.symm
    rw [other]
    by_cases at_ : k = i
    · simp [at_, alike x y xy.symm]
    · simp [at_, xy]

namespace Logger
variable {texts : LogTexts}

theorem bare_trySend (k : Nat) (s : Logger) : (s.trySend k).bare = s.bare.trySend k := by
  unfold trySend
  have found : s.bare.sending[k]? = (s.sending[k]?).map LogEvent.bare := List.getElem?_map
  rw [found]
  cases s.sending[k]? with
  | none => rfl
  | some event =>
    have sized : s.bare.queue.length = s.queue.length := List.length_map _
    rw [Option.map_some]
    dsimp only
    rw [sized]
    split
    · simp [bare, List.eraseIdx_map]
    · simp [bare, List.eraseIdx_map]

theorem bare_recv (s : Logger) : s.recv.bare = s.bare.recv := by
  unfold recv
  cases received : s.received with
  | none =>
    cases queue : s.queue with
    | nil => simp [bare, received, queue]
    | cons event rest => simp [bare, received, queue]
  | some event => simp [bare, received]

theorem bare_send (event : LogEvent) (s : Logger) :
    (if s.config.level = .off then s else { s with sending := s.sending ++ [event] }).bare =
      if s.config.level = .off then s.bare else { s.bare with sending := s.bare.sending ++ [event.bare] } := by
  split
  · rfl
  · simp only [bare, List.map_append, List.map_cons, List.map_nil]

theorem bare_postResponse (record : LoggedRecord) (now : Nat) (s : Logger) :
    (s.step texts (.postResponse record now)).bare = s.bare.step texts (.postResponse record.bare now) :=
  bare_send (.request (.fromRecord record s.config.level now)) s

theorem bare_logAuxiliary (event : AuxiliaryLogEvent) (s : Logger) :
    (s.step texts (.logAuxiliary event)).bare = s.bare.step texts (.logAuxiliary event) :=
  bare_send (.auxiliary event) s

/-- The lines of an event, where its settings want them. -/
def place (config : DebugLoggingConfig) (lineConsole lineFile : List Char) (s : Logger) : Logger :=
  if config.level = .off then s
  else
    match config.destination with
    | .stderr => s.writeStderr lineConsole
    | .file => s.writeFile config lineFile
    | .both => (s.writeStderr lineConsole).writeFile config lineFile

theorem writeTaken_eq (taken : Taken) (s : Logger) :
    s.writeTaken texts taken =
      place taken.config (taken.lineConsole texts) (taken.lineFile texts)
        { s with received := none, taken := s.taken ++ [taken] } := rfl

theorem bare_writeFile (config : DebugLoggingConfig) (line : List Char) (s : Logger) :
    (s.writeFile config line).bare = s.bare.writeFile config line := by
  unfold writeFile ensureFileWriter
  by_cases stderr : config.destination = .stderr
  · rw [if_pos stderr, if_pos stderr]
    rfl
  · rw [if_neg stderr, if_neg stderr]
    by_cases same : s.lastFilePath = some config.filePath
    · rw [if_pos same, if_pos (show s.bare.lastFilePath = _ from same)]
      rfl
    · rw [if_neg same, if_neg (show ¬ s.bare.lastFilePath = _ from same)]
      rfl

theorem bare_place (config : DebugLoggingConfig) (lineConsole lineFile : List Char) (s : Logger) :
    (place config lineConsole lineFile s).bare = place config lineConsole lineFile s.bare := by
  unfold place
  split
  · rfl
  · split
    · rfl
    · exact bare_writeFile _ _ _
    · exact bare_writeFile _ _ _

theorem writeTaken_alike {s other : Logger} (same : s.bare = other.bare) {taken otherTaken : Taken}
    (alike : taken.bare = otherTaken.bare)
    (lines : taken.config.level ≠ .off → ∀ useColor,
      formatEvent texts taken.config useColor taken.event = formatEvent texts taken.config useColor otherTaken.event) :
    (s.writeTaken texts taken).bare = (other.writeTaken texts otherTaken).bare := by
  obtain ⟨event, config, isTerminal⟩ := taken
  obtain ⟨otherEvent, otherConfig, otherTerminal⟩ := otherTaken
  have parts := alike
  rw [Taken.bare, Taken.bare, Taken.mk.injEq] at parts
  obtain ⟨_, rfl, rfl⟩ := parts
  have history : s.taken.map Taken.bare = other.taken.map Taken.bare := congrArg Logger.taken same
  have grown : (s.taken ++ [Taken.mk event config isTerminal]).map Taken.bare =
      (other.taken ++ [Taken.mk otherEvent config isTerminal]).map Taken.bare := by
    rw [List.map_append, List.map_append, history, List.map_singleton, List.map_singleton, alike]
  have started : Logger.bare { s with received := none, taken := s.taken ++ [Taken.mk event config isTerminal] } =
      Logger.bare { other with received := none, taken := other.taken ++ [Taken.mk otherEvent config isTerminal] } :=
    congrArg₂ (fun (s : Logger) taken => { s with received := none, taken := taken }) same grown
  rw [writeTaken_eq, writeTaken_eq, bare_place, bare_place, started]
  by_cases off : config.level = .off
  · rw [place, if_pos off, place, if_pos off]
  · rw [Taken.lineConsole, Taken.lineConsole, Taken.lineFile, Taken.lineFile, lines off, lines off]

end Logger

/-! ### Lines without contents -/

/-- The line of the event shows nothing of headers and bodies. -/
def Hidden (config : DebugLoggingConfig) : LogEvent → Prop
  | .request event => config.format = .console ∧ event.level.min config.level ≠ .full
  | .auxiliary _ => True

section
variable {texts : LogTexts}

theorem rank_lt_of_ne_full {level : DebugLogLevel} (below : level ≠ .full) : ¬ 3 ≤ level.rank := by
  cases level with
  | full => exact absurd rfl below
  | _ => decide

theorem basicPart_bare (event : DebugLogEvent) (useColor : Bool) :
    basicPart event.bare useColor = basicPart event useColor := by
  unfold basicPart DebugLogEvent.bare LoggedFields.bare
  dsimp only
  cases event.requestMeta <;> rfl

theorem formatEvent_bare {config : DebugLoggingConfig} {event : LogEvent} (hidden : Hidden config event) (useColor : Bool) :
    formatEvent texts config useColor event.bare = formatEvent texts config useColor event := by
  cases event with
  | auxiliary event => rfl
  | request event =>
    obtain ⟨console, below⟩ := hidden
    unfold formatEvent LogEvent.bare
    dsimp only
    rw [console]
    dsimp only
    have level : event.bare.level = event.level := rfl
    rw [formatConsole, formatConsole, level, if_neg (rank_lt_of_ne_full below), if_neg (rank_lt_of_ne_full below),
      basicPart_bare]
    rfl

theorem hidden_bare {config : DebugLoggingConfig} {event other : LogEvent} (same : event.bare = other.bare)
    (hidden : Hidden config event) : Hidden config other := by
  cases event with
  | auxiliary event =>
    cases other with
    | auxiliary other => trivial
    | request other => cases same
  | request event =>
    cases other with
    | auxiliary other => cases same
    | request other =>
      have events : event.bare = other.bare := LogEvent.request.inj same
      have level : event.level = other.level := show event.bare.level = other.bare.level from congrArg _ events
      obtain ⟨console, below⟩ := hidden
      exact ⟨console, level ▸ below⟩

theorem formatEvent_alike {config : DebugLoggingConfig} {event other : LogEvent} (same : event.bare = other.bare)
    (hidden : Hidden config event) (useColor : Bool) :
    formatEvent texts config useColor event = formatEvent texts config useColor other := by
  rw [← formatEvent_bare hidden, same, formatEvent_bare (hidden_bare same hidden)]

/-- The event with this preview of its response. -/
def DebugLogEvent.previewing (event : DebugLogEvent) (bodyPreview : Option (List Char)) : DebugLogEvent :=
  { event with responseMeta := bodyPreview.map fun text => { bodyPreview := some text } }

theorem formatConsole_previewing (event : DebugLogEvent) (useColor : Bool) :
    formatConsole texts (event.previewing none) .full useColor ≠ formatConsole texts (event.previewing (some [])) .full useColor := by
  have full : 3 ≤ DebugLogLevel.full.rank := Nat.le_refl 3
  intro same
  rw [formatConsole, formatConsole, if_pos full, if_pos full] at same
  have parts := List.append_cancel_left
    (show (basicPart event useColor ++ if 2 ≤ DebugLogLevel.full.rank then verbosePart event else []) ++ _ =
      (basicPart event useColor ++ if 2 ≤ DebugLogLevel.full.rank then verbosePart event else []) ++ _ from same)
  rw [fullPart, fullPart] at parts
  have previews := List.append_cancel_left parts
  cases previews

/-- A line in console format is the same whatever headers and bodies its event has, exactly below
the full level. -/
theorem hidden_iff (settings : DebugLoggingConfig) (event : LogEvent) :
    let console := { settings with format := .console }
    Hidden console event ↔ ∀ other useColor, other.bare = event.bare →
      formatEvent texts console useColor other = formatEvent texts console useColor event := by
  intro console
  constructor
  · intro hidden other useColor same
    exact (formatEvent_alike same.symm hidden useColor).symm
  · intro constant
    cases event with
    | auxiliary event => trivial
    | request event =>
      refine ⟨rfl, fun full => ?_⟩
      have previews : formatConsole texts (event.previewing none) (event.level.min settings.level) false =
          formatConsole texts (event.previewing (some [])) (event.level.min settings.level) false :=
        (constant (.request (event.previewing none)) false rfl).trans
          (constant (.request (event.previewing (some []))) false rfl).symm
      rw [show event.level.min settings.level = .full from full] at previews
      exact formatConsole_previewing event false previews

theorem formatAuxiliaryConsole_errorBody (backend statusText : List Char) (now : Nat) (useColor : Bool) :
    ∃ start, ∀ shown,
      formatAuxiliaryConsole texts (errorBodyEvent backend statusText shown now) useColor = start ++ shown := by
  let line := formatAuxiliaryConsole texts (errorBodyEvent backend statusText [] now) useColor
  refine ⟨line, fun shown => ?_⟩
  simp only [line, formatAuxiliaryConsole, errorBodyEvent, withPrefix, Option.map_some, Option.map_none, Option.getD_some,
    Option.getD_none, List.append_nil, List.append_assoc, List.cons_append]

/-- A line in console format shows what is logged of an error response's body, at every level. -/
theorem errorBody_shown_iff (settings : DebugLoggingConfig) (useColor : Bool) (backend statusText shown other : List Char)
    (now : Nat) :
    let console := { settings with format := .console }
    formatEvent texts console useColor (.auxiliary (errorBodyEvent backend statusText shown now)) =
        formatEvent texts console useColor (.auxiliary (errorBodyEvent backend statusText other now)) ↔
      shown = other := by
  intro console
  obtain ⟨start, line⟩ := @formatAuxiliaryConsole_errorBody texts backend statusText now useColor
  have shows (body : List Char) :
      formatEvent texts console useColor (.auxiliary (errorBodyEvent backend statusText body now)) = start ++ body :=
    line body
  rw [shows, shows, List.append_cancel_left_eq]

end

/-! ### Runs that are alike -/

/-- The fields have neither headers nor body previews. -/
structure LoggedFields.HasNone (fields : LoggedFields) : Prop where
  request : fields.requestMeta.map RequestMeta.bare = fields.requestMeta
  response : fields.responseMeta = none

def LogEvent.HasNone : LogEvent → Prop
  | .request event => event.toLoggedFields.HasNone
  | .auxiliary _ => True

theorem LogEvent.bare_eq_self {event : LogEvent} (empty : event.HasNone) : event.bare = event := by
  cases event with
  | auxiliary event => rfl
  | request event =>
    have fields : event.toLoggedFields.bare = event.toLoggedFields := by
      rw [LoggedFields.bare, empty.request, ← empty.response]
    rw [LogEvent.bare, DebugLogEvent.bare, fields]

namespace OpenRequest

theorem arrive_hasNone (config : DebugLoggingConfig) (requestId backend : List Char) (line : RequestLine) :
    (arrive config requestId backend line).record.HasNone := by
  refine ⟨?_, rfl⟩
  unfold arrive
  dsimp only
  split <;> rfl

theorem extract_hasNone {config : DebugLoggingConfig} (below : config.level ≠ .full) {req : OpenRequest}
    (empty : req.record.HasNone) (contents : Contents) (analysis : RequestAnalysis) :
    (req.extract config contents analysis).record.HasNone := by
  refine ⟨?_, empty.response⟩
  unfold extract
  dsimp only
  rw [if_neg below]
  exact empty.request

theorem respond_hasNone {config : DebugLoggingConfig} (below : config.level ≠ .full) {req : OpenRequest}
    (empty : req.record.HasNone) (isStreaming : Bool) (headers : List (String × List Char)) :
    (req.respond config isStreaming headers).record.HasNone ∧ (req.respond config isStreaming headers).previews = false := by
  refine ⟨⟨empty.request, ?_⟩, ?_⟩
  · unfold respond
    dsimp only
    rw [decide_eq_false below, Bool.false_and, if_neg Bool.false_ne_true]
    exact empty.response
  · unfold respond
    dsimp only
    rw [decide_eq_false below, Bool.false_and]

theorem finish_hasNone {req : OpenRequest} (empty : req.record.HasNone) (unpreviewed : req.previews = false)
    (completion : Completion) (bodyPreview : Option (List Char)) : (req.finish completion bodyPreview).HasNone := by
  refine ⟨empty.request, ?_⟩
  unfold finish
  dsimp only
  rw [unpreviewed, if_neg Bool.false_ne_true]
  exact empty.response

end OpenRequest

theorem forall_mem_modify {A : Type} {P : A → Prop} {f : A → A} {items : List A} (keeps : ∀ x, P x → P (f x))
    (all : ∀ x ∈ items, P x) (k : Nat) : ∀ x ∈ items.modify k f, P x := by
  intro x member
  obtain ⟨i, found⟩ := List.mem_iff_getElem?.mp member
  rw [List.getElem?_modify] at found
  obtain ⟨original, listed, rfl⟩ := Option.map_eq_some_iff.mp found
  split
  · exact keeps _ (all _ (List.mem_of_getElem? listed))
  · exact all _ (List.mem_of_getElem? listed)

namespace Logger
variable {texts : LogTexts}

/-- The events that are yet to be written. -/
def pending (s : Logger) : List LogEvent := s.sending ++ (s.queue ++ s.received.toList)

theorem writeTaken_pending (taken : Taken) (s : Logger) : (s.writeTaken texts taken).pending = s.sending ++ s.queue := by
  rw [writeTaken_eq, place]
  have written (line : List Char) (stderr : List (List Char)) :
      (writeFile taken.config line { s with received := none, taken := s.taken ++ [taken], stderr := stderr }).pending =
        s.sending ++ s.queue := by
    obtain ⟨_, _, _, same⟩ := writeFile_frame taken.config line
      { s with received := none, taken := s.taken ++ [taken], stderr := stderr }
    rw [same]
    simp [pending]
  split
  · simp [pending]
  · split
    · simp [pending, writeStderr]
    · exact written _ _
    · exact written _ _

theorem trySend_pending (s : Logger) (k : Nat) : (s.trySend k).pending ⊆ s.pending := by
  intro event member
  unfold trySend at member
  split at member
  · exact member
  · rename_i offered found
    have sent : offered ∈ s.sending := List.mem_of_getElem? found
    dsimp only at member
    split at member
    · simp only [pending, List.mem_append, List.mem_singleton] at member ⊢
      rcases member with kept | (waiting | rfl) | held
      · exact .inl (List.mem_of_mem_eraseIdx kept)
      · exact .inr (.inl waiting)
      · exact .inl sent
      · exact .inr (.inr held)
    · simp only [pending, List.mem_append] at member ⊢
      exact member.imp_left List.mem_of_mem_eraseIdx

theorem recv_pending (s : Logger) : s.recv.pending ⊆ s.pending := by
  intro event member
  unfold recv at member
  split at member
  · rename_i first rest idle waiting
    simp only [pending, List.mem_append, Option.toList_some, idle, waiting, List.mem_cons, List.not_mem_nil, or_false]
      at member ⊢
    rcases member with sending | queued | rfl
    · exact .inl sending
    · exact .inr (.inl (.inr queued))
    · exact .inr (.inl (.inl rfl))
  · exact member

theorem write_pending (isTerminal : Bool) (s : Logger) : (s.write texts isTerminal).pending ⊆ s.pending := by
  intro event member
  unfold write at member
  split at member
  · exact member
  · rw [writeTaken_pending] at member
    simp only [pending, List.mem_append] at member ⊢
    exact member.imp_right .inl

theorem mem_pending_send {s : Logger} {event sent : LogEvent}
    (member : event ∈ pending { s with sending := s.sending ++ [sent] }) : event ∈ s.pending ∨ event = sent := by
  simp only [pending, List.mem_append, List.mem_singleton] at member ⊢
  rcases member with (earlier | same) | later
  · exact .inl (.inl earlier)
  · exact .inr same
  · exact .inl (.inr later)

/-- Only a caller of the logger adds to what is yet to be written. -/
theorem pending_step {s : Logger} {act : LogAct} {event : LogEvent} (own : ∀ record now, act ≠ .postResponse record now)
    (member : event ∈ (s.step texts act).pending) : event ∈ s.pending ∨ ∃ auxiliary, event = .auxiliary auxiliary := by
  cases act with
  | setConfig config => exact .inl member
  | postResponse record now => exact absurd rfl (own record now)
  | logAuxiliary auxiliary =>
    unfold step at member
    dsimp only at member
    split at member
    · exact .inl member
    · exact (mem_pending_send member).imp_right fun same => ⟨auxiliary, same⟩
  | trySend k => exact .inl (trySend_pending s k member)
  | recv => exact .inl (recv_pending s member)
  | write isTerminal => exact .inl (write_pending isTerminal s member)

end Logger

namespace Traffic

/-- No headers or bodies are taken over. -/
def NeverFull (s : Traffic) : TrafficAct → Prop
  | .extract .. | .respond .. => s.logger.config.level ≠ .full
  | _ => True

/-- A line that is written shows nothing of headers and bodies. -/
def Hides (s : Traffic) : TrafficAct → Prop
  | .log (.write _) _ => ∀ event, s.logger.received = some event → s.logger.config.level = .off ∨ Hidden s.logger.config event
  | _ => True

/-- Nothing that is yet to be logged has taken over headers or bodies. -/
structure Empty (s : Traffic) : Prop where
  requests : ∀ req ∈ s.requests, req.record.HasNone ∧ req.previews = false
  events : ∀ event ∈ s.logger.pending, event.HasNone

variable {texts : LogTexts}

/-- The event that is written is the same in both runs, or its line is. -/
def WritesAlike (s other : Traffic) : TrafficAct → Prop
  | .log (.write _) _ =>
    ∀ event otherEvent, s.logger.received = some event → other.logger.received = some otherEvent →
      event = otherEvent ∨ s.logger.config.level = .off ∨ Hidden s.logger.config event
  | _ => True

theorem config_alike {s other : Traffic} (same : s.bare = other.bare) : s.logger.config = other.logger.config :=
  show s.bare.logger.config = other.bare.logger.config from congrArg (fun s => s.logger.config) same

theorem bare_eq_iff {s other : Traffic} :
    s.bare = other.bare ↔ s.logger.bare = other.logger.bare ∧
      s.requests.map OpenRequest.bare = other.requests.map OpenRequest.bare := by
  rw [bare, bare, Traffic.mk.injEq]

theorem write_alike {s other : Logger} (same : s.bare = other.bare) (isTerminal : Bool)
    (alike : ∀ event otherEvent, s.received = some event → other.received = some otherEvent →
      event = otherEvent ∨ s.config.level = .off ∨ Hidden s.config event) :
    (s.write texts isTerminal).bare = (other.write texts isTerminal).bare := by
  have config : s.config = other.config := show s.bare.config = other.bare.config from congrArg _ same
  have received : s.received.map LogEvent.bare = other.received.map LogEvent.bare := congrArg Logger.received same
  unfold Logger.write
  cases found : s.received with
  | none =>
    rw [found] at received
    rw [Option.map_eq_none_iff.mp received.symm]
    exact same
  | some event =>
    rw [found] at received
    obtain ⟨otherEvent, otherFound, events⟩ := Option.map_eq_some_iff.mp received.symm
    rw [otherFound, ← config]
    have taken : Taken.bare ⟨event, s.config, isTerminal⟩ = Taken.bare ⟨otherEvent, s.config, isTerminal⟩ := by
      rw [Taken.bare, Taken.bare, events]
    refine Logger.writeTaken_alike same taken fun on useColor => ?_
    rcases alike event otherEvent found otherFound with rfl | off | hidden
    · rfl
    · exact absurd off on
    · exact formatEvent_alike events.symm hidden useColor

theorem log_alike {s other : Traffic} (same : s.bare = other.bare) {act : LogAct}
    (own : ∀ record now, act ≠ .postResponse record now) (alike : WritesAlike s other (.log act own)) :
    (s.logger.step texts act).bare = (other.logger.step texts act).bare := by
  have logger := (bare_eq_iff.mp same).1
  cases act with
  | setConfig config => exact congrArg (fun s => { s with config := config }) logger
  | postResponse record now => exact absurd rfl (own record now)
  | logAuxiliary event => rw [Logger.bare_logAuxiliary, logger, ← Logger.bare_logAuxiliary]
  | trySend k => exact (Logger.bare_trySend k _).trans ((congrArg (Logger.trySend k) logger).trans (Logger.bare_trySend k _).symm)
  | recv => exact (Logger.bare_recv _).trans ((congrArg Logger.recv logger).trans (Logger.bare_recv _).symm)
  | write isTerminal => exact write_alike logger isTerminal alike

theorem finish_alike {s other : Traffic} (same : s.bare = other.bare) (k : Nat) (completion : Completion)
    (bodyPreview preview : Option (List Char)) (now : Nat) :
    (s.step texts (.finish k completion bodyPreview now)).bare = (other.step texts (.finish k completion preview now)).bare := by
  obtain ⟨logger, requests⟩ := bare_eq_iff.mp same
  have here : (s.requests[k]?).map OpenRequest.bare = (other.requests[k]?).map OpenRequest.bare := by
    rw [← List.getElem?_map, requests, List.getElem?_map]
  unfold step
  dsimp only
  cases found : s.requests[k]? with
  | none =>
    rw [found] at here
    rw [Option.map_eq_none_iff.mp here.symm]
    exact same
  | some req =>
    rw [found] at here
    obtain ⟨otherReq, otherFound, bare⟩ := Option.map_eq_some_iff.mp here.symm
    rw [otherFound]
    refine bare_eq_iff.mpr ⟨?_, ?_⟩
    · dsimp only
      rw [Logger.bare_postResponse, logger, OpenRequest.finish_alike bare.symm completion bodyPreview preview,
        ← Logger.bare_postResponse]
    · dsimp only
      rw [← List.eraseIdx_map, requests, List.eraseIdx_map]

theorem logErrorBody_alike {s other : Traffic} (same : s.bare = other.bare) (backend statusText : List Char) (now : Nat)
    {status : Nat} {body otherBody : List UInt8} (shown : isSuccess status = false → errorPreview body = errorPreview otherBody) :
    (s.step texts (.logErrorBody backend status statusText body now)).bare =
      (other.step texts (.logErrorBody backend status statusText otherBody now)).bare := by
  obtain ⟨logger, requests⟩ := bare_eq_iff.mp same
  unfold step
  dsimp only
  cases success : isSuccess status with
  | true => exact same
  | false =>
    rw [← shown success]
    cases errorPreview body with
    | error panic => exact same
    | ok preview =>
      refine bare_eq_iff.mpr ⟨?_, requests⟩
      dsimp only
      rw [Logger.bare_logAuxiliary, logger, ← Logger.bare_logAuxiliary]

theorem step_alike {s other : Traffic} (same : s.bare = other.bare) {act otherAct : TrafficAct} (acts : act.Alike otherAct)
    (alike : WritesAlike s other act) : (s.step texts act).bare = (other.step texts otherAct).bare := by
  have config := config_alike same
  obtain ⟨logger, requests⟩ := bare_eq_iff.mp same
  have extracted (k : Nat) (contents others : Contents) (analysis : RequestAnalysis) :
      (s.step texts (.extract k contents analysis)).bare = (other.step texts (.extract k others analysis)).bare := by
    refine bare_eq_iff.mpr ⟨logger, modify_alike (fun x y xy => ?_) requests k⟩
    rw [config]
    exact OpenRequest.extract_alike xy _ contents others analysis
  have responded (k : Nat) (isStreaming : Bool) (headers others : List (String × List Char)) :
      (s.step texts (.respond k isStreaming headers)).bare = (other.step texts (.respond k isStreaming others)).bare := by
    refine bare_eq_iff.mpr ⟨logger, modify_alike (fun x y xy => ?_) requests k⟩
    rw [config]
    exact OpenRequest.respond_alike xy _ isStreaming headers others
  cases acts with
  | same =>
    cases act with
    | arrive requestId backend line =>
      refine bare_eq_iff.mpr ⟨logger, ?_⟩
      unfold step
      dsimp only
      rw [List.map_append, List.map_append, requests, config]
    | extract k contents analysis => exact extracted k contents contents analysis
    | respond k isStreaming headers => exact responded k isStreaming headers headers
    | logErrorBody backend status statusText body now => exact logErrorBody_alike same backend statusText now fun _ => rfl
    | finish k completion bodyPreview now => exact finish_alike same k completion bodyPreview bodyPreview now
    | log act own => exact bare_eq_iff.mpr ⟨log_alike same own alike, requests⟩
  | extract k contents others analysis => exact extracted k contents others analysis
  | respond k isStreaming headers others => exact responded k isStreaming headers others
  | logErrorBody backend status statusText body other now shown =>
    exact logErrorBody_alike same backend statusText now shown
  | finish k completion bodyPreview preview now => exact finish_alike same k completion bodyPreview preview now

/-! ### Whole runs -/

theorem pending_empty {s : Traffic} (empty : s.Empty) {act : LogAct} (own : ∀ record now, act ≠ .postResponse record now) :
    ∀ event ∈ (s.logger.step texts act).pending, event.HasNone := by
  intro event member
  rcases Logger.pending_step own member with earlier | ⟨auxiliary, rfl⟩
  · exact empty.events event earlier
  · trivial

theorem step_empty {s : Traffic} {act : TrafficAct} (empty : s.Empty) (never : s.NeverFull act) : (s.step texts act).Empty := by
  cases act with
  | arrive requestId backend line =>
    refine ⟨List.forall_mem_append.mpr ⟨empty.requests, List.forall_mem_singleton.mpr ?_⟩, empty.events⟩
    exact ⟨OpenRequest.arrive_hasNone _ requestId backend line, rfl⟩
  | extract k contents analysis =>
    refine ⟨forall_mem_modify (fun req old => ?_) empty.requests k, empty.events⟩
    exact ⟨OpenRequest.extract_hasNone never old.1 contents analysis, old.2⟩
  | respond k isStreaming headers =>
    refine ⟨forall_mem_modify (fun req old => ?_) empty.requests k, empty.events⟩
    exact OpenRequest.respond_hasNone never old.1 isStreaming headers
  | logErrorBody backend status statusText body now =>
    unfold step
    dsimp only
    split
    · exact ⟨empty.requests, pending_empty empty fun _ _ => LogAct.noConfusion⟩
    · exact empty
  | finish k completion bodyPreview now =>
    unfold step
    dsimp only
    split
    · exact empty
    · rename_i req found
      obtain ⟨old, unpreviewed⟩ := empty.requests req (List.mem_of_getElem? found)
      refine ⟨fun req member => empty.requests req (List.mem_of_mem_eraseIdx member), fun event member => ?_⟩
      unfold Logger.step at member
      dsimp only at member
      split at member
      · exact empty.events event member
      · rcases Logger.mem_pending_send member with earlier | rfl
        · exact empty.events event earlier
        · exact OpenRequest.finish_hasNone old unpreviewed completion bodyPreview
  | log act own => exact ⟨empty.requests, pending_empty empty own⟩

theorem received_hasNone {s : Traffic} (empty : s.Empty) {event : LogEvent} (received : s.logger.received = some event) :
    event.HasNone := by
  apply empty.events
  rw [Logger.pending, received]
  exact List.mem_append_right _ (List.mem_append_right _ List.mem_cons_self)

theorem writesAlike_of_empty {s other : Traffic} (same : s.bare = other.bare) (empty : s.Empty) (otherEmpty : other.Empty)
    (act : TrafficAct) : WritesAlike s other act := by
  unfold WritesAlike
  split
  · intro event otherEvent found otherFound
    have received : s.logger.received.map LogEvent.bare = other.logger.received.map LogEvent.bare :=
      congrArg (fun s => s.logger.received) same
    rw [found, otherFound, Option.map_some, Option.map_some, Option.some.injEq,
      LogEvent.bare_eq_self (received_hasNone empty found), LogEvent.bare_eq_self (received_hasNone otherEmpty otherFound)]
      at received
    exact .inl received
  · trivial

theorem neverFull_alike {s other : Traffic} (same : s.bare = other.bare) {act otherAct : TrafficAct} (acts : act.Alike otherAct)
    (never : s.NeverFull act) : other.NeverFull otherAct := by
  have config := config_alike same
  cases acts with
  | same =>
    unfold NeverFull at never ⊢
    rw [← config]
    exact never
  | extract k contents others analysis => exact fun full => never ((congrArg DebugLoggingConfig.level config).trans full)
  | respond k isStreaming headers others => exact fun full => never ((congrArg DebugLoggingConfig.level config).trans full)
  | logErrorBody => trivial
  | finish => trivial

theorem run_neverFull {s other : Traffic} (same : s.bare = other.bare) (empty : s.Empty) (otherEmpty : other.Empty)
    {acts others : List TrafficAct} (alike : List.Forall₂ TrafficAct.Alike acts others)
    (never : Along (step texts) NeverFull s acts) : (run (step texts) s acts).bare = (run (step texts) other others).bare := by
  induction alike generalizing s other with
  | nil => exact same
  | cons acts _ ih =>
    have next : (step texts s _).bare = (step texts other _).bare :=
      step_alike same acts (writesAlike_of_empty same empty otherEmpty _)
    exact ih next (step_empty empty never.1) (step_empty otherEmpty (neverFull_alike same acts never.1)) never.2

theorem run_hides {s other : Traffic} (same : s.bare = other.bare) {acts others : List TrafficAct}
    (alike : List.Forall₂ TrafficAct.Alike acts others) (hides : Along (step texts) Hides s acts) :
    (run (step texts) s acts).bare = (run (step texts) other others).bare := by
  induction alike generalizing s other with
  | nil => exact same
  | @cons act otherAct _ _ acts _ ih =>
    have writes : WritesAlike s other act := by
      have hidden := hides.1
      unfold Hides at hidden
      unfold WritesAlike
      split
      · exact fun event _ found _ => .inr (hidden event found)
      · trivial
    exact ih (step_alike same acts writes) hides.2

theorem empty_fresh (config : DebugLoggingConfig) : Empty ⟨{ config := config }, []⟩ := by
  refine ⟨fun req member => ?_, fun event member => ?_⟩
  · cases member
  · cases member

/-- Two runs that differ only in what the records take over, and in what is cut off of the bodies of
error responses, leave the same log, if the level is below full whenever headers or a body could be
taken over, or if all lines of requests are written in console format below the full level. In that
format no higher level hides them, and no level hides the rest of an error response's body. -/
theorem log_hides_contents (config : DebugLoggingConfig) {acts others : List TrafficAct}
    (alike : List.Forall₂ TrafficAct.Alike acts others) :
    let shown := (run (step texts) ⟨{ config := config }, []⟩ acts).logger
    let otherShown := (run (step texts) ⟨{ config := config }, []⟩ others).logger
    (Along (step texts) NeverFull ⟨{ config := config }, []⟩ acts ∨ Along (step texts) Hides ⟨{ config := config }, []⟩ acts →
      shown.stderr = otherShown.stderr ∧ shown.files = otherShown.files) ∧
    ∀ settings : DebugLoggingConfig,
      let console := { settings with format := .console }
      (∀ event, Hidden console event ↔ ∀ other useColor, other.bare = event.bare →
        formatEvent texts console useColor other = formatEvent texts console useColor event) ∧
      ∀ useColor backend statusText body otherBody now,
        formatEvent texts console useColor (.auxiliary (errorBodyEvent backend statusText body now)) =
          formatEvent texts console useColor (.auxiliary (errorBodyEvent backend statusText otherBody now)) ↔
        body = otherBody := by
  intro shown otherShown
  refine ⟨fun discreet => ?_, fun settings => ⟨hidden_iff settings, errorBody_shown_iff settings⟩⟩
  have same : (run (step texts) ⟨{ config := config }, []⟩ acts).bare =
      (run (step texts) ⟨{ config := config }, []⟩ others).bare := by
    rcases discreet with never | hides
    · exact run_neverFull rfl (empty_fresh config) (empty_fresh config) alike never
    · exact run_hides rfl alike hides
  have logger : shown.bare = otherShown.bare := congrArg Traffic.logger same
  exact ⟨show shown.bare.stderr = otherShown.bare.stderr from congrArg _ logger,
    show shown.bare.files = otherShown.bare.files from congrArg _ logger⟩

/-! ### One request -/

def ownPath : RequestLine := ⟨"POST".toList, "/v1/messages".toList, none⟩

def completed : Completion := ⟨"kimi".toList, some 200, some 12, some 3, 2, 5, none, none, 1700000000000⟩

def oneRequest (secret : List Char) : List TrafficAct :=
  [.arrive ['1'] "kimi".toList ownPath, .extract 0 ⟨[("x-note", secret)], some secret⟩ {},
    .respond 0 false [("set-note", secret)], .logErrorBody "kimi".toList 200 "200 OK".toList (utf8 secret) 0,
    .finish 0 completed (some secret) 0, .log (.trySend 0) fun _ _ => LogAct.noConfusion,
    .log .recv fun _ _ => LogAct.noConfusion, .log (.write false) fun _ _ => LogAct.noConfusion]

def verboseConsole : DebugLoggingConfig := { level := .verbose, format := .console, destination := .both }

/-- Texts of a log that has no line in JSON. -/
def asciiTexts : LogTexts where
  tables := Proxy.asciiTables
  toUppercase text := text.map Char.toUpper
  printJson _ := []

theorem verbose_request_hidden :
    let shown := (run (step asciiTexts) ⟨{ config := verboseConsole }, []⟩ (oneRequest "one".toList)).logger
    let otherShown := (run (step asciiTexts) ⟨{ config := verboseConsole }, []⟩ (oneRequest "other".toList)).logger
    shown.stderr = otherShown.stderr ∧ shown.files = otherShown.files := by
  have alike : List.Forall₂ TrafficAct.Alike (oneRequest "one".toList) (oneRequest "other".toList) :=
    .cons (.same _) (.cons (.extract _ _ _ _) (.cons (.respond _ _ _ _)
      (.cons (.logErrorBody _ _ _ _ _ _ fun failure => nomatch failure) (.cons (.finish _ _ _ _ _)
        (.cons (.same _) (.cons (.same _) (.cons (.same _) .nil)))))))
  have never : Along (step asciiTexts) NeverFull ⟨{ config := verboseConsole }, []⟩ (oneRequest "one".toList) := by
    refine ⟨trivial, ?_, ?_, trivial, trivial, trivial, trivial, trivial, trivial⟩
    · exact fun full => nomatch full
    · exact fun full => nomatch full
  exact (log_hides_contents verboseConsole alike).1 (.inl never)

end Traffic

end Anycode.Metrics
