import Anycode.Config.Types
import Anycode.Metrics.Hub
import Anycode.Metrics.Preview
import Anycode.Proxy.ModelErrors

/-!
# Lines of the debug log

The events of `metrics/debug_logger.rs` and the lines that they are printed as. Of the analyses the
fields that are printed are here, and a cost is the text that `{:.6}` makes of it.
-/

namespace Anycode.Config

namespace DebugLogLevel

/-- The place of a level in the derived order. -/
def rank : DebugLogLevel → Nat
  | .off => 0
  | .basic => 1
  | .verbose => 2
  | .full => 3

def min (a b : DebugLogLevel) : DebugLogLevel := if a.rank ≤ b.rank then a else b

def name : DebugLogLevel → List Char
  | .off => "off".toList
  | .basic => "basic".toList
  | .verbose => "verbose".toList
  | .full => "full".toList

end DebugLogLevel

end Anycode.Config

namespace Anycode.Metrics
open Config Data Proxy

structure RequestAnalysis where
  model : Option (List Char) := none
  imageCount : Nat := 0
  estimatedInputTokens : Option Nat := none

structure ResponseAnalysis where
  inputTokens : Option Nat := none
  outputTokens : Option Nat := none
  stopReason : Option (List Char) := none
  costUsd : Option (List Char) := none

structure RoutingDecision where
  backend : List Char
  reason : List Char

structure RequestMeta where
  method : List Char
  path : List Char
  query : Option (List Char) := none
  headers : Option (List (String × List Char)) := none
  bodyPreview : Option (List Char) := none

/-- The fields that an event takes over from its record. -/
structure LoggedFields where
  requestId : List Char
  backend : List Char
  status : Option Nat := none
  latencyMs : Option Nat := none
  ttfbMs : Option Nat := none
  requestBytes : Nat := 0
  responseBytes : Nat := 0
  requestAnalysis : Option RequestAnalysis := none
  responseAnalysis : Option ResponseAnalysis := none
  routingDecision : Option RoutingDecision := none
  requestMeta : Option RequestMeta := none
  responseMeta : Option ResponseMeta := none

/-- A point in time is a number of milliseconds since the epoch. -/
structure LoggedRecord extends LoggedFields where
  completedAt : Option Nat := none

structure DebugLogEvent extends LoggedFields where
  timestamp : Nat
  level : DebugLogLevel

def DebugLogEvent.fromRecord (record : LoggedRecord) (level : DebugLogLevel) (now : Nat) : DebugLogEvent :=
  { record.toLoggedFields with timestamp := record.completedAt.getD now, level := level }

structure AuxiliaryLogEvent where
  timestamp : Nat
  operation : List Char
  status : Option Nat := none
  latencyMs : Option Nat := none
  message : Option (List Char) := none
  error : Option (List Char) := none
  requestBody : Option (List Char) := none
  responseBody : Option (List Char) := none

inductive LogEvent where
  | request (event : DebugLogEvent)
  | auxiliary (event : AuxiliaryLogEvent)

/-- What the standard library and the JSON printer know of texts. -/
structure LogTexts where
  tables : CharTables
  toUppercase : List Char → List Char
  printJson : Json → List Char

/-! ### Parts of a line -/

def decimal (n : Nat) : List Char := Nat.toDigits 10 n

def orDash (value : Option (List Char)) : List Char := value.getD ['-']

/-- The milliseconds are not padded. -/
def formatTimestamp (timestamp : Nat) : List Char := decimal (timestamp / 1000) ++ '.' :: decimal (timestamp % 1000)

def colored (code : String) (value : List Char) : List Char :=
  '\x1b' :: '[' :: code.toList ++ 'm' :: value ++ "\x1b[0m".toList

def colorizeStatus (value : List Char) (status : Option Nat) : List Char :=
  if inClass 2 status then colored "32" value
  else if inClass 3 status || inClass 4 status then colored "33" value
  else if inClass 5 status then colored "31" value
  else value

def formatStatusLine (status latencyMs : Option Nat) (useColor : Bool) : List Char × List Char :=
  let shown := status.map decimal
  (orDash (if useColor then shown.map fun value => colorizeStatus value status else shown), orDash (latencyMs.map decimal))

structure TokensSummary where
  inputTokens : List Char
  outputTokens : List Char
  stopReason : List Char
  cost : List Char

def tokensSummary (event : DebugLogEvent) : TokensSummary where
  inputTokens := orDash (((event.responseAnalysis.bind ResponseAnalysis.inputTokens).or
    (event.requestAnalysis.bind RequestAnalysis.estimatedInputTokens)).map decimal)
  outputTokens := orDash ((event.responseAnalysis.bind ResponseAnalysis.outputTokens).map decimal)
  stopReason := orDash (event.responseAnalysis.bind ResponseAnalysis.stopReason)
  cost := orDash (event.responseAnalysis.bind ResponseAnalysis.costUsd)

def withPrefix (text : String) (value : List Char) : List Char := text.toList ++ value

/-- `{:?}` of the headers. -/
def debugHeaders (tables : CharTables) (headers : List (String × List Char)) : List Char :=
  '[' :: List.intercalate ", ".toList (headers.map fun header =>
    '(' :: debugText tables header.1.toList ++ ", ".toList ++ debugText tables header.2 ++ [')']) ++ [']']

/-! ### The console -/

section
variable (texts : LogTexts)

def pathWithQuery (path : List Char) (query : Option (List Char)) : List Char :=
  match query with
  | some value => if value.isEmpty then path else path ++ '?' :: value
  | none => path

def basicPart (event : DebugLogEvent) (useColor : Bool) : List Char :=
  let (method, target) := match event.requestMeta with
    | some found => (found.method, pathWithQuery found.path found.query)
    | none => (['-'], ['-'])
  let (status, latency) := formatStatusLine event.status event.latencyMs useColor
  formatTimestamp event.timestamp ++ ' ' :: method ++ ' ' :: target ++ withPrefix " backend=" event.backend ++
    withPrefix " status=" status ++ withPrefix " latency_ms=" latency

def verbosePart (event : DebugLogEvent) : List Char :=
  let summary := tokensSummary event
  withPrefix "\nmodel=" (orDash (event.requestAnalysis.bind RequestAnalysis.model)) ++
    withPrefix " input_tokens=" summary.inputTokens ++ withPrefix " output_tokens=" summary.outputTokens ++
    withPrefix " images=" (decimal ((event.requestAnalysis.map RequestAnalysis.imageCount).getD 0)) ++
    withPrefix " stop_reason=" summary.stopReason ++
    withPrefix " routing=" (orDash (event.routingDecision.map fun decision => decision.backend ++ ':' :: decision.reason)) ++
    withPrefix " cost_usd=" summary.cost

def shownPreview (tables : CharTables) (headersLabel bodyLabel : String) (headers : Option (List (String × List Char)))
    (bodyPreview : Option (List Char)) : List Char :=
  ((headers.map fun headers => withPrefix headersLabel (debugHeaders tables headers)).getD []) ++
    ((bodyPreview.map (withPrefix bodyLabel)).getD [])

def fullPart (event : DebugLogEvent) : List Char :=
  ((event.requestMeta.map fun found =>
      shownPreview texts.tables "\nrequest_headers=" "\nrequest_body_preview=" found.headers found.bodyPreview).getD []) ++
    ((event.responseMeta.map fun found =>
      shownPreview texts.tables "\nresponse_headers=" "\nresponse_body_preview=" found.headers found.bodyPreview).getD [])

def formatConsole (event : DebugLogEvent) (level : DebugLogLevel) (useColor : Bool) : List Char :=
  basicPart event useColor ++ (if 2 ≤ level.rank then verbosePart event else []) ++
    (if 3 ≤ level.rank then fullPart texts event else [])

def separator : List Char := List.replicate 71 '─'

def indentText (text : List Char) (spaces : Nat) : List Char :=
  List.intercalate ['\n'] ((lines text).map fun line => List.replicate spaces ' ' ++ line)

def formatAuxiliaryConsole (event : AuxiliaryLogEvent) (useColor : Bool) : List Char :=
  let (status, latency) := formatStatusLine event.status event.latencyMs useColor
  let operation := '[' :: texts.toUppercase event.operation ++ [']']
  (if useColor then colored "36" separator else separator) ++ '\n' :: formatTimestamp event.timestamp ++
    ' ' :: (if useColor then colored "1;33" operation else operation) ++ withPrefix " status=" status ++
    withPrefix " latency_ms=" latency ++ ((event.message.map (withPrefix "\n  message: ")).getD []) ++
    ((event.error.map fun error => withPrefix "\n  error: " (if useColor then colored "31" error else error)).getD []) ++
    ((event.requestBody.map fun body => withPrefix "\n  request_body:\n" (indentText body 4)).getD []) ++
    ((event.responseBody.map fun body => withPrefix "\n  response_body:\n" (indentText body 4)).getD [])

end

/-! ### JSON -/

def jsonText (text : List Char) : Json := .string (String.ofList text)

def jsonNumber (n : Nat) : Json := .number (.posInt (UInt64.ofNat n))

def jsonOr {A : Type} (f : A → Json) (value : Option A) : Json := (value.map f).getD .null

def headersJson (headers : List (String × List Char)) : Json :=
  .array (headers.map fun header => .array [.string header.1, jsonText header.2])

def RequestMeta.toJson (found : RequestMeta) : Json :=
  .object [("body_preview", jsonOr jsonText found.bodyPreview), ("headers", jsonOr headersJson found.headers),
    ("method", jsonText found.method), ("path", jsonText found.path), ("query", jsonOr jsonText found.query)]

def ResponseMeta.toJson (found : ResponseMeta) : Json :=
  .object [("body_preview", jsonOr jsonText found.bodyPreview), ("headers", jsonOr headersJson found.headers)]

def formatJson (texts : LogTexts) (event : DebugLogEvent) (level : DebugLogLevel) : List Char :=
  let summary := tokensSummary event
  texts.printJson (.object
    [("backend", jsonText event.backend), ("cost_usd", jsonText summary.cost),
      ("images", jsonOr (fun analysis => jsonNumber analysis.imageCount) event.requestAnalysis),
      ("input_tokens", jsonText summary.inputTokens), ("latency_ms", jsonOr jsonNumber event.latencyMs),
      ("level", jsonText level.name), ("method", jsonText ((event.requestMeta.map RequestMeta.method).getD ['-'])),
      ("model", jsonOr jsonText (event.requestAnalysis.bind RequestAnalysis.model)),
      ("output_tokens", jsonText summary.outputTokens),
      ("path", jsonText ((event.requestMeta.map RequestMeta.path).getD ['-'])),
      ("query", jsonOr jsonText (event.requestMeta.bind RequestMeta.query)),
      ("request", jsonOr RequestMeta.toJson event.requestMeta), ("request_bytes", jsonNumber event.requestBytes),
      ("request_id", jsonText event.requestId), ("response", jsonOr ResponseMeta.toJson event.responseMeta),
      ("response_bytes", jsonNumber event.responseBytes),
      ("routing", jsonOr (fun decision => .object [("backend", jsonText decision.backend), ("reason", jsonText decision.reason)])
        event.routingDecision),
      ("status", jsonOr jsonNumber event.status), ("stop_reason", jsonText summary.stopReason),
      ("ts", jsonText (formatTimestamp event.timestamp)), ("ttfb_ms", jsonOr jsonNumber event.ttfbMs)])

def formatAuxiliaryJson (texts : LogTexts) (event : AuxiliaryLogEvent) : List Char :=
  texts.printJson (.object
    [("error", jsonOr jsonText event.error), ("latency_ms", jsonOr jsonNumber event.latencyMs),
      ("message", jsonOr jsonText event.message), ("operation", jsonText event.operation),
      ("request_body", jsonOr jsonText event.requestBody), ("response_body", jsonOr jsonText event.responseBody),
      ("status", jsonOr jsonNumber event.status), ("ts", jsonText (formatTimestamp event.timestamp)),
      ("type", .string "auxiliary")])

end Anycode.Metrics
