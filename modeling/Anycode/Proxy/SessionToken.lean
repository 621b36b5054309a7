import Anycode.Metrics.Redaction
import Anycode.Pipeline.CredentialIsolation

/-!
# The session token

The check of `auth_middleware`, and where a token that it accepts turns up: in the headers that
are sent upstream and in the headers that are logged.
-/

namespace Anycode.Proxy
open Data Config Pipeline Metrics

structure Rejection where
  status : Nat
  body : String
  deriving DecidableEq

/-- The token in one of its three carriers. -/
def hasValidToken (expectedToken : List Char) (headers : HeaderMap) : Bool :=
  let sessionHeader := (headers.get "x-session-token").bind HeaderValue.toStr
  let bearerHeader := ((headers.get "authorization").bind HeaderValue.toStr).bind fun v =>
    (stripPrefix "Bearer ".toList v).or (stripPrefix "bearer ".toList v)
  let apiKeyHeader := (headers.get "x-api-key").bind HeaderValue.toStr
  sessionHeader == some expectedToken || bearerHeader == some expectedToken || apiKeyHeader == some expectedToken

/-- `.ok` is the call of the next service. -/
def authMiddleware (sessionToken : Option (List Char)) (headers : HeaderMap) : Except Rejection Unit :=
  match sessionToken with
  | none => .ok ()
  | some expectedToken =>
    if hasValidToken expectedToken headers then .ok ()
    else .error ⟨401, "Unauthorized: invalid session token"⟩

/-! ### Confinement -/

/-- The token is neither sent upstream nor logged beyond its last four characters. -/
structure Confined (token : List Char) (backend : Backend) (thinkingActive : Bool) (headers : HeaderMap) : Prop where
  upstream : ∀ pair ∈ buildHeaders headers backend thinkingActive, ¬ token <:+: pair.2
  log : ∀ pair ∈ redactHeaders headers, ¬ Shows token pair.2

def isUnsentName (name : String) : Bool := name == "host" || name == "content-length" || isAuthName name

/-- The token is in no header but the credentials, not even once a beta value is rewritten; the
backend's credential does not contain it, and its end is not that of a mask. -/
structure OnlyInCredentials (token : List Char) (backend : Backend) (thinkingActive : Bool) (headers : HeaderMap) :
    Prop where
  unsent : ∀ header ∈ headers, isUnsentName header.1.text = false →
    ∀ text, header.2.toStr = some text → ∀ sent, sentText backend thinkingActive header.1.text text = some sent →
      ¬ token <:+: sent
  unlogged : ∀ header ∈ headers, isSensitiveHeader header.1.text = false → ¬ Shows token (loggedText header.2)
  credential : ∀ pair, buildAuthHeader backend = some pair → ¬ token <:+: pair.2
  mask : ∀ header ∈ headers, isSensitiveHeader header.1.text = true → ¬ EndsInMask token (loggedText header.2)

theorem skipsHeader_own {backend : Backend} (own : backend.authType.usesOwnCredentials = true) (name : HeaderName) :
    skipsHeader backend name = isUnsentName name.text := by
  rw [skipsHeader, own, Bool.true_and, isUnsentName]

theorem mem_buildHeaders {backend : Backend} (own : backend.authType.usesOwnCredentials = true) {thinkingActive : Bool}
    {headers : HeaderMap} {pair : String × List Char} :
    pair ∈ buildHeaders headers backend thinkingActive ↔
      (∃ header ∈ headers, isUnsentName header.1.text = false ∧ ∃ text, header.2.toStr = some text ∧
        ∃ sent, sentText backend thinkingActive header.1.text text = some sent ∧ pair = (header.1.text, sent)) ∨
      buildAuthHeader backend = some pair := by
  rw [buildHeaders, List.mem_append, List.mem_filterMap, Option.mem_toList]
  refine or_congr_left (exists_congr fun header => and_congr_right fun _ => ?_)
  obtain ⟨name, value⟩ := header
  rw [forwardHeader_eq, skipsHeader_own own]
  cases unsent : isUnsentName name.text with
  | true => simp
  | false =>
    rw [if_neg Bool.false_ne_true, Option.map_eq_some_iff]
    simp only [Option.bind_eq_some_iff, true_and]
    constructor
    · intro forwarded
      obtain ⟨sent, ⟨text, read, rewritten⟩, rfl⟩ := forwarded
      exact ⟨text, read, sent, rewritten, rfl⟩
    · intro forwarded
      obtain ⟨text, read, sent, rewritten, rfl⟩ := forwarded
      exact ⟨sent, ⟨text, read, rewritten⟩, rfl⟩

theorem upstream_iff {token : List Char} {backend : Backend} (own : backend.authType.usesOwnCredentials = true)
    {thinkingActive : Bool} {headers : HeaderMap} :
    (∀ pair ∈ buildHeaders headers backend thinkingActive, ¬ token <:+: pair.2) ↔
      (∀ header ∈ headers, isUnsentName header.1.text = false →
        ∀ text, header.2.toStr = some text → ∀ sent, sentText backend thinkingActive header.1.text text = some sent →
          ¬ token <:+: sent) ∧
      ∀ pair, buildAuthHeader backend = some pair → ¬ token <:+: pair.2 := by
  constructor
  · intro absent
    refine ⟨fun header member named text read sent rewritten => ?_, fun pair built => ?_⟩
    · exact absent _ ((mem_buildHeaders own).mpr (.inl ⟨header, member, named, text, read, sent, rewritten, rfl⟩))
    · exact absent pair ((mem_buildHeaders own).mpr (.inr built))
  · intro absent pair member
    obtain ⟨forwarded, credential⟩ := absent
    rcases (mem_buildHeaders own).mp member with ⟨header, present, named, text, read, sent, rewritten, rfl⟩ | built
    · exact forwarded header present named text read sent rewritten
    · exact credential pair built

theorem log_iff {token : List Char} {headers : HeaderMap} :
    (∀ pair ∈ redactHeaders headers, ¬ Shows token pair.2) ↔
      (∀ header ∈ headers, isSensitiveHeader header.1.text = false → ¬ Shows token (loggedText header.2)) ∧
      ∀ header ∈ headers, isSensitiveHeader header.1.text = true → ¬ EndsInMask token (loggedText header.2) := by
  simp only [← shows_maskValue_iff]
  constructor
  · intro hidden
    have logged : ∀ header ∈ headers, ¬ Shows token (redactHeader header).2 :=
      fun header member => hidden _ (List.mem_map_of_mem member)
    refine ⟨fun header member plain => ?_, fun header member sensitive => ?_⟩
    · have text := logged header member
      rw [redactHeader_text, plain, if_neg Bool.false_ne_true] at text
      exact text
    · have text := logged header member
      rw [redactHeader_text, sensitive, if_pos rfl] at text
      exact text
  · intro hidden pair member
    obtain ⟨plain, masked⟩ := hidden
    obtain ⟨header, present, rfl⟩ := List.mem_map.mp member
    rw [redactHeader_text]
    cases sensitive : isSensitiveHeader header.1.text with
    | true =>
      rw [if_pos rfl]
      exact masked header present sensitive
    | false =>
      rw [if_neg Bool.false_ne_true]
      exact plain header present sensitive

theorem mem_of_get {headers : HeaderMap} {name : String} {value : HeaderValue} (found : headers.get name = some value) :
    ∃ header ∈ headers, header.1.text = name ∧ header.2 = value := by
  obtain ⟨header, first, rfl⟩ := Option.map_eq_some_iff.mp found
  exact ⟨header, List.mem_of_find?_eq_some first, by simpa using List.find?_some first, rfl⟩

/-- A token in `x-session-token` is sent upstream as it is. -/
theorem session_header_sent {token : List Char} {backend : Backend} (own : backend.authType.usesOwnCredentials = true)
    {thinkingActive : Bool} {headers : HeaderMap}
    (carried : (headers.get "x-session-token").bind HeaderValue.toStr = some token) :
    ("x-session-token", token) ∈ buildHeaders headers backend thinkingActive := by
  obtain ⟨value, found, read⟩ := Option.bind_eq_some_iff.mp carried
  obtain ⟨header, member, name, rfl⟩ := mem_of_get found
  have unsent : isUnsentName "x-session-token" = false := by decide
  have beta : isBetaName "x-session-token" = false := by decide
  refine (mem_buildHeaders own).mpr (.inl ⟨header, member, by rw [name, unsent], token, read, token, ?_, by rw [name]⟩)
  rw [name, sentText, beta, Bool.and_false, if_neg Bool.false_ne_true]

/-- The token stays in the proxy exactly when it travels in nothing but the credentials; in
particular it does not when the client authenticates with `x-session-token`. -/
theorem token_confined_iff {token : List Char} {backend : Backend} (own : backend.authType.usesOwnCredentials = true)
    (thinkingActive : Bool) (headers : HeaderMap) :
    (Confined token backend thinkingActive headers ↔ OnlyInCredentials token backend thinkingActive headers) ∧
      ((headers.get "x-session-token").bind HeaderValue.toStr = some token →
        ¬ Confined token backend thinkingActive headers) := by
  refine ⟨?_, fun carried confined => ?_⟩
  · constructor
    · intro confined
      obtain ⟨upstream, log⟩ := confined
      obtain ⟨unsent, credential⟩ := (upstream_iff own).mp upstream
      obtain ⟨unlogged, mask⟩ := log_iff.mp log
      exact ⟨unsent, unlogged, credential, mask⟩
    · intro only
      obtain ⟨unsent, unlogged, credential, mask⟩ := only
      exact ⟨(upstream_iff own).mpr ⟨unsent, credential⟩, log_iff.mpr ⟨unlogged, mask⟩⟩
  · exact confined.upstream _ (session_header_sent own carried) List.infix_rfl

def sessionToken : List Char := "5f0c2a9e".toList

def bearerRequest : HeaderMap :=
  [(⟨"authorization", by decide⟩, ⟨utf8 "Bearer 5f0c2a9e".toList, by decide +kernel⟩)]

def sessionHeaderRequest : HeaderMap :=
  [(⟨"x-session-token", by decide⟩, ⟨utf8 "5f0c2a9e".toList, by decide +kernel⟩)]

theorem bearer_token_confined :
    (Confined sessionToken keyedGlm true bearerRequest ↔ OnlyInCredentials sessionToken keyedGlm true bearerRequest) ∧
      ((HeaderMap.get bearerRequest "x-session-token").bind HeaderValue.toStr = some sessionToken →
        ¬ Confined sessionToken keyedGlm true bearerRequest) :=
  token_confined_iff (by decide) true bearerRequest

theorem session_header_not_confined :
    ¬ ∀ token backend thinkingActive headers, backend.authType.usesOwnCredentials = true →
      authMiddleware (some token) headers = .ok () → Confined token backend thinkingActive headers := by
  intro confined
  have own : keyedGlm.authType.usesOwnCredentials = true := by decide
  have accepted : authMiddleware (some sessionToken) sessionHeaderRequest = .ok () := rfl
  have carried : (HeaderMap.get sessionHeaderRequest "x-session-token").bind HeaderValue.toStr = some sessionToken := by
    decide
  exact (confined sessionToken keyedGlm true sessionHeaderRequest own accepted).upstream _
    (session_header_sent own carried) List.infix_rfl

end Anycode.Proxy
