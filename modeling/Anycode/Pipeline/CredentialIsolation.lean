import Anycode.Pipeline.Headers

/-!
# Credential isolation

What of the client's headers reaches a backend that has its own credentials.
-/

namespace Anycode.Pipeline
open Data Config

def isClientCredential (header : Header) : Bool := isAuthName header.1.text

/-- Neither set by the HTTP client, nor a credential, nor rewritten. -/
def isPlainName (name : String) : Bool :=
  !(name == "host") && !(name == "content-length") && !isAuthName name && !isBetaName name

def readable (header : Header) : Option (String × List Char) :=
  header.2.toStr.map fun text => (header.1.text, text)

section
variable {backend : Backend} (own : backend.authType.usesOwnCredentials = true) (thinkingActive : Bool)
include own

theorem forwardHeader_credential {header : Header} (credential : isClientCredential header = true) :
    forwardHeader backend thinkingActive header = none := by
  obtain ⟨name, value⟩ := header
  have skipped : skipsHeader backend name = true := by
    rw [skipsHeader, own, Bool.true_and]
    exact Bool.or_eq_true_iff.mpr (.inr credential)
  rw [forwardHeader_eq, skipped, if_pos rfl]

theorem filterMap_forwardHeader (incoming : HeaderMap) :
    incoming.filterMap (forwardHeader backend thinkingActive) =
      (incoming.filter fun header => !isClientCredential header).filterMap (forwardHeader backend thinkingActive) := by
  induction incoming with
  | nil => rfl
  | cons header rest ih =>
    cases credential : isClientCredential header with
    | true =>
      rw [List.filterMap_cons, forwardHeader_credential own thinkingActive credential,
        List.filter_cons_of_neg (by rw [credential]; decide)]
      exact ih
    | false =>
      rw [List.filter_cons_of_pos (by rw [credential]; rfl), List.filterMap_cons, List.filterMap_cons, ih]

theorem forwarded_not_credential (incoming : HeaderMap) :
    (incoming.filterMap (forwardHeader backend thinkingActive)).filter (fun pair => isAuthName pair.1) = [] := by
  refine List.filter_eq_nil_iff.mpr fun pair member credential => ?_
  obtain ⟨header, _, sent⟩ := List.mem_filterMap.mp member
  rw [forwardHeader_name sent] at credential
  rw [forwardHeader_credential own thinkingActive credential] at sent
  cases sent

/-- The one header of the result that authenticates is the backend's. -/
theorem buildHeaders_credential {credential : String × List Char} (built : buildAuthHeader backend = some credential)
    (incoming : HeaderMap) :
    (buildHeaders incoming backend thinkingActive).filter (fun pair => isAuthName pair.1) = [credential] := by
  rw [buildHeaders, List.filter_append, forwarded_not_credential own, built, List.nil_append]
  exact List.filter_cons_of_pos (buildAuthHeader_name built).1

theorem forwardHeader_plain (header : Header) :
    (forwardHeader backend thinkingActive header).filter (fun pair => !isAuthName pair.1 && !isBetaName pair.1) =
      if isPlainName header.1.text then readable header else none := by
  obtain ⟨name, value⟩ := header
  rw [forwardHeader_eq]
  cases skipped : skipsHeader backend name with
  | true =>
    have special : isPlainName name.text = false := by
      rw [skipsHeader, own, Bool.true_and] at skipped
      rw [isPlainName, ← Bool.not_or, ← Bool.not_or, skipped]
      rfl
    rw [special]
    rfl
  | false =>
    have plain : isPlainName name.text = !isBetaName name.text := by
      rw [skipsHeader, own, Bool.true_and] at skipped
      rw [isPlainName, ← Bool.not_or, ← Bool.not_or, skipped]
      exact Bool.true_and _
    have auth : isAuthName name.text = false := by
      rw [skipsHeader, own, Bool.true_and] at skipped
      exact (Bool.or_eq_false_iff.mp skipped).2
    rw [plain, readable]
    cases value.toStr with
    | none => cases isBetaName name.text <;> rfl
    | some text =>
      cases beta : isBetaName name.text with
      | false => simp [sentText, beta, auth]
      | true =>
        rw [Option.bind_some]
        cases sentText backend thinkingActive name.text text with
        | none => rfl
        | some sent => simp [beta]

/-- Every other readable header is forwarded in order. -/
theorem buildHeaders_plain (incoming : HeaderMap) :
    (buildHeaders incoming backend thinkingActive).filter (fun pair => !isAuthName pair.1 && !isBetaName pair.1) =
      (incoming.filter fun header => isPlainName header.1.text).filterMap readable := by
  have appended : (buildAuthHeader backend).toList.filter (fun pair => !isAuthName pair.1 && !isBetaName pair.1) = [] := by
    refine List.filter_eq_nil_iff.mpr fun pair member => ?_
    rw [(buildAuthHeader_name (Option.mem_toList.mp member)).1]
    exact Bool.false_ne_true
  rw [buildHeaders, List.filter_append, appended, List.append_nil, List.filter_filterMap, List.filterMap_filter]
  exact List.filterMap_congr fun header _ => forwardHeader_plain own thinkingActive header

/-- What the backend receives does not depend on the client's credentials, authenticates with
the backend's own, and carries every other readable header through. -/
theorem credentials_isolated (configured : backend.isConfigured = true) :
    (∀ first second : HeaderMap,
      (first.filter fun header => !isClientCredential header) = (second.filter fun header => !isClientCredential header) →
        buildHeaders first backend thinkingActive = buildHeaders second backend thinkingActive) ∧
    ∀ incoming : HeaderMap,
      (∃ key credential, backend.apiKey = some key ∧ key ≠ "" ∧
        (backend.authType = .apiKey ∧ credential = ("x-api-key", key.toList) ∨
          backend.authType = .bearer ∧ credential = ("Authorization", "Bearer ".toList ++ key.toList)) ∧
        (buildHeaders incoming backend thinkingActive).filter (fun pair => isAuthName pair.1) = [credential]) ∧
      (buildHeaders incoming backend thinkingActive).filter (fun pair => !isAuthName pair.1 && !isBetaName pair.1) =
        (incoming.filter fun header => isPlainName header.1.text).filterMap readable := by
  refine ⟨fun first second same => ?_, fun incoming => ⟨?_, buildHeaders_plain own thinkingActive incoming⟩⟩
  · rw [buildHeaders, filterMap_forwardHeader own, same, ← filterMap_forwardHeader own, buildHeaders]
  · obtain ⟨key, found, nonempty, ⟨type, built⟩ | ⟨type, built⟩⟩ := buildAuthHeader_configured own configured
    · exact ⟨key, _, found, nonempty, .inl ⟨type, rfl⟩, buildHeaders_credential own thinkingActive built incoming⟩
    · exact ⟨key, _, found, nonempty, .inr ⟨type, rfl⟩, buildHeaders_credential own thinkingActive built incoming⟩

end

def keyedGlm : Backend :=
  { name := "glm", baseUrl := "https://glm.example", authTypeStr := "api_key", apiKey := some "sk-glm" }

theorem credentials_isolated_keyedGlm :
    (∀ first second : HeaderMap,
      (first.filter fun header => !isClientCredential header) = (second.filter fun header => !isClientCredential header) →
        buildHeaders first keyedGlm true = buildHeaders second keyedGlm true) ∧
    ∀ incoming : HeaderMap,
      (∃ key credential, keyedGlm.apiKey = some key ∧ key ≠ "" ∧
        (keyedGlm.authType = .apiKey ∧ credential = ("x-api-key", key.toList) ∨
          keyedGlm.authType = .bearer ∧ credential = ("Authorization", "Bearer ".toList ++ key.toList)) ∧
        (buildHeaders incoming keyedGlm true).filter (fun pair => isAuthName pair.1) = [credential]) ∧
      (buildHeaders incoming keyedGlm true).filter (fun pair => !isAuthName pair.1 && !isBetaName pair.1) =
        (incoming.filter fun header => isPlainName header.1.text).filterMap readable :=
  credentials_isolated (by decide) true (by decide)

end Anycode.Pipeline
