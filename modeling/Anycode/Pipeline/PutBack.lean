import Anycode.Pipeline.AutoRetry

/-!
# Putting a 400 back

A 400 that is not retried, or whose retry is not answered, is rebuilt from its status and its text.
What the rebuilt response keeps of the original.
-/

namespace Anycode.Pipeline
open Data Config Thinking

section
variable {serde : Serde} {send : List (String × List Char) → List UInt8 → Option UpstreamResponse}
  {resp response : UpstreamResponse} {headers : List (String × List Char)} {bodyBytes : List UInt8}

/-- The error asks for a rewrite, the request can be rewritten, and the second request is answered. -/
def Retried (serde : Serde) (send : List (String × List Char) → List UInt8 → Option UpstreamResponse)
    (resp : UpstreamResponse) (headers : List (String × List Char)) (bodyBytes : List UInt8) : Prop :=
  ∃ bytes sentHeaders sentBody second, resp.body = some bytes ∧
    planRetry serde (fromUtf8Lossy bytes) headers bodyBytes = .ok (.send sentHeaders sentBody) ∧
      send sentHeaders sentBody = some second

/-- The next stage is handed the response that the backend sent. -/
structure HandedOn (resp response : UpstreamResponse) : Prop where
  status : response.status = resp.status
  headers : response.headers = resp.headers
  body : response.body = resp.body

/-- Every path that is not answered by a second request ends in the same rebuilt response. -/
theorem backend400AutoRetry_rebuilds
    (handed : backend400AutoRetry serde send resp headers bodyBytes = .ok response)
    (unretried : ¬ Retried serde send resp headers bodyBytes) :
    response = rebuildResponse resp.status (fromUtf8Lossy (resp.body.getD [])) := by
  unfold backend400AutoRetry at handed
  cases read : resp.body with
  | none =>
    rw [read] at handed
    cases handed
    rfl
  | some bytes =>
    rw [read] at handed
    obtain ⟨plan, planned, rfl⟩ := map_ok handed
    cases plan with
    | original => rfl
    | send sentHeaders sentBody =>
      cases sent : send sentHeaders sentBody with
      | none =>
        rw [retryWithBody, sent]
        rfl
      | some second => exact absurd ⟨bytes, sentHeaders, sentBody, second, read, planned, sent⟩ unretried

/-- The rebuilt response has no headers and a text for a body. -/
theorem handedOn_rebuildResponse_iff :
    HandedOn resp (rebuildResponse resp.status (fromUtf8Lossy (resp.body.getD []))) ↔
      resp.headers = [] ∧ ∃ text, resp.body = some (utf8 text) := by
  constructor
  · intro same
    exact ⟨same.headers.symm, _, same.body.symm⟩
  · intro plain
    obtain ⟨bare, text, read⟩ := plain
    refine ⟨rfl, bare.symm, ?_⟩
    rw [read, Option.getD_some, fromUtf8Lossy_utf8]
    rfl

/-- A 400 that is not retried is handed on as it came exactly when it has no headers and a body
that can be read and is text. -/
theorem backend400AutoRetry_handedOn_iff
    (handed : backend400AutoRetry serde send resp headers bodyBytes = .ok response)
    (unretried : ¬ Retried serde send resp headers bodyBytes) :
    HandedOn resp response ↔ resp.headers = [] ∧ ∃ text, resp.body = some (utf8 text) := by
  rw [backend400AutoRetry_rebuilds handed unretried]
  exact handedOn_rebuildResponse_iff

end

def bareError : UpstreamResponse where
  status := 400
  headers := []
  fits := Nat.zero_le _
  body := some (utf8 "max_tokens: Field required".toList)

theorem bareError_handedOn :
    HandedOn bareError (rebuildResponse 400 "max_tokens: Field required".toList) := by
  have unknown : backend400AutoRetry (.ofTexts stringConfig stringConfig) (fun _ _ => none) bareError [] [] =
      .ok (rebuildResponse 400 "max_tokens: Field required".toList) := by rfl
  refine (backend400AutoRetry_handedOn_iff unknown ?_).mpr ⟨rfl, _, rfl⟩
  intro retried
  obtain ⟨_, _, _, _, _, _, answered⟩ := retried
  cases answered

def tracedError : UpstreamResponse where
  status := 400
  headers := [(⟨"request-id", by decide⟩, ⟨utf8 "req-7".toList, by decide +kernel⟩)]
  fits := by decide
  body := some (utf8 "max_tokens: Field required".toList)

/-- An error that the retry does not know loses its headers. -/
theorem tracedError_not_handedOn :
    ¬ ∀ serde send resp response headers bodyBytes,
      backend400AutoRetry serde send resp headers bodyBytes = .ok response →
        ¬ Retried serde send resp headers bodyBytes → HandedOn resp response := by
  intro handedOn
  have unknown : backend400AutoRetry (.ofTexts stringConfig stringConfig) (fun _ _ => none) tracedError [] [] =
      .ok (rebuildResponse 400 "max_tokens: Field required".toList) := by rfl
  have same := handedOn _ _ _ _ _ _ unknown fun retried => by
    obtain ⟨_, _, _, _, _, _, answered⟩ := retried
    cases answered
  cases same.headers

end Anycode.Pipeline
