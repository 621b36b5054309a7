import Mathlib.Data.List.Forall2
import Anycode.Pipeline.FastPath
import Anycode.Pipeline.Headers

/-!
# Body and headers agree on thinking

For a backend in thinking-compat mode, the anthropic-beta values that are sent against the body
that is sent.
-/

namespace Anycode.Pipeline
open Data Config Thinking

def betaValues (headers : List (String × List Char)) : List (List Char) :=
  headers.filterMap fun header => if isBetaName header.1 then some header.2 else none

/-- The client's anthropic-beta values as `read` sees them. -/
def clientBetaValues (read : HeaderValue → Option (List Char)) (incoming : HeaderMap) : List (List Char) :=
  incoming.filterMap fun header => if isBetaName header.1.text then read header.2 else none

/-- The flags that are sent fit the body, and every other token of the client's values is sent,
value by value and in order; a value without one may be dropped. -/
structure BetaAgreement (clientValues : List (List Char)) (headers : List (String × List Char)) (thinking : Bool) :
    Prop where
  stripped : thinking = false → ∀ value ∈ betaValues headers, ∀ token ∈ betaTokens value,
    isAdaptiveFlag token = false ∧ isInterleavedFlag token = false
  patched : thinking = true → ∀ value ∈ betaValues headers,
    (∃ token ∈ betaTokens value, isInterleavedFlag token = true) ∧
      ∀ token ∈ betaTokens value, isAdaptiveFlag token = false
  others : ((betaValues headers).map otherTokens).filter (fun tokens => !tokens.isEmpty) =
    (clientValues.map otherTokens).filter fun tokens => !tokens.isEmpty

/-- A header of a map that holds the pair: the name in lower case, the value in UTF-8. -/
structure Encodes (header : Header) (pair : String × List Char) : Prop where
  name : header.1.text.toList = asciiLower pair.1
  value : header.2.bytes = utf8 pair.2

/-! ### One header -/

theorem text_of_isBetaName {name : HeaderName} (beta : isBetaName name.text = true) : name.text = "anthropic-beta" := by
  rw [isBetaName, eqIgnoreAsciiCase_text (by decide), beq_iff_eq] at beta
  exact beta

theorem forwardHeader_beta {backend : Backend} (compat : backend.needsThinkingCompat = true) (thinkingActive : Bool)
    {name : HeaderName} (beta : isBetaName name.text = true) (value : HeaderValue) :
    forwardHeader backend thinkingActive (name, value) =
      value.toStr.bind fun val =>
        if (betaRewrite thinkingActive val).isEmpty then none else some (name.text, betaRewrite thinkingActive val) := by
  have text := text_of_isBetaName beta
  have sent : skipsHeader backend name = false := by
    rw [skipsHeader, text]
    exact Bool.and_false _
  rw [forwardHeader_eq, sent, if_neg Bool.false_ne_true]
  cases value.toStr with
  | none => rfl
  | some val =>
    rw [Option.bind_some, Option.bind_some, sentText, compat, beta, Bool.and_self, if_pos rfl]
    cases (betaRewrite thinkingActive val).isEmpty <;> rfl

/-! ### The values that are sent -/

theorem betaValues_append (first second : List (String × List Char)) :
    betaValues (first ++ second) = betaValues first ++ betaValues second := List.filterMap_append

theorem betaValues_buildAuthHeader (backend : Backend) : betaValues (buildAuthHeader backend).toList = [] := by
  cases own : buildAuthHeader backend with
  | none => rfl
  | some pair =>
    rw [Option.toList_some, betaValues, List.filterMap_cons, (buildAuthHeader_name own).2]
    rfl

/-- What is sent of the client's readable values: each rewritten, and dropped when that leaves
nothing. -/
theorem betaValues_buildHeaders {backend : Backend} (compat : backend.needsThinkingCompat = true)
    (incoming : HeaderMap) (thinkingActive : Bool) :
    betaValues (buildHeaders incoming backend thinkingActive) =
      ((clientBetaValues HeaderValue.toStr incoming).map (betaRewrite thinkingActive)).filter
        fun value => !value.isEmpty := by
  rw [buildHeaders, betaValues_append, betaValues_buildAuthHeader, List.append_nil]
  induction incoming with
  | nil => rfl
  | cons header rest ih =>
    obtain ⟨name, value⟩ := header
    by_cases beta : isBetaName name.text = true
    · have forwarded := forwardHeader_beta compat thinkingActive beta value
      unfold clientBetaValues at ih ⊢
      rw [List.filterMap_cons, forwarded, List.filterMap_cons, if_pos beta]
      cases value.toStr with
      | none => exact ih
      | some val =>
        dsimp only [Option.bind_some]
        rw [List.map_cons, List.filter_cons]
        cases empty : (betaRewrite thinkingActive val).isEmpty with
        | true => exact ih
        | false =>
          unfold betaValues at ih ⊢
          rw [if_neg Bool.false_ne_true, List.filterMap_cons, if_pos beta, ih]
          rfl
    · have skipped : clientBetaValues HeaderValue.toStr ((name, value) :: rest) =
          clientBetaValues HeaderValue.toStr rest := by
        unfold clientBetaValues
        rw [List.filterMap_cons, if_neg beta]
      rw [skipped, ← ih, List.filterMap_cons]
      cases sent : forwardHeader backend thinkingActive (name, value) with
      | none => rfl
      | some pair =>
        dsimp only
        unfold betaValues
        rw [List.filterMap_cons, forwardHeader_name sent, if_neg beta]

theorem otherTokens_betaRewrite (thinkingActive : Bool) (value : List Char) :
    otherTokens (betaRewrite thinkingActive value) = otherTokens value := by
  cases thinkingActive with
  | false => exact otherTokens_strip value
  | true => exact otherTokens_patch value

theorem map_otherTokens_filter (values : List (List Char)) :
    (((values.filter fun value => !value.isEmpty).map otherTokens).filter fun tokens => !tokens.isEmpty) =
      (values.map otherTokens).filter fun tokens => !tokens.isEmpty := by
  induction values with
  | nil => rfl
  | cons value rest ih =>
    cases value with
    | nil => exact ih
    | cons c text =>
      rw [List.filter_cons_of_pos rfl, List.map_cons, List.map_cons, List.filter_cons, List.filter_cons, ih]

theorem betaAgreement_buildHeaders {backend : Backend} (compat : backend.needsThinkingCompat = true)
    (incoming : HeaderMap) (thinkingActive : Bool) :
    BetaAgreement (clientBetaValues HeaderValue.toStr incoming) (buildHeaders incoming backend thinkingActive)
      thinkingActive := by
  have values := betaValues_buildHeaders compat incoming thinkingActive
  have rewritten : ∀ value ∈ betaValues (buildHeaders incoming backend thinkingActive),
      ∃ original, value = betaRewrite thinkingActive original := by
    intro value member
    rw [values] at member
    obtain ⟨original, _, rfl⟩ := List.mem_map.mp (List.mem_of_mem_filter member)
    exact ⟨original, rfl⟩
  refine ⟨?_, ?_, ?_⟩
  · intro same value member token found
    subst same
    obtain ⟨original, rfl⟩ := rewritten value member
    have other : isOtherFlag token = true := by
      have listed : token ∈ otherTokens original := by
        rw [← betaTokens_strip]
        exact found
      exact (List.mem_filter.mp listed).2
    simpa [isOtherFlag] using other
  · intro same value member
    subst same
    obtain ⟨original, rfl⟩ := rewritten value member
    exact ⟨patch_interleaved original, patch_noAdaptive original⟩
  · rw [values, map_otherTokens_filter, List.map_map]
    congr 1
    exact List.map_congr_left fun value _ => otherTokens_betaRewrite thinkingActive value

/-! ### Patching twice -/

theorem sentText_sent {backend : Backend} {thinkingActive : Bool} {name : String} {value text : List Char}
    (visible : ∀ c ∈ value, isVisibleChar c = true) (sent : sentText backend thinkingActive name value = some text) :
    (∀ c ∈ text, isVisibleChar c = true) ∧ sentText backend thinkingActive name text = some text := by
  unfold sentText at sent ⊢
  split at sent
  · rename_i beta
    split at sent
    · cases sent
    · rename_i nonempty
      cases sent
      refine ⟨visible_betaRewrite thinkingActive visible, ?_⟩
      rw [if_pos beta, betaRewrite_betaRewrite, if_neg nonempty]
  · rename_i plain
    cases sent
    exact ⟨visible, if_neg plain⟩

theorem forwardHeader_again {backend : Backend} {thinkingActive : Bool} {header again : Header}
    {pair : String × List Char} (sent : forwardHeader backend thinkingActive header = some pair)
    (held : Encodes again pair) : forwardHeader backend thinkingActive again = some pair := by
  obtain ⟨name, value⟩ := header
  obtain ⟨againName, againValue⟩ := again
  rw [forwardHeader_eq] at sent
  split at sent
  · cases sent
  · rename_i kept
    obtain ⟨text, chosen, rfl⟩ := Option.map_eq_some_iff.mp sent
    obtain ⟨val, read, rewritten⟩ := Option.bind_eq_some_iff.mp chosen
    obtain ⟨visible, fixed⟩ := sentText_sent (visible_of_toStr read) rewritten
    have sameText : againName.text = name.text := String.toList_inj.mp (held.name.trans name.lower)
    obtain rfl : againName = name := by
      obtain ⟨_, _⟩ := againName
      obtain ⟨_, _⟩ := name
      cases sameText
      rfl
    rw [forwardHeader_eq, if_neg kept, toStr_of_visible visible held.value, Option.bind_some, fixed]
    rfl

theorem forwardHeader_auth {backend : Backend} {thinkingActive : Bool} {again : Header} {pair : String × List Char}
    (own : buildAuthHeader backend = some pair) (held : Encodes again pair) :
    forwardHeader backend thinkingActive again = none := by
  obtain ⟨name, value⟩ := again
  have credentials : backend.authType.usesOwnCredentials = true ∧ isAuthName name.text = true := by
    have named := held.name
    unfold buildAuthHeader at own
    split at own
    · rename_i type _
      cases own
      refine ⟨by rw [type]; rfl, ?_⟩
      have lower : asciiLower "x-api-key" = "x-api-key".toList := by decide
      rw [show name.text = "x-api-key" from String.toList_inj.mp (named.trans lower)]
      decide
    · rename_i type _
      cases own
      refine ⟨by rw [type]; rfl, ?_⟩
      have lower : asciiLower "Authorization" = "authorization".toList := by decide
      rw [show name.text = "authorization" from String.toList_inj.mp (named.trans lower)]
      decide
    · cases own
  rw [forwardHeader_eq, if_pos]
  rw [skipsHeader, credentials.1, credentials.2, Bool.and_self, Bool.or_true]

theorem buildHeaders_again {incoming again : HeaderMap} {backend : Backend} {thinkingActive : Bool}
    (held : List.Forall₂ Encodes again (buildHeaders incoming backend thinkingActive)) :
    buildHeaders again backend thinkingActive = buildHeaders incoming backend thinkingActive := by
  have resent : ∀ pairs : List (String × List Char),
      (∀ pair ∈ pairs, ∃ header ∈ incoming, forwardHeader backend thinkingActive header = some pair) →
      ∀ again : HeaderMap, List.Forall₂ Encodes again (pairs ++ (buildAuthHeader backend).toList) →
        again.filterMap (forwardHeader backend thinkingActive) = pairs := by
    intro pairs
    induction pairs with
    | nil =>
      intro _ again held
      cases own : buildAuthHeader backend with
      | none =>
        rw [own] at held
        cases held
        rfl
      | some pair =>
        rw [own] at held
        obtain ⟨header, _, encoded, last, rfl⟩ := List.forall₂_cons_right_iff.mp held
        cases last
        rw [List.filterMap_cons, forwardHeader_auth own encoded]
        rfl
    | cons pair pairs ih =>
      intro sent again held
      obtain ⟨header, rest, encoded, later, rfl⟩ := List.forall₂_cons_right_iff.mp held
      obtain ⟨original, _, forwarded⟩ := sent pair List.mem_cons_self
      rw [List.filterMap_cons, forwardHeader_again forwarded encoded]
      exact congrArg _ (ih (fun pair member => sent pair (List.mem_cons_of_mem _ member)) rest later)
  have forwarded := resent (incoming.filterMap (forwardHeader backend thinkingActive))
    (fun pair member => List.mem_filterMap.mp member) again held
  rw [buildHeaders, forwarded, buildHeaders]

/-! ### The body that is sent -/

section
variable {H : Type} [DecidableEq H] (fastHash : String → H)

/-- The bytes that are sent parse, and to a body whose `thinking` key the flag tells. -/
theorem transformBody_thinkingActive {serde : Serde} {bodyBytes : List UInt8} {body : Json} {backend : Backend}
    {thinking : Option ThinkingSession} {r : ThinkingRegistry H} {now : Nat}
    (parsed : serde.fromSlice bodyBytes = some body)
    (printed : serde.RoundTrips (fullyTransformed fastHash backend thinking r body now)) :
    ∃ final, serde.fromSlice (transformBody fastHash serde bodyBytes (some body) backend thinking r now).2.bytes =
        some final ∧
      (final.get "thinking").isSome =
        (transformBody fastHash serde bodyBytes (some body) backend thinking r now).2.thinkingActive := by
  rw [fromSlice_sent fastHash parsed printed, transformBody_some]
  dsimp only
  cases recorded : changed fastHash backend thinking r body with
  | true => exact ⟨_, rfl, rfl⟩
  -- Nothing was recorded, so the client's body has the key and nothing stripped it.
  | false =>
    obtain ⟨_, _, quiet, _, present⟩ := (changed_eq_false fastHash).mp recorded
    refine ⟨body, rfl, ?_⟩
    rw [fullyTransformed_thinking, present, Bool.and_true]
    cases session : thinking.isSome with
    | false => rfl
    | true =>
      obtain ⟨wraps, remain⟩ := quiet session
      rw [strips_eq_false fastHash wraps remain]
      rfl

/-- The flags that are sent fit the body that is sent, the other tokens of every readable value
are sent with them, and patching the sent headers again changes nothing. -/
theorem body_headers_agree {serde : Serde} {bodyBytes : List UInt8} {body : Json} {backend : Backend}
    (compat : backend.needsThinkingCompat = true) (thinking : Option ThinkingSession) (r : ThinkingRegistry H)
    (now : Nat) (parsed : serde.fromSlice bodyBytes = some body)
    (printed : serde.RoundTrips (fullyTransformed fastHash backend thinking r body now)) (incoming : HeaderMap) :
    let out := (transformBody fastHash serde bodyBytes (some body) backend thinking r now).2
    let headers := buildHeaders incoming backend out.thinkingActive
    (∃ final, serde.fromSlice out.bytes = some final ∧
      BetaAgreement (clientBetaValues HeaderValue.toStr incoming) headers (final.get "thinking").isSome) ∧
    ∀ again, List.Forall₂ Encodes again headers → buildHeaders again backend out.thinkingActive = headers := by
  intro out headers
  obtain ⟨final, decoded, active⟩ := transformBody_thinkingActive fastHash parsed printed
  refine ⟨⟨final, decoded, ?_⟩, fun again held => buildHeaders_again held⟩
  rw [active]
  exact betaAgreement_buildHeaders compat incoming _

end

def betaName : HeaderName := ⟨"anthropic-beta", by decide⟩

def twoBetaValues : HeaderMap :=
  [(betaName, ⟨utf8 "adaptive-thinking-2026-01-28, context-1m-2025-08-07".toList, by decide +kernel⟩),
    (betaName, ⟨utf8 "adaptive-thinking-2026-01-28".toList, by decide +kernel⟩)]

theorem firstTurn_headers_agree :
    let serde := Serde.ofTexts firstTurn firstTurnTransformed
    let r : ThinkingRegistry String := ThinkingRegistry.new.onBackendSwitch "glm"
    let out := (transformBody id serde firstTurn.1 (some firstTurn.2) glm (some ⟨1⟩) r 0).2
    let headers := buildHeaders twoBetaValues glm out.thinkingActive
    (∃ final, serde.fromSlice out.bytes = some final ∧
      BetaAgreement (clientBetaValues HeaderValue.toStr twoBetaValues) headers (final.get "thinking").isSome) ∧
    ∀ again, List.Forall₂ Encodes again headers → buildHeaders again glm out.thinkingActive = headers := by
  refine body_headers_agree id (by decide) (some ⟨1⟩) _ 0 (Serde.ofTexts_first _ _) ?_ twoBetaValues
  rw [fullyTransformed_firstTurn]
  exact roundTrips_firstTurn

def unreadableBeta : HeaderMap := [(betaName, ⟨utf8 "café-2025-08-07".toList, by decide +kernel⟩)]

/-- A value with a byte outside visible ASCII is dropped with all its tokens. -/
theorem unreadable_tokens_dropped :
    let serde := Serde.ofTexts firstTurn firstTurnTransformed
    let r : ThinkingRegistry String := ThinkingRegistry.new.onBackendSwitch "glm"
    let out := (transformBody id serde firstTurn.1 (some firstTurn.2) glm (some ⟨1⟩) r 0).2
    ¬ ∃ final, serde.fromSlice out.bytes = some final ∧
      BetaAgreement (clientBetaValues (fun value => some (fromUtf8Lossy value.bytes)) unreadableBeta)
        (buildHeaders unreadableBeta glm out.thinkingActive) (final.get "thinking").isSome := by
  rintro serde r out ⟨final, _, agreement⟩
  have dropped : betaValues (buildHeaders unreadableBeta glm out.thinkingActive) = [] :=
    betaValues_buildHeaders (by decide) unreadableBeta out.thinkingActive
  have tokens := agreement.others
  rw [dropped] at tokens
  exact absurd tokens.symm (by decide)

end Anycode.Pipeline
