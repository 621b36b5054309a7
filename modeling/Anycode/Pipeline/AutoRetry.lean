import Anycode.Pipeline.Forward
import Anycode.Pipeline.Headers
import Anycode.Thinking.Body

/-!
# The automatic retry of a 400

`backend_400_auto_retry` reads the error text, rewrites the request body for the three errors
that it knows, and sends it again. Indexing into a JSON value and slicing a text can panic.
-/

namespace Anycode.Pipeline
open Data Config Metrics Thinking

/-! ### Indexing into JSON -/

/-- `value[key]` as a place that `f` writes: null becomes an object, and only an object has fields. -/
def indexMut (value : Json) (key : String) (f : Json → Except Panic Json) : Except Panic Json :=
  match value with
  | .null => (f .null).map fun item => .object [(key, item)]
  | .object fields =>
    (f ((Assoc.find key fields).getD .null)).map fun item => .object (Assoc.insert key item fields)
  | _ => .error .wrongKind

def indexable : Json → Bool
  | .null | .object _ => true
  | _ => false

def setEffort (json : Json) (effort : List Char) : Except Panic Json :=
  indexMut json "output_config" fun config =>
    indexMut config "effort" fun _ => .ok (.string (String.ofList effort))

/-! ### Reading the error text -/

/-- `str::find` with a character: its byte index. -/
def findChar (pattern : Char) : List Char → Option Nat
  | [] => none
  | c :: rest => if c = pattern then some 0 else (findChar pattern rest).map fun n => c.utf8Size + n

/-- `&text[start..finish]` -/
def sliceRange (text : List Char) (start finish : Nat) : Except Panic (List Char) := do
  let tail ← sliceFrom text start
  if finish < start then .error .outOfBounds else sliceTo tail (finish - start)

def between (opening closing : Char) (body : List Char) : Except Panic (Option (List Char)) :=
  match findChar opening body with
  | none => .ok none
  | some found => do
    let start := found + 1
    let tail ← sliceFrom body start
    match findChar closing tail with
    | none => pure none
    | some found =>
      let finish := found + start
      (sliceRange body start finish).map some

def extractRequestedEffort (body : List Char) : Except Panic (Option (List Char)) := between '"' '"' body

def trimQuotes (text : List Char) : List Char := (text.dropWhile (· == '"')).rdropWhile (· == '"')

def ranks : List (List Char) := ["low".toList, "medium".toList, "high".toList, "xhigh".toList]

/-- `max_by_key`: of equal ranks the later one. -/
def highest : List (List Char) → Option (List Char)
  | [] => none
  | level :: rest =>
    match highest rest with
    | none => some level
    | some best => if ranks.idxOf level ≤ ranks.idxOf best then some best else some level

def parseMaxSupportedEffort (body : List Char) : Except Panic (Option (List Char)) :=
  (between '[' ']' body).map fun list => list.bind fun list =>
    highest (((list.splitOn ',').map fun level => trimQuotes (trim level)).filter fun level => ranks.contains level)

/-! ### The three rewrites -/

def mentions (body : List Char) (pattern : String) : Bool := textContains body pattern.toList

/-- The second case rewrites only a body whose `thinking.type` is `enabled`. -/
def adaptThinking (json : Json) : Except Panic Json :=
  if (json.get "thinking").bind (fun thinking => thinking.strAt "type") = some "enabled" then
    indexMut json "thinking" fun _ => .ok (.object [("type", .string "adaptive")])
  else .ok json

def withoutThinkingItems (message : Json) : Json :=
  message.modify "content" fun content =>
    match content with
    | .array items => .array (items.filter fun item => !isThinkingItem item)
    | content => content

def stripThinking (json : Json) : Json :=
  (json.erase "thinking").modify "messages" fun messages =>
    match messages with
    | .array items => .array (items.map withoutThinkingItems)
    | messages => messages

def stripBetaFlags : String × List Char → Option (String × List Char)
  | (name, value) =>
    if name.toList.map toLowercase = "anthropic-beta".toList then
      let stripped := stripThinkingFromBetaHeader value
      if stripped.isEmpty then none else some (name, stripped)
    else some (name, value)

/-- What the error text asks for: a request to send again, or nothing. -/
inductive Retry where
  | send (headers : List (String × List Char)) (body : List UInt8)
  | original

def rewritten (serde : Serde) (headers : List (String × List Char)) (bodyBytes : List UInt8)
    (rewrite : Json → Except Panic Json) : Except Panic Retry :=
  match serde.fromSlice bodyBytes with
  | none => .ok .original
  | some json =>
    (rewrite json).map fun json =>
      match serde.toVec json with
      | some body => .send headers body
      | none => .original

def planRetry (serde : Serde) (bodyText : List Char) (headers : List (String × List Char)) (bodyBytes : List UInt8) :
    Except Panic Retry :=
  if mentions bodyText "invalid_reasoning_effort" then do
    match ← parseMaxSupportedEffort bodyText with
    | none => pure .original
    | some maxSupported =>
      let _ ← extractRequestedEffort bodyText
      rewritten serde headers bodyBytes fun json => setEffort json maxSupported
  else if mentions bodyText "thinking.type" && mentions bodyText "enabled" && mentions bodyText "adaptive" then
    rewritten serde headers bodyBytes adaptThinking
  else if mentions bodyText "content[].thinking" then
    rewritten serde (headers.filterMap stripBetaFlags) bodyBytes fun json => .ok (stripThinking json)
  else .ok .original

/-- `rebuild_response`: the status and the text, without the headers. -/
def rebuildResponse (status : Nat) (body : List Char) : UpstreamResponse where
  status := status
  headers := []
  fits := Nat.zero_le _
  body := some (utf8 body)

/-- The second request's response, if there is one; otherwise the original, put back together. -/
def retryWithBody (send : List (String × List Char) → List UInt8 → Option UpstreamResponse) (status : Nat)
    (bodyText : List Char) : Retry → UpstreamResponse
  | .send headers body => (send headers body).getD (rebuildResponse status bodyText)
  | .original => rebuildResponse status bodyText

/-- A body that cannot be read counts as an empty one. -/
def backend400AutoRetry (serde : Serde) (send : List (String × List Char) → List UInt8 → Option UpstreamResponse)
    (resp : UpstreamResponse) (headers : List (String × List Char)) (bodyBytes : List UInt8) :
    Except Panic UpstreamResponse :=
  match resp.body with
  | none => .ok (rebuildResponse resp.status [])
  | some bytes =>
    let bodyText := fromUtf8Lossy bytes
    (planRetry serde bodyText headers bodyBytes).map (retryWithBody send resp.status bodyText)

/-! ### The slices of the error text -/

theorem findChar_eq_some {pattern : Char} {text : List Char} {n : Nat} (found : findChar pattern text = some n) :
    ∃ before after, text = before ++ pattern :: after ∧ byteLen before = n := by
  induction text generalizing n with
  | nil => cases found
  | cons c rest ih =>
    rw [findChar] at found
    split at found
    · rename_i same
      cases found
      exact ⟨[], rest, by rw [same]; rfl, rfl⟩
    · obtain ⟨m, later, rfl⟩ := Option.map_eq_some_iff.mp found
      obtain ⟨before, after, rfl, rfl⟩ := ih later
      exact ⟨c :: before, after, rfl, rfl⟩

/-- Both slices are at places that the searches found. -/
theorem between_isOk {opening : Char} (narrow : opening.utf8Size = 1) (closing : Char) (body : List Char) :
    (between opening closing body).isOk = true := by
  unfold between
  cases opened : findChar opening body with
  | none => rfl
  | some n =>
    obtain ⟨before, after, rfl, rfl⟩ := findChar_eq_some opened
    have start : byteLen before + 1 = byteLen (before ++ [opening]) := by simp [narrow]
    have tail : sliceFrom (before ++ opening :: after) (byteLen before + 1) = .ok after := by
      rw [start, List.append_cons]
      exact sliceFrom_append _ _
    cases closed : findChar closing after with
    | none => simp only [tail, bind, Except.bind, closed]; rfl
    | some m =>
      obtain ⟨inside, rest, rfl, rfl⟩ := findChar_eq_some closed
      have range : sliceRange (before ++ opening :: (inside ++ closing :: rest)) (byteLen before + 1)
          (byteLen inside + (byteLen before + 1)) = .ok inside := by
        simp only [sliceRange, tail, bind, Except.bind, Nat.add_sub_cancel]
        rw [if_neg (Nat.not_lt.mpr (Nat.le_add_left _ _)), sliceTo_append]
      simp only [tail, bind, Except.bind, closed, range]
      rfl

theorem parseMaxSupportedEffort_ok (body : List Char) : ∃ level, parseMaxSupportedEffort body = .ok level := by
  rw [← isOk_iff, parseMaxSupportedEffort, isOk_map]
  exact between_isOk rfl ']' body

theorem extractRequestedEffort_ok (body : List Char) : ∃ effort, extractRequestedEffort body = .ok effort :=
  isOk_iff.mp (between_isOk rfl '"' body)

/-! ### When the body can be rewritten -/

theorem indexMut_isOk {value : Json} {key : String} {f : Json → Except Panic Json} :
    (indexMut value key f).isOk = true ↔ indexable value = true ∧ (f ((value.get key).getD .null)).isOk = true := by
  cases value with
  | null => simp [indexMut, indexable, Json.get]
  | object fields => simp [indexMut, indexable, Json.get]
  | _ => exact iff_of_false Bool.false_ne_true fun h => Bool.false_ne_true h.1

/-- The body and its `output_config`, if it has one, are null or an object. -/
def EffortPlace (json : Json) : Prop :=
  indexable json = true ∧ ∀ config, json.get "output_config" = some config → indexable config = true

theorem setEffort_isOk (json : Json) (effort : List Char) : (setEffort json effort).isOk = true ↔ EffortPlace json := by
  rw [setEffort, indexMut_isOk, indexMut_isOk, EffortPlace]
  cases json.get "output_config" with
  | none => simp [indexable, Except.isOk, Except.toBool]
  | some config => simp [Except.isOk, Except.toBool]

/-- The second case indexes a body that has a `thinking` field, so it is an object. -/
theorem adaptThinking_isOk (json : Json) : (adaptThinking json).isOk = true := by
  unfold adaptThinking
  split
  · rename_i enabled
    obtain ⟨thinking, found, _⟩ := Option.bind_eq_some_iff.mp enabled
    have typed := Json.isObject_of_get found
    refine indexMut_isOk.mpr ⟨?_, rfl⟩
    cases json <;> first | rfl | cases typed
  · rfl

theorem rewritten_isOk {serde : Serde} {headers : List (String × List Char)} {bodyBytes : List UInt8}
    {rewrite : Json → Except Panic Json} :
    (rewritten serde headers bodyBytes rewrite).isOk = true ↔
      ∀ json, serde.fromSlice bodyBytes = some json → (rewrite json).isOk = true := by
  unfold rewritten
  cases serde.fromSlice bodyBytes with
  | none => exact iff_of_true rfl (fun _ parsed => nomatch parsed)
  | some json =>
    simp only [isOk_map, Option.some.injEq]
    exact ⟨fun h _ same => same ▸ h, fun h => h json rfl⟩

/-- The error text reports an unsupported effort and lists, in brackets, one that is known. -/
def CapsEffort (bodyText : List Char) : Prop :=
  mentions bodyText "invalid_reasoning_effort" = true ∧ ∃ level, parseMaxSupportedEffort bodyText = .ok (some level)

theorem planRetry_isOk {serde : Serde} {bodyText : List Char} {headers : List (String × List Char)}
    {bodyBytes : List UInt8} :
    (planRetry serde bodyText headers bodyBytes).isOk = true ↔
      (CapsEffort bodyText → ∀ json, serde.fromSlice bodyBytes = some json → EffortPlace json) := by
  unfold planRetry
  cases reported : mentions bodyText "invalid_reasoning_effort" with
  | true =>
    obtain ⟨level, parsed⟩ := parseMaxSupportedEffort_ok bodyText
    obtain ⟨requested, extracted⟩ := extractRequestedEffort_ok bodyText
    rw [if_pos rfl, parsed]
    cases level with
    | none =>
      refine iff_of_true rfl fun caps => ?_
      obtain ⟨_, level, listed⟩ := caps
      rw [parsed] at listed
      cases listed
    | some level =>
      simp only [bind, Except.bind, extracted]
      rw [rewritten_isOk]
      simp only [setEffort_isOk]
      exact ⟨fun h _ => h, fun h => h ⟨reported, level, parsed⟩⟩
  | false =>
    refine iff_of_true ?_ fun caps => ?_
    · rw [if_neg Bool.false_ne_true]
      split
      · exact rewritten_isOk.mpr fun json _ => adaptThinking_isOk json
      · split
        · exact rewritten_isOk.mpr fun _ _ => rfl
        · rfl
    · rw [CapsEffort, reported] at caps
      cases caps.1

/-! ### What the retry answers -/

inductive IsRewrite (json : Json) : Json → Prop
  | effort (level : List Char) {after : Json} (set : setEffort json level = .ok after) : IsRewrite json after
  | adaptive {after : Json} (adapted : adaptThinking json = .ok after) : IsRewrite json after
  | stripped : IsRewrite json (stripThinking json)

/-- The response of a rewritten request, or the original error put back. -/
inductive Answers (serde : Serde) (send : List (String × List Char) → List UInt8 → Option UpstreamResponse)
    (resp : UpstreamResponse) (bodyBytes : List UInt8) : UpstreamResponse → Prop
  | retried {json after : Json} {headers : List (String × List Char)} {body : List UInt8} {response : UpstreamResponse}
      (parsed : serde.fromSlice bodyBytes = some json) (rewrite : IsRewrite json after)
      (printed : serde.toVec after = some body) (sent : send headers body = some response) :
      Answers serde send resp bodyBytes response
  | original : Answers serde send resp bodyBytes (rebuildResponse resp.status (fromUtf8Lossy (resp.body.getD [])))

theorem rewritten_cases {serde : Serde} {headers : List (String × List Char)} {bodyBytes : List UInt8}
    {rewrite : Json → Except Panic Json} {plan : Retry} (h : rewritten serde headers bodyBytes rewrite = .ok plan) :
    plan = .original ∨ ∃ json after body, serde.fromSlice bodyBytes = some json ∧ rewrite json = .ok after ∧
      serde.toVec after = some body ∧ plan = .send headers body := by
  unfold rewritten at h
  cases parsed : serde.fromSlice bodyBytes with
  | none =>
    rw [parsed] at h
    cases h
    exact .inl rfl
  | some json =>
    rw [parsed] at h
    obtain ⟨after, changed, rfl⟩ := map_ok h
    cases printed : serde.toVec after with
    | none => exact .inl rfl
    | some body => exact .inr ⟨json, after, body, rfl, changed, printed, rfl⟩

theorem planRetry_cases {serde : Serde} {bodyText : List Char} {headers : List (String × List Char)}
    {bodyBytes : List UInt8} {plan : Retry} (h : planRetry serde bodyText headers bodyBytes = .ok plan) :
    plan = .original ∨ ∃ json after headers body, serde.fromSlice bodyBytes = some json ∧ IsRewrite json after ∧
      serde.toVec after = some body ∧ plan = .send headers body := by
  unfold planRetry at h
  split at h
  · obtain ⟨level, _, h⟩ := bind_ok h
    cases level with
    | none =>
      cases h
      exact .inl rfl
    | some level =>
      obtain ⟨_, _, h⟩ := bind_ok h
      refine (rewritten_cases h).imp_right fun sent => ?_
      obtain ⟨json, after, body, parsed, set, printed, rfl⟩ := sent
      exact ⟨json, after, headers, body, parsed, .effort level set, printed, rfl⟩
  · split at h
    · refine (rewritten_cases h).imp_right fun sent => ?_
      obtain ⟨json, after, body, parsed, adapted, printed, rfl⟩ := sent
      exact ⟨json, after, headers, body, parsed, .adaptive adapted, printed, rfl⟩
    · split at h
      · refine (rewritten_cases h).imp_right fun sent => ?_
        obtain ⟨json, after, body, parsed, stripped, printed, rfl⟩ := sent
        cases stripped
        exact ⟨json, _, _, body, parsed, .stripped, printed, rfl⟩
      · cases h
        exact .inl rfl

theorem backend400AutoRetry_answers {serde : Serde}
    {send : List (String × List Char) → List UInt8 → Option UpstreamResponse} {resp response : UpstreamResponse}
    {headers : List (String × List Char)} {bodyBytes : List UInt8}
    (h : backend400AutoRetry serde send resp headers bodyBytes = .ok response) :
    Answers serde send resp bodyBytes response := by
  have putBack := @Answers.original serde send resp bodyBytes
  unfold backend400AutoRetry at h
  cases read : resp.body with
  | none =>
    rw [read] at h putBack
    cases h
    exact putBack
  | some bytes =>
    rw [read] at h putBack
    obtain ⟨plan, planned, rfl⟩ := map_ok h
    rcases planRetry_cases planned with rfl | ⟨json, after, sentHeaders, body, parsed, rewrite, printed, rfl⟩
    · exact putBack
    · cases sent : send sentHeaders body with
      | none =>
        rw [retryWithBody, sent]
        exact putBack
      | some response =>
        rw [retryWithBody, sent]
        exact .retried parsed rewrite printed sent

/-- The retry answers, and does not panic, exactly when an effort that it has to cap has a place
in the body. -/
theorem backend400AutoRetry_answers_iff (serde : Serde)
    (send : List (String × List Char) → List UInt8 → Option UpstreamResponse) (resp : UpstreamResponse)
    (headers : List (String × List Char)) (bodyBytes : List UInt8) :
    (∃ response, backend400AutoRetry serde send resp headers bodyBytes = .ok response ∧
        Answers serde send resp bodyBytes response) ↔
      (CapsEffort (fromUtf8Lossy (resp.body.getD [])) →
        ∀ json, serde.fromSlice bodyBytes = some json → EffortPlace json) := by
  have answers : (∃ response, backend400AutoRetry serde send resp headers bodyBytes = .ok response ∧
      Answers serde send resp bodyBytes response) ↔
        (backend400AutoRetry serde send resp headers bodyBytes).isOk = true := by
    rw [isOk_iff]
    constructor
    · intro h
      obtain ⟨response, ok, _⟩ := h
      exact ⟨response, ok⟩
    · intro h
      obtain ⟨response, ok⟩ := h
      exact ⟨response, ok, backend400AutoRetry_answers ok⟩
  rw [answers, backend400AutoRetry]
  cases resp.body with
  | none => exact iff_of_true rfl fun caps => absurd caps.1 (by decide)
  | some bytes =>
    rw [isOk_map]
    exact planRetry_isOk

/-! ### An effort without a place -/

def stringConfig : List UInt8 × Json :=
  (utf8 "\x7b\"output_config\":\"high\"\x7d".toList, .object [("output_config", .string "high")])

def effortError : UpstreamResponse where
  status := 400
  headers := []
  fits := Nat.zero_le _
  body := some (utf8 "invalid_reasoning_effort: supported values: [medium]".toList)

/-- An `output_config` that is a string has no place for the capped effort. -/
theorem string_output_config_panics :
    ¬ ∀ serde send resp headers bodyBytes, ∃ response,
        backend400AutoRetry serde send resp headers bodyBytes = .ok response ∧
          Answers serde send resp bodyBytes response := by
  intro total
  obtain ⟨response, answered, _⟩ :=
    total (.ofTexts stringConfig stringConfig) (fun _ _ => none) effortError [] stringConfig.1
  have panics : (backend400AutoRetry (.ofTexts stringConfig stringConfig) (fun _ _ => none) effortError []
      stringConfig.1).isOk = false := by decide
  rw [answered] at panics
  cases panics

end Anycode.Pipeline
