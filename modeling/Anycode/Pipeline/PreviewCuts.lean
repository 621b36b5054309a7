import Anycode.Pipeline.Response

/-!
# Previews cut at a byte

An error response is logged up to byte 1000, and the text of a stream is summarized up to byte
500. The cuts are at fixed bytes of texts that the upstream chose; this is when they are safe.
-/

namespace Anycode.Pipeline
open Data Config Metrics Thinking

/-- The text can be cut at byte `n`, if it is longer than that. -/
def Fits (n : Nat) (text : List Char) : Prop := byteLen text ≤ n ∨ IsCharBoundary n text

/-- A text that is too long is cut, and shown with something behind the cut. -/
theorem cut_isOk (n : Nat) (text : List Char) (f : List Char → List Char) :
    (if byteLen text > n then (sliceTo text n).map f else .ok text).isOk = true ↔ Fits n text := by
  unfold Fits
  split
  · rename_i long
    rw [isOk_map, sliceTo_isOk, or_iff_right (Nat.not_le.mpr long)]
  · rename_i short
    exact iff_of_true rfl (.inl (Nat.not_lt.mp short))

/-! ### The summary of a stream -/

theorem finalText_foldl (events : List SseEvent) (summary : SseSummary) :
    (events.foldl SseSummary.add summary).finalText = summary.finalText ++ events.flatMap textDelta := by
  induction events generalizing summary with
  | nil => exact (List.append_nil _).symm
  | cons event rest ih =>
    rw [List.foldl_cons, ih, SseSummary.add, List.flatMap_cons, List.append_assoc]

theorem textPreview_isOk (text : List Char) : (textPreview text).isOk = true ↔ Fits 500 text := cut_isOk 500 text _

theorem summaryJson_isOk (total : UInt32) (summary : SseSummary) :
    (summaryJson total summary).isOk = true ↔ Fits 500 summary.finalText := by
  rw [← textPreview_isOk, summaryJson]
  cases text : summary.finalText with
  | nil => exact iff_of_true rfl rfl
  | cons c rest =>
    simp only [List.isEmpty_cons, Bool.false_eq_true, if_false]
    cases textPreview (c :: rest) with
    | error panic => exact iff_of_false (fun h => nomatch h) (fun h => nomatch h)
    | ok preview => exact iff_of_true rfl rfl

theorem summarizeEvents_isOk (serde : SerdePretty) (events : List SseEvent) (pretty : Bool) :
    (summarizeEvents serde events pretty).isOk = true ↔ Fits 500 (events.flatMap textDelta) := by
  rw [summarizeEvents, isOk_map, summaryJson_isOk, finalText_foldl]
  rfl

/-! ### Previews of bodies -/

/-- What `redact_body` needs of a body that is no event stream: it shows nothing of it, or it shows
parsed JSON, or the masking of tokens skips whole characters. -/
def Previewable (serde : SerdePretty) (bytes : List UInt8) (contentType : List Char) (limit : Option Nat) : Prop :=
  bytes = [] ∨ limit = some 0 ∨
    (textContains contentType applicationJson = true ∧ (serde.fromSlice (withinLimit bytes limit)).isSome = true) ∨
      SkipsWhole bearerMarker firstWord (fromUtf8Lossy (withinLimit bytes limit))

theorem redactBody_isOk {serde : SerdePretty} {bytes : List UInt8} {contentType : List Char} {limit : Option Nat}
    {pretty : Bool} (plain : textContains contentType eventStream = false) :
    (redactBody serde bytes contentType limit pretty).isOk = true ↔ Previewable serde bytes contentType limit := by
  unfold redactBody Previewable
  simp only [plain, Bool.false_eq_true, if_false, List.isEmpty_iff]
  split
  · rename_i empty
    exact iff_of_true rfl (.inl empty)
  · rename_i nonempty
    rw [or_iff_right nonempty]
    split
    · rename_i nothing
      exact iff_of_true rfl (.inl nothing)
    · rename_i some_
      rw [or_iff_right some_, ← maskTokens_isOk]
      cases textContains contentType applicationJson with
      | false =>
        rw [if_neg Bool.false_ne_true, isOk_map]
        exact (or_iff_right fun json => Bool.false_ne_true json.1).symm
      | true =>
        rw [if_pos rfl]
        cases serde.fromSlice (withinLimit bytes limit) with
        | none => simp
        | some value => exact iff_of_true rfl (.inl ⟨rfl, rfl⟩)

theorem redactBody_stream_isOk {serde : SerdePretty} {bytes : List UInt8} {contentType : List Char}
    {limit : Option Nat} {pretty : Bool} (streaming : textContains contentType eventStream = true) :
    (redactBody serde bytes contentType limit pretty).isOk = true ↔
      Fits 500 ((parseSseEvents serde bytes).flatMap textDelta) := by
  unfold redactBody
  cases bytes with
  | nil => exact iff_of_true rfl (.inl (Nat.zero_le 500))
  | cons byte rest =>
    simp only [streaming, List.isEmpty_cons, Bool.false_eq_true, if_false, if_true]
    rw [isOk_map, summarizeSseStream, summarizeEvents_isOk]

/-! ### The stage -/

theorem errorPreview_isOk (body : List UInt8) : (errorPreview body).isOk = true ↔ Fits 1000 (fromUtf8Lossy body) :=
  cut_isOk 1000 (fromUtf8Lossy body) _

def previewLimit (debug : DebugLoggingConfig) : Option Nat :=
  if debug.fullBody then none else some debug.bodyPreviewBytes.toNat

/-- A body that is read here can be logged, if its status is an error, and previewed, at the
log level that previews bodies. -/
def Loggable (serde : SerdePretty) (env : ResponseEnv) (resp : UpstreamResponse) : Prop :=
  isEventStream resp = false → ∀ body, resp.body = some body →
    (isSuccess resp.status = false → Fits 1000 (fromUtf8Lossy body)) ∧
      (env.debug.level = .full → Previewable serde body ((contentTypeOf resp).getD []) (previewLimit env.debug))

theorem bodyPreview_isOk {serde : SerdePretty} {env : ResponseEnv} {resp : UpstreamResponse} {body : List UInt8}
    (span : RequestSpan) (plain : isEventStream resp = false) :
    (bodyPreview serde env (contentTypeOf resp) body span).isOk = true ↔
      (env.debug.level = .full →
        Previewable serde body ((contentTypeOf resp).getD []) (previewLimit env.debug)) := by
  have notStream : textContains ((contentTypeOf resp).getD []) eventStream = false := by
    unfold isEventStream at plain
    cases found : contentTypeOf resp with
    | none => rfl
    | some ct => rwa [found] at plain
  unfold bodyPreview
  split
  · rename_i full
    rw [isOk_map, redactBody_isOk notStream]
    exact ⟨fun previewable _ => previewable, fun previewable => previewable full⟩
  · rename_i notFull
    exact iff_of_true rfl fun full => absurd full notFull

theorem logErrorBody_isOk {status : Nat} {body : List UInt8} :
    (logErrorBody status body).isOk = true ↔ (isSuccess status = false → Fits 1000 (fromUtf8Lossy body)) := by
  unfold logErrorBody
  split
  · rename_i success
    exact iff_of_true rfl fun failure => absurd (success.symm.trans failure) (by decide)
  · rename_i failure
    rw [errorPreview_isOk]
    exact ⟨fun fits _ => fits, fun fits => fits (Bool.eq_false_iff.mpr failure)⟩

theorem drop_new_isOk (serde : SerdePretty) (span : RequestSpan) (debug : DebugLoggingConfig)
    (contentType : Option (List Char)) (rewriter : Option Bool) (thinking : Bool) (now : Nat) :
    ((Metrics.ObservedStream.new span (previewFor debug contentType) rewriter thinking).drop serde now).isOk = true := by
  have empty : ∀ preview, previewFor debug contentType = some preview → preview.buffer = [] := by
    intro preview shown
    unfold previewFor at shown
    split at shown
    · dsimp only at shown
      split at shown
      · cases shown
        rfl
      · unfold ResponsePreview.new at shown
        split at shown
        · cases shown
        · cases shown
          rfl
    · cases shown
  unfold Metrics.ObservedStream.drop Metrics.ObservedStream.finish Metrics.ObservedStream.new
  dsimp only
  rw [isOk_map]
  cases shown : previewFor debug contentType with
  | none => rfl
  | some preview =>
    unfold Metrics.ObservedStream.withPreview
    rw [isOk_map, empty preview shown]
    rfl

theorem handleResponse_isOk (serde : SerdePretty) (env : ResponseEnv) (resp : UpstreamResponse) (thinking : Bool)
    (modelMapping : Option ModelMapping) (ctx : PipelineContext) :
    (handleResponse serde env resp thinking modelMapping ctx).isOk = true ↔ Loggable serde env resp := by
  unfold handleResponse Loggable
  cases streaming : isEventStream resp with
  | true =>
    refine iff_of_true ?_ fun plain => nomatch plain
    rw [if_pos rfl, streamResponse]
    dsimp only
    split
    · rfl
    · rw [isOk_map]
      exact drop_new_isOk serde _ _ _ _ _ _
  | false =>
    rw [if_neg Bool.false_ne_true, bufferedResponse]
    cases resp.body with
    | none => exact iff_of_true rfl fun _ body read => nomatch read
    | some body =>
      simp only [Option.some.injEq, forall_const, forall_eq']
      rw [← logErrorBody_isOk, ← bodyPreview_isOk
        ((withHeaderPreview env.debug resp.headers (ctx.span.setStatus resp.status)).markFirstByte env.firstByteAt)
        streaming]
      cases bodyPreview serde env (contentTypeOf resp) body
          ((withHeaderPreview env.debug resp.headers (ctx.span.setStatus resp.status)).markFirstByte env.firstByteAt) with
      | error panic => exact iff_of_false (fun h => nomatch h) (fun h => nomatch h.2)
      | ok span =>
        simp only [bind, Except.bind]
        cases logErrorBody resp.status body with
        | error panic => exact iff_of_false (fun h => nomatch h) (fun h => nomatch h.1)
        | ok logged => exact iff_of_true rfl ⟨rfl, rfl⟩

/-! ### The end of a stream -/

section
variable (serde : SerdePretty) (mapping : ModelMapping)

/-- The stream as it is when it is first told to finish. -/
def beforeEnd (s : Metrics.ObservedStream) : List (Poll × Nat) → Metrics.ObservedStream
  | [] => s
  | (poll, now) :: rest =>
    if poll.expired then s
    else
      match poll.inner with
      | .data bytes => beforeEnd (s.deliver serde mapping bytes now).stream rest
      | .pending => beforeEnd s rest
      | _ => s

def Summarizable (s : Metrics.ObservedStream) : Prop :=
  s.span.isSome = true → ∀ preview, s.responsePreview = some preview →
    Fits 500 ((parseSseEvents serde preview.buffer).flatMap textDelta)

/-- The preview, if there is one, is of an event stream. -/
def ShowsEvents (s : Metrics.ObservedStream) : Prop :=
  ∀ preview, s.responsePreview = some preview → textContains preview.contentType eventStream = true

variable {serde mapping}

theorem finish_isOk {s : Metrics.ObservedStream} (events : ShowsEvents s) (now : Nat) :
    (s.finish serde now).isOk = true ↔ Summarizable serde s := by
  unfold Metrics.ObservedStream.finish Summarizable
  cases s.span with
  | none => exact iff_of_true rfl fun held => nomatch held
  | some span =>
    dsimp only
    rw [isOk_map]
    unfold Metrics.ObservedStream.withPreview
    cases shown : s.responsePreview with
    | none => exact iff_of_true rfl fun _ preview same => nomatch same
    | some preview =>
      dsimp only
      rw [isOk_map, redactBody_stream_isOk (events preview shown)]
      exact ⟨fun fits _ _ same => Option.some.inj same ▸ fits, fun fits => fits rfl preview rfl⟩

theorem deliver_showsEvents {s : Metrics.ObservedStream} (events : ShowsEvents s) (bytes : List UInt8) (now : Nat) :
    ShowsEvents (s.deliver serde mapping bytes now).stream := by
  intro preview shown
  obtain ⟨before, found, rfl⟩ := Option.map_eq_some_iff.mp shown
  rw [ResponsePreview.push_contentType]
  exact events before found

theorem serve_isOk_of_done (serde : SerdePretty) (mapping : ModelMapping) (dropAt : Nat) (polls : List (Poll × Nat))
    {s : Metrics.ObservedStream}
    (done : s.span = none) : (s.serve serde mapping dropAt polls).isOk = true := by
  have finishes : ∀ (s : Metrics.ObservedStream) now, s.span = none → s.finish serde now = .ok (s.callback, []) := by
    intro s now done
    rw [Metrics.ObservedStream.finish, done]
  induction polls generalizing s with
  | nil =>
    rw [Metrics.ObservedStream.serve, isOk_map, Metrics.ObservedStream.drop, finishes s dropAt done]
    rfl
  | cons timed rest ih =>
    obtain ⟨poll, now⟩ := timed
    have polled : ∃ polled, s.pollNext serde mapping poll now = .ok polled ∧ polled.stream.span = none := by
      unfold Metrics.ObservedStream.pollNext
      split
      · have marked : s.markTimedOut.span = none := by rw [Metrics.ObservedStream.markTimedOut, done]; rfl
        rw [Metrics.ObservedStream.close, finishes _ now marked]
        exact ⟨_, rfl, marked⟩
      · cases poll.inner with
        | data bytes => exact ⟨_, rfl, by rw [Metrics.ObservedStream.deliver, done]; rfl⟩
        | pending => exact ⟨_, rfl, done⟩
        | _ =>
          dsimp only
          rw [Metrics.ObservedStream.close, finishes _ now done]
          exact ⟨_, rfl, done⟩
    obtain ⟨polled, ok, gone⟩ := polled
    obtain ⟨served, later⟩ := isOk_iff.mp (ih gone)
    simp only [Metrics.ObservedStream.serve, ok, later, bind, Except.bind]
    rfl

/-- A stream is read to its end without a panic exactly when its preview can be summarized where
it is first told to finish. -/
theorem serve_isOk (serde : SerdePretty) (mapping : ModelMapping) (dropAt : Nat) (polls : List (Poll × Nat))
    {s : Metrics.ObservedStream} (events : ShowsEvents s) :
    (s.serve serde mapping dropAt polls).isOk = true ↔ Summarizable serde (beforeEnd serde mapping s polls) := by
  -- A poll that closes the stream panics exactly when finishing does, and nothing panics after it.
  have closes : ∀ (s closing : Metrics.ObservedStream) poll now rest answer, ShowsEvents closing →
      s.pollNext serde mapping poll now = closing.close serde now answer →
      ((s.serve serde mapping dropAt ((poll, now) :: rest)).isOk = true ↔ Summarizable serde closing) := by
    intro s closing poll now rest answer events same
    rw [← finish_isOk events now, Metrics.ObservedStream.serve, same, Metrics.ObservedStream.close]
    cases finished : closing.finish serde now with
    | error panic => exact iff_of_false (fun h => nomatch h) (fun h => nomatch h)
    | ok done =>
      have gone := (Metrics.ObservedStream.finish_eq_ok serde finished).2.2.1
      obtain ⟨served, later⟩ := isOk_iff.mp (serve_isOk_of_done serde mapping dropAt rest gone)
      refine iff_of_true ?_ rfl
      simp only [Except.map, bind, Except.bind, later]
      rfl
  induction polls generalizing s with
  | nil => rw [Metrics.ObservedStream.serve, isOk_map, Metrics.ObservedStream.drop, finish_isOk events, beforeEnd]
  | cons timed rest ih =>
    obtain ⟨poll, now⟩ := timed
    unfold beforeEnd
    split
    · rename_i expired
      have timedOut := closes s s.markTimedOut poll now rest .idleTimeout events
        (by rw [Metrics.ObservedStream.pollNext, if_pos expired])
      rw [timedOut, Summarizable, Summarizable, Metrics.ObservedStream.markTimedOut, Option.isSome_map]
    · rename_i inTime
      cases inner : poll.inner with
      | data bytes =>
        have delivered : s.pollNext serde mapping poll now = .ok (s.deliver serde mapping bytes now) := by
          rw [Metrics.ObservedStream.pollNext, if_neg inTime, inner]
        refine Iff.trans ?_ (ih (deliver_showsEvents events bytes now))
        rw [Metrics.ObservedStream.serve, delivered]
        simp only [bind, Except.bind]
        cases (s.deliver serde mapping bytes now).stream.serve serde mapping dropAt rest <;> rfl
      | pending =>
        have waited : s.pollNext serde mapping poll now = .ok ⟨s, [], .pending⟩ := by
          rw [Metrics.ObservedStream.pollNext, if_neg inTime, inner]
        refine Iff.trans ?_ (ih events)
        rw [Metrics.ObservedStream.serve, waited]
        simp only [bind, Except.bind]
        cases s.serve serde mapping dropAt rest <;> rfl
      | error => exact closes s s poll now rest _ events (by rw [Metrics.ObservedStream.pollNext, if_neg inTime, inner])
      | ended => exact closes s s poll now rest _ events (by rw [Metrics.ObservedStream.pollNext, if_neg inTime, inner])

end

/-! ### A response from its arrival to its end -/

/-- The stream that a streaming response is read through. -/
def openedStream (env : ResponseEnv) (resp : UpstreamResponse) (thinking : Bool) (modelMapping : Option ModelMapping)
    (ctx : PipelineContext) : Metrics.ObservedStream :=
  .new (withHeaderPreview env.debug resp.headers (ctx.span.setStatus resp.status))
    (previewFor env.debug (contentTypeOf resp)) (modelMapping.map fun _ => false) thinking

/-- Stage 7, and then the polls and the drop of the stream that it may return. -/
def respond (serde : SerdePretty) (env : ResponseEnv) (resp : UpstreamResponse) (thinking : Bool)
    (modelMapping : Option ModelMapping) (ctx : PipelineContext) (dropAt : Nat) (polls : List (Poll × Nat)) :
    Except Panic Unit := do
  let staged ← handleResponse serde env resp thinking modelMapping ctx
  match staged with
  | (.ok ⟨_, _, .stream observed mapping⟩, _) =>
    let _ ← observed.serve serde (mapping.getD ⟨"", ""⟩) dropAt polls
    pure ()
  | _ => pure ()

theorem previewFor_showsEvents (env : ResponseEnv) {resp : UpstreamResponse} (thinking : Bool)
    (modelMapping : Option ModelMapping) (ctx : PipelineContext) (streaming : isEventStream resp = true) :
    ShowsEvents (openedStream env resp thinking modelMapping ctx) := by
  intro preview shown
  unfold isEventStream at streaming
  cases found : contentTypeOf resp with
  | none =>
    rw [found] at streaming
    cases streaming
  | some ct =>
    rw [found, Option.any_some] at streaming
    change previewFor env.debug (contentTypeOf resp) = some preview at shown
    rw [found] at shown
    unfold previewFor at shown
    split at shown
    · dsimp only at shown
      split at shown
      · cases shown
        exact streaming
      · unfold ResponsePreview.new at shown
        split at shown
        · cases shown
        · cases shown
          exact streaming
    · cases shown

/-- What a response must satisfy to be handled: its body can be logged and previewed, and the
stream that it opens can be summarized where it ends. -/
structure Showable (serde : SerdePretty) (env : ResponseEnv) (resp : UpstreamResponse) (thinking : Bool)
    (modelMapping : Option ModelMapping) (ctx : PipelineContext) (polls : List (Poll × Nat)) : Prop where
  body : Loggable serde env resp
  stream : isEventStream resp = true → env.builds (keptHeaders modelMapping resp.headers) = true →
    Summarizable serde (beforeEnd serde (modelMapping.getD ⟨"", ""⟩) (openedStream env resp thinking modelMapping ctx) polls)

/-- The two cuts, and handling a response as a whole: none of them panics exactly when the texts
have character boundaries where they are cut. -/
theorem respond_isOk_iff (serde : SerdePretty) (env : ResponseEnv) (resp : UpstreamResponse) (thinking : Bool)
    (modelMapping : Option ModelMapping) (ctx : PipelineContext) (dropAt : Nat) (polls : List (Poll × Nat)) :
    ((respond serde env resp thinking modelMapping ctx dropAt polls).isOk = true ↔
        Showable serde env resp thinking modelMapping ctx polls) ∧
      (∀ body, (errorPreview body).isOk = true ↔ Fits 1000 (fromUtf8Lossy body)) ∧
        ∀ events pretty, (summarizeEvents serde events pretty).isOk = true ↔ Fits 500 (events.flatMap textDelta) := by
  refine ⟨?_, errorPreview_isOk, summarizeEvents_isOk serde⟩
  have handled := handleResponse_isOk serde env resp thinking modelMapping ctx
  unfold respond
  cases staged : handleResponse serde env resp thinking modelMapping ctx with
  | error panic =>
    refine iff_of_false (fun h => nomatch h) fun showable => ?_
    rw [staged] at handled
    exact nomatch handled.mpr showable.body
  | ok result =>
    rw [staged] at handled
    have loggable := handled.mp rfl
    have parts : Showable serde env resp thinking modelMapping ctx polls ↔
        (isEventStream resp = true → env.builds (keptHeaders modelMapping resp.headers) = true →
          Summarizable serde (beforeEnd serde (modelMapping.getD ⟨"", ""⟩)
            (openedStream env resp thinking modelMapping ctx) polls)) :=
      ⟨Showable.stream, Showable.mk loggable⟩
    rw [parts]
    unfold handleResponse at staged
    split at staged
    · rename_i streaming
      unfold streamResponse at staged
      dsimp only at staged
      split at staged
      · rename_i built
        cases staged
        have read := serve_isOk serde (modelMapping.getD ⟨"", ""⟩) dropAt polls
          (previewFor_showsEvents env thinking modelMapping ctx streaming)
        simp only [streaming, built, forall_const]
        rw [← read]
        simp only [bind, Except.bind, openedStream]
        cases Metrics.ObservedStream.serve serde (modelMapping.getD ⟨"", ""⟩) dropAt _ polls <;> exact Iff.rfl
      · rename_i unbuilt
        obtain ⟨dropped, _, rfl⟩ := map_ok staged
        exact iff_of_true rfl fun _ built => absurd built unbuilt
    · rename_i plain
      refine iff_of_true ?_ fun streaming => absurd streaming plain
      rcases bufferedResponse_ok staged with ⟨span, rfl⟩ | ⟨body, span, rfl⟩
      · rfl
      · unfold complete
        dsimp only
        split <;> rfl

/-! ### An accent on byte 1000 -/

def accentedError : UpstreamResponse where
  status := 500
  headers := []
  fits := Nat.zero_le _
  body := some (utf8 (List.replicate 999 'a' ++ ['é']))

/-- An error body of 999 ASCII characters and a two-byte one aborts the proxy. -/
theorem accented_error_panics :
    ¬ ∀ serde env resp thinking modelMapping ctx dropAt polls,
        (respond serde env resp thinking modelMapping ctx dropAt polls).isOk = true := by
  intro safe
  have handled := safe ⟨⟨fun _ => none, fun _ => none⟩, fun _ => none⟩
    { debug := {}, builds := fun _ => true, firstByteAt := 1, finishedAt := 2 } accentedError false none
    { span := ⟨{ id := "r1", backend := "claude" }, { started := 0 }⟩ } 3 []
  obtain ⟨_, responded⟩ := isOk_iff.mp handled
  obtain ⟨staged, ok, _⟩ := bind_ok responded
  have loggable := (handleResponse_isOk _ _ _ _ _ _).mp (isOk_iff.mpr ⟨staged, ok⟩)
  have fits := (loggable rfl _ rfl).1 rfl
  rw [fromUtf8Lossy_utf8] at fits
  rcases fits with short | boundary
  · rw [byteLen_append, byteLen_replicate] at short
    exact absurd short (by decide)
  · exact not_isCharBoundary_inside (by rw [byteLen_replicate]; decide) (by rw [byteLen_replicate]; decide) boundary

end Anycode.Pipeline
