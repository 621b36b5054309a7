import Anycode.Metrics.Hub
import Anycode.Metrics.Preview
import Anycode.Pipeline.ObservedStream

/-!
# The observed stream and its span

`ObservedStream` with all its fields: the span that it owns until it hands it to the hub, and
the preview of the response. What an operation hands to the hub is part of its result.
-/

namespace Anycode.Metrics
open Data Pipeline

structure ResponsePreview where
  limit : Option Nat
  contentType : List Char
  buffer : List UInt8 := []
  prettyPrint : Bool

namespace ResponsePreview

def new (limit : Nat) (contentType : List Char) : Option ResponsePreview :=
  if limit = 0 then none else some { limit := some limit, contentType := contentType, prettyPrint := false }

def full (contentType : List Char) (prettyPrint : Bool) : ResponsePreview :=
  { limit := none, contentType := contentType, prettyPrint := prettyPrint }

def push (preview : ResponsePreview) (bytes : List UInt8) : ResponsePreview :=
  match preview.limit with
  | some limit =>
    if preview.buffer.length ≥ limit then preview
    else
      let remaining := limit - preview.buffer.length
      { preview with
        buffer := preview.buffer ++ if bytes.length > remaining then bytes.take remaining else bytes }
  | none => { preview with buffer := preview.buffer ++ bytes }

@[simp] theorem push_contentType (preview : ResponsePreview) (bytes : List UInt8) :
    (preview.push bytes).contentType = preview.contentType := by
  unfold push
  split
  · split <;> rfl
  · rfl

end ResponsePreview

/-- The whole state of the stream. The callback's calls so far are history that no step reads. -/
structure ObservedStream extends Pipeline.ObservedStream where
  span : Option RequestSpan
  responsePreview : Option ResponsePreview
  completions : List (List UInt8) := []

/-- The stream after an operation, what the operation handed to the hub, and its answer. -/
structure Polled where
  stream : ObservedStream
  finished : List Finish
  answer : StreamPoll

namespace ObservedStream

def new (span : RequestSpan) (responsePreview : Option ResponsePreview) (rewriter : Option Bool) (onComplete : Bool) :
    ObservedStream :=
  { rewriter := rewriter, onComplete := onComplete, span := some span, responsePreview := responsePreview }

variable (serde : SerdePretty) (mapping : ModelMapping)

def withPreview (span : RequestSpan) : Option ResponsePreview → Except Panic RequestSpan
  | some preview =>
    (redactBody serde preview.buffer preview.contentType preview.limit preview.prettyPrint).map fun value =>
      span.updateMeta fun previous => { previous with bodyPreview := value }
  | none => .ok span

def callback (s : ObservedStream) : ObservedStream :=
  { s with
    toObservedStream := s.toObservedStream.finish
    completions :=
      if s.onComplete && !s.responseBuffer.isEmpty then s.completions ++ [s.responseBuffer] else s.completions }

def finish (s : ObservedStream) (now : Nat) : Except Panic (ObservedStream × List Finish) :=
  match s.span with
  | some span =>
    (withPreview serde span s.responsePreview).map fun span =>
      ({ s.callback with span := none, responsePreview := none }, [⟨span, now⟩])
  | none => .ok (s.callback, [])

def markTimedOut (s : ObservedStream) : ObservedStream := { s with span := s.span.map RequestSpan.markTimedOut }

def close (s : ObservedStream) (now : Nat) (answer : StreamPoll) : Except Panic Polled :=
  (s.finish serde now).map fun done => ⟨done.1, done.2, answer⟩

def deliver (s : ObservedStream) (bytes : List UInt8) (now : Nat) : Polled :=
  let (rewriter, bytes) := Pipeline.ObservedStream.rewriteData serde.toSerde mapping s.rewriter bytes
  { stream :=
      { s with
        rewriter := rewriter
        span := s.span.map fun span => (span.markFirstByte now).addResponseBytes bytes.length
        responsePreview := s.responsePreview.map fun preview => preview.push bytes
        responseBuffer := if s.onComplete then s.responseBuffer ++ bytes else s.responseBuffer }
    finished := []
    answer := .data bytes }

def pollNext (s : ObservedStream) (poll : Poll) (now : Nat) : Except Panic Polled :=
  if poll.expired then s.markTimedOut.close serde now .idleTimeout
  else
    match poll.inner with
    | .data bytes => .ok (s.deliver serde mapping bytes now)
    | .error => s.close serde now .upstreamError
    | .ended => s.close serde now .ended
    | .pending => .ok ⟨s, [], .pending⟩

def drop (s : ObservedStream) (now : Nat) : Except Panic (ObservedStream × List Finish) := s.finish serde now

end ObservedStream

/-! ### The bytes of the stream -/

namespace ObservedStream
variable (serde : SerdePretty) (mapping : ModelMapping)

theorem finish_eq_ok {s after : ObservedStream} {now : Nat} {finished : List Finish}
    (h : s.finish serde now = .ok (after, finished)) :
    after.toObservedStream = s.toObservedStream.finish ∧ after.completions = s.callback.completions ∧
      after.span = none ∧ finished.length = s.span.isSome.toNat := by
  unfold finish at h
  cases held : s.span with
  | none =>
    rw [held] at h
    cases h
    exact ⟨rfl, rfl, held, rfl⟩
  | some span =>
    rw [held] at h
    obtain ⟨previewed, _, same⟩ := map_ok h
    cases same
    exact ⟨rfl, rfl, rfl, rfl⟩

/-- On its bytes the stream is the one without span and preview. -/
theorem pollNext_refines {s : ObservedStream} {poll : Poll} {now : Nat} {polled : Polled}
    (h : s.pollNext serde mapping poll now = .ok polled) :
    (polled.stream.toObservedStream, polled.answer) = s.toObservedStream.pollNext serde.toSerde mapping poll := by
  have closes : ∀ (s : ObservedStream) answer, s.close serde now answer = .ok polled →
      (polled.stream.toObservedStream, polled.answer) = (s.toObservedStream.finish, answer) := by
    intro s answer closed
    obtain ⟨done, finished, rfl⟩ := map_ok closed
    rw [(finish_eq_ok serde finished).1]
  unfold pollNext at h
  unfold Pipeline.ObservedStream.pollNext
  split at h
  · rename_i expired
    rw [if_pos expired]
    exact closes s.markTimedOut _ h
  · rename_i inTime
    rw [if_neg inTime]
    cases inner : poll.inner with
    | data bytes =>
      rw [inner] at h
      cases h
      rfl
    | error =>
      rw [inner] at h
      exact closes s _ h
    | ended =>
      rw [inner] at h
      exact closes s _ h
    | pending =>
      rw [inner] at h
      cases h
      rfl

/-! ### What one operation does -/

/-- The operation ended the stream: the callback and the span are gone. -/
structure Closed (s after : ObservedStream) (finished : List Finish) : Prop where
  onComplete : after.onComplete = false
  completions : after.completions = s.callback.completions
  span : after.span = none
  finished : finished.length = s.span.isSome.toNat

theorem finish_closed {s after : ObservedStream} {now : Nat} {finished : List Finish}
    (h : s.finish serde now = .ok (after, finished)) : Closed s after finished := by
  obtain ⟨base, completions, span, counted⟩ := finish_eq_ok serde h
  refine ⟨?_, completions, span, counted⟩
  rw [base, Pipeline.ObservedStream.finish]
  split
  · rfl
  · rename_i called
    exact Bool.eq_false_iff.mpr called

def isOpen : StreamPoll → Bool
  | .data _ | .pending => true
  | _ => false

def answerBytes : StreamPoll → List UInt8
  | .data bytes => bytes
  | _ => []

/-- The operation left the stream going: it took the chunk in, if there was one. -/
structure Continued (s : ObservedStream) (polled : Polled) : Prop where
  answer : isOpen polled.answer = true
  onComplete : polled.stream.onComplete = s.onComplete
  completions : polled.stream.completions = s.completions
  buffer : s.onComplete = true → polled.stream.responseBuffer = s.responseBuffer ++ answerBytes polled.answer
  span : polled.stream.span.isSome = s.span.isSome
  finished : polled.finished = []

theorem close_cases {s : ObservedStream} {now : Nat} {answer : StreamPoll} {polled : Polled}
    (h : s.close serde now answer = .ok polled) : polled.answer = answer ∧ Closed s polled.stream polled.finished := by
  obtain ⟨done, finished, rfl⟩ := map_ok h
  exact ⟨rfl, finish_closed serde finished⟩

/-- Every poll continues the stream or closes it. -/
theorem pollNext_cases {s : ObservedStream} {poll : Poll} {now : Nat} {polled : Polled}
    (h : s.pollNext serde mapping poll now = .ok polled) :
    Continued s polled ∨ isOpen polled.answer = false ∧ Closed s polled.stream polled.finished := by
  unfold pollNext at h
  split at h
  · obtain ⟨answered, closed⟩ := close_cases serde h
    refine .inr ⟨by rw [answered]; rfl, closed.onComplete, closed.completions, closed.span, ?_⟩
    rw [closed.finished, markTimedOut, Option.isSome_map]
  · cases inner : poll.inner with
    | data bytes =>
      rw [inner] at h
      cases h
      refine .inl ⟨rfl, rfl, rfl, fun called => if_pos called, Option.isSome_map, rfl⟩
    | error =>
      rw [inner] at h
      obtain ⟨answered, closed⟩ := close_cases serde h
      exact .inr ⟨by rw [answered]; rfl, closed⟩
    | ended =>
      rw [inner] at h
      obtain ⟨answered, closed⟩ := close_cases serde h
      exact .inr ⟨by rw [answered]; rfl, closed⟩
    | pending =>
      rw [inner] at h
      cases h
      exact .inl ⟨rfl, rfl, rfl, fun _ => (List.append_nil _).symm, rfl, rfl⟩

/-! ### A stream from its first poll to its drop -/

structure Served where
  stream : ObservedStream
  finished : List Finish
  answers : List StreamPoll

/-- The polls, each with its clock, and then the drop. -/
def serve (dropAt : Nat) (s : ObservedStream) : List (Poll × Nat) → Except Panic Served
  | [] => (s.drop serde dropAt).map fun done => ⟨done.1, done.2, []⟩
  | (poll, now) :: rest => do
    let polled ← s.pollNext serde mapping poll now
    let served ← serve dropAt polled.stream rest
    pure ⟨served.stream, polled.finished ++ served.finished, polled.answer :: served.answers⟩

/-- The bytes that the client gets. -/
def yielded (answers : List StreamPoll) : List UInt8 := answers.flatMap answerBytes

/-- The call of the callback on these bytes: there is none without bytes. -/
def callOn (bytes : List UInt8) : List (List UInt8) := if bytes.isEmpty then [] else [bytes]

theorem serve_cons {dropAt now : Nat} {s : ObservedStream} {poll : Poll} {rest : List (Poll × Nat)} {served : Served}
    (h : serve serde mapping dropAt s ((poll, now) :: rest) = .ok served) :
    ∃ polled later, s.pollNext serde mapping poll now = .ok polled ∧
      serve serde mapping dropAt polled.stream rest = .ok later ∧
      served = ⟨later.stream, polled.finished ++ later.finished, polled.answer :: later.answers⟩ := by
  obtain ⟨polled, first, h⟩ := bind_ok h
  obtain ⟨later, second, h⟩ := bind_ok h
  exact ⟨polled, later, first, second, (pure_ok h).symm⟩

/-- The span is handed over once, whatever the polls. -/
theorem serve_finished {dropAt : Nat} {s : ObservedStream} {polls : List (Poll × Nat)} {served : Served}
    (h : serve serde mapping dropAt s polls = .ok served) : served.finished.length = s.span.isSome.toNat := by
  induction polls generalizing s served with
  | nil =>
    obtain ⟨done, finished, rfl⟩ := map_ok h
    exact (finish_closed serde finished).finished
  | cons timed rest ih =>
    obtain ⟨polled, later, first, second, rfl⟩ := serve_cons serde mapping h
    have after := ih second
    rw [List.length_append, after]
    rcases pollNext_cases serde mapping first with continued | ⟨_, closed⟩
    · rw [continued.finished, continued.span, List.length_nil, Nat.zero_add]
    · rw [closed.finished, closed.span]
      rfl

theorem callback_completions (s : ObservedStream) :
    s.callback.completions = s.completions ++ if s.onComplete then callOn s.responseBuffer else [] := by
  unfold callback callOn
  cases s.onComplete <;> cases s.responseBuffer <;> simp

/-- The callback gets what the client got before the stream ended. -/
theorem serve_completions {dropAt : Nat} {s : ObservedStream} {polls : List (Poll × Nat)} {served : Served}
    (h : serve serde mapping dropAt s polls = .ok served) :
    served.stream.completions =
      s.completions ++
        if s.onComplete then callOn (s.responseBuffer ++ yielded (served.answers.takeWhile isOpen)) else [] := by
  induction polls generalizing s served with
  | nil =>
    obtain ⟨done, finished, rfl⟩ := map_ok h
    rw [(finish_closed serde finished).completions, callback_completions]
    simp [yielded]
  | cons timed rest ih =>
    obtain ⟨polled, later, first, second, rfl⟩ := serve_cons serde mapping h
    have after := ih second
    rcases pollNext_cases serde mapping first with continued | ⟨shut, closed⟩
    · rw [after, continued.completions, continued.onComplete, List.takeWhile_cons_of_pos continued.answer]
      cases called : s.onComplete with
      | false => rfl
      | true => simp only [continued.buffer called, yielded, List.flatMap_cons, List.append_assoc]
    · rw [after, closed.onComplete, closed.completions, callback_completions,
        List.takeWhile_cons_of_neg (by rw [shut]; exact Bool.false_ne_true)]
      simp [yielded]

/-- The contract of the sources that a stream polls: a deadline that has passed stays so until it
is reset, and a stream that failed or ended has no more data. -/
structure Fused (polls : List Poll) : Prop where
  elapsed : polls.Pairwise fun earlier later => earlier.expired = true → later.expired = true
  ended : polls.Pairwise fun earlier later =>
    earlier.inner = .error ∨ earlier.inner = .ended → ∀ bytes, later.inner ≠ .data bytes

/-- A poll that brings nothing, because the deadline has passed or the inner stream has no data. -/
def Quiet (poll : Poll) : Prop := poll.expired = true ∨ ∀ bytes, poll.inner ≠ .data bytes

theorem answerBytes_quiet {s : ObservedStream} {poll : Poll} {now : Nat} {polled : Polled} (quiet : Quiet poll)
    (h : s.pollNext serde mapping poll now = .ok polled) : answerBytes polled.answer = [] := by
  have answered := congrArg Prod.snd (pollNext_refines serde mapping h)
  dsimp only at answered
  rw [answered, Pipeline.ObservedStream.pollNext]
  split
  · rfl
  · rename_i inTime
    have noData := quiet.resolve_left inTime
    cases inner : poll.inner with
    | data bytes => exact absurd inner (noData bytes)
    | _ => rfl

theorem yielded_quiet {dropAt : Nat} {s : ObservedStream} {polls : List (Poll × Nat)} {served : Served}
    (quiet : ∀ timed ∈ polls, Quiet timed.1) (h : serve serde mapping dropAt s polls = .ok served) :
    yielded served.answers = [] := by
  induction polls generalizing s served with
  | nil =>
    obtain ⟨done, _, rfl⟩ := map_ok h
    rfl
  | cons timed rest ih =>
    obtain ⟨polled, later, first, second, rfl⟩ := serve_cons serde mapping h
    rw [yielded, List.flatMap_cons, answerBytes_quiet serde mapping (quiet timed List.mem_cons_self) first]
    exact ih (fun timed member => quiet timed (List.mem_cons_of_mem _ member)) second

/-- A poll after which the stream is ended: the deadline or the inner stream said so. -/
theorem closing_poll {s : ObservedStream} {poll : Poll} {now : Nat} {polled : Polled}
    (h : s.pollNext serde mapping poll now = .ok polled) (shut : isOpen polled.answer = false) :
    poll.expired = true ∨ poll.inner = .error ∨ poll.inner = .ended := by
  have answered := congrArg Prod.snd (pollNext_refines serde mapping h)
  dsimp only at answered
  rw [answered, Pipeline.ObservedStream.pollNext] at shut
  split at shut
  · rename_i expired
    exact .inl expired
  · cases inner : poll.inner with
    | error => exact .inr (.inl rfl)
    | ended => exact .inr (.inr rfl)
    | _ =>
      rw [inner] at shut
      cases shut

/-- Over fused sources the client gets nothing after the end. -/
theorem yielded_beforeEnd {dropAt : Nat} {s : ObservedStream} {polls : List (Poll × Nat)} {served : Served}
    (fused : Fused (polls.map Prod.fst)) (h : serve serde mapping dropAt s polls = .ok served) :
    yielded (served.answers.takeWhile isOpen) = yielded served.answers := by
  induction polls generalizing s served with
  | nil =>
    obtain ⟨done, _, rfl⟩ := map_ok h
    rfl
  | cons timed rest ih =>
    obtain ⟨polled, later, first, second, rfl⟩ := serve_cons serde mapping h
    obtain ⟨firstElapsed, restElapsed⟩ := List.pairwise_cons.mp fused.elapsed
    obtain ⟨firstEnded, restEnded⟩ := List.pairwise_cons.mp fused.ended
    rw [yielded, yielded, List.flatMap_cons]
    rcases pollNext_cases serde mapping first with continued | ⟨shut, _⟩
    · rw [List.takeWhile_cons_of_pos continued.answer, List.flatMap_cons]
      exact congrArg _ (ih ⟨restElapsed, restEnded⟩ second)
    · have nothing : answerBytes polled.answer = [] := by cases answered : polled.answer <;> simp_all [isOpen, answerBytes]
      have quiet : ∀ timed ∈ rest, Quiet timed.1 := by
        intro later member
        have mapped := List.mem_map_of_mem (f := Prod.fst) member
        rcases closing_poll serde mapping first shut with expired | ended
        · exact .inl (firstElapsed later.1 mapped expired)
        · exact .inr (firstEnded later.1 mapped ended)
      rw [List.takeWhile_cons_of_neg (by rw [shut]; exact Bool.false_ne_true), nothing]
      exact (yielded_quiet serde mapping quiet second).symm

end ObservedStream

end Anycode.Metrics
