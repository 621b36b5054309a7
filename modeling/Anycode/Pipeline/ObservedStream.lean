import Anycode.Data.Chunks
import Anycode.Pipeline.ModelFrame

/-!
# The observed stream

`ObservedStream` wraps the upstream's byte stream: it ends on an idle timeout, rewrites each
chunk, and keeps the bytes for the completion callback. What it reports to the hub and the
response preview are left out. The second half says when the client's bytes are independent of
the chunk boundaries.
-/

namespace Anycode.Pipeline
open Data

inductive InnerPoll where
  | data (bytes : List UInt8)
  | error
  | ended
  | pending

inductive StreamPoll where
  | data (bytes : List UInt8)
  | idleTimeout
  | upstreamError
  | ended
  | pending

/-- The stream's state; `rewriter` is the state of its chunk rewriter, if it has one. -/
structure ObservedStream where
  rewriter : Option Bool
  onComplete : Bool
  responseBuffer : List UInt8 := []
  completed : Option (List UInt8) := none

/-- One poll: whether the deadline has passed, and the inner stream's answer. -/
structure Poll where
  expired : Bool
  inner : InnerPoll

namespace ObservedStream

def withChunkRewriter (onComplete : Bool) : ObservedStream := { rewriter := some false, onComplete := onComplete }

def finish (s : ObservedStream) : ObservedStream :=
  if s.onComplete then
    { s with
      onComplete := false
      completed := if s.responseBuffer.isEmpty then s.completed else some s.responseBuffer }
  else s

variable (serde : Serde) (mapping : ModelMapping)

def rewriteData (rewriter : Option Bool) (bytes : List UInt8) : Option Bool × List UInt8 :=
  match rewriter with
  | some anthropicDone =>
    let (anthropicDone, bytes) := rewriteChunk serde mapping anthropicDone bytes
    (some anthropicDone, bytes)
  | none => (none, bytes)

def pollNext (s : ObservedStream) (poll : Poll) : ObservedStream × StreamPoll :=
  if poll.expired then (s.finish, .idleTimeout)
  else
    match poll.inner with
    | .data bytes =>
      let (rewriter, bytes) := rewriteData serde mapping s.rewriter bytes
      ({ s with
          rewriter := rewriter
          responseBuffer := if s.onComplete then s.responseBuffer ++ bytes else s.responseBuffer },
        .data bytes)
    | .error => (s.finish, .upstreamError)
    | .ended => (s.finish, .ended)
    | .pending => (s, .pending)

/-- The bytes that the client gets over the polls. -/
def clientBytes (s : ObservedStream) : List Poll → List UInt8
  | [] => []
  | poll :: rest =>
    let (later, answer) := s.pollNext serde mapping poll
    match answer with
    | .data bytes => bytes ++ clientBytes later rest
    | _ => clientBytes later rest

end ObservedStream

/-! ### Chunk boundaries -/

def Poll.chunk (poll : Poll) : Option (List UInt8) :=
  match poll.inner with
  | .data bytes => some bytes
  | _ => none

/-- The polls bring exactly the chunks, in order, with no timeout and no upstream error; they
may find the inner stream pending at any time. -/
structure Brings (chunks : List (List UInt8)) (polls : List Poll) : Prop where
  chunks : polls.filterMap Poll.chunk = chunks
  timely : ∀ poll ∈ polls, poll.expired = false
  sound : ∀ poll ∈ polls, poll.inner ≠ .error

/-- The part, as a chunk that comes first, holds a marker and a line that names the backend's model,
and so becomes another one: always where the client's model has another name and the events can be
printed and read back, and else where their new print is not the old one. -/
structure Rewritable (serde : Serde) (mapping : ModelMapping) (part : List UInt8) : Prop where
  marked : hasMessageStart part = true ∨ hasOpenaiMarker part = true
  carries : ∃ line ∈ chunkLines part, carriesBackendModel serde mapping line = true
  changes : mapping.original ≠ mapping.backend ∧ PrintsEvents serde mapping (fromUtf8Lossy part) ∨
    utf8 (rebuiltText serde mapping part) ≠ part

theorem Rewritable.rebuiltText_ne {serde : Serde} {mapping : ModelMapping} {part : List UInt8}
    (rewritable : Rewritable serde mapping part) : utf8 (rebuiltText serde mapping part) ≠ part := by
  obtain ⟨marked, carries, ⟨distinct, printed⟩ | differs⟩ := rewritable
  · intro same
    generalize rebuilt : rebuiltText serde mapping part = text at same
    subst same
    rw [chunkLines, fromUtf8Lossy_utf8] at carries
    rw [fromUtf8Lossy_utf8] at printed
    have rewrites : Rewrites serde mapping false text := ⟨marked.imp_left fun start => ⟨rfl, start⟩, carries⟩
    refine rewritten_ne distinct printed rewrites ?_
    rwa [rebuiltText, rebuildLines_fresh, chunkLines, fromUtf8Lossy_utf8] at rebuilt
  · exact differs

theorem rewriteChunk_fresh_iff (serde : Serde) (mapping : ModelMapping) (part : List UInt8) :
    (rewriteChunk serde mapping false part).2 = part ↔ ¬ Rewritable serde mapping part := by
  rw [rewriteChunk_output]
  constructor
  · intro same rewritable
    rw [if_pos (by simpa [List.any_eq_true] using ⟨rewritable.marked, rewritable.carries⟩)] at same
    exact rewritable.rebuiltText_ne same
  · intro plain
    split
    · rename_i taken
      simp only [Bool.not_false, Bool.true_and, Bool.and_eq_true, Bool.or_eq_true, List.any_eq_true] at taken
      by_contra differs
      exact plain ⟨taken.1, taken.2, .inr differs⟩
    · rfl

namespace ObservedStream
variable (serde : Serde) (mapping : ModelMapping)

@[simp] theorem finish_rewriter (s : ObservedStream) : s.finish.rewriter = s.rewriter := by
  unfold finish
  split <;> rfl

theorem clientBytes_eq {s : ObservedStream} {anthropicDone : Bool} (rewriter : s.rewriter = some anthropicDone)
    {polls : List Poll} (timely : ∀ poll ∈ polls, poll.expired = false) :
    s.clientBytes serde mapping polls =
      (outputs (rewriteChunk serde mapping) anthropicDone (polls.filterMap Poll.chunk)).flatten := by
  induction polls generalizing s anthropicDone with
  | nil => rfl
  | cons poll rest ih =>
    have inTime := timely poll List.mem_cons_self
    have later := fun poll member => timely poll (List.mem_cons_of_mem _ member)
    obtain ⟨expired, inner⟩ := poll
    dsimp only at inTime
    subst inTime
    cases inner with
    | data bytes =>
      simp only [clientBytes, pollNext, rewriteData, rewriter, Bool.false_eq_true, if_false, List.filterMap_cons,
        Poll.chunk, outputs, List.flatten_cons]
      rw [ih rfl later]
    | _ =>
      simp only [clientBytes, pollNext, Bool.false_eq_true, if_false, List.filterMap_cons, Poll.chunk]
      exact ih (by simpa using rewriter) later

def readyPolls (chunks : List (List UInt8)) : List Poll := chunks.map fun chunk => ⟨false, .data chunk⟩

theorem brings_readyPolls (chunks : List (List UInt8)) : Brings chunks (readyPolls chunks) where
  chunks := by
    induction chunks with
    | nil => rfl
    | cons chunk rest ih => exact congrArg (chunk :: ·) ih
  timely poll member := by
    obtain ⟨chunk, _, rfl⟩ := List.mem_map.mp member
    rfl
  sound poll member := by
    obtain ⟨chunk, _, rfl⟩ := List.mem_map.mp member
    exact fun same => nomatch same

/-- The client's bytes are the same for every chunking of the stream exactly when no part of
the stream is rewritable. -/
theorem chunking_invariance_iff (onComplete : Bool) (stream : List UInt8) :
    (∀ chunks : List (List UInt8), (∀ chunk ∈ chunks, chunk ≠ []) → chunks.flatten = stream →
        ∀ polls whole, Brings chunks polls → Brings [stream] whole →
          (withChunkRewriter onComplete).clientBytes serde mapping polls =
            (withChunkRewriter onComplete).clientBytes serde mapping whole) ↔
      ∀ part, part <:+: stream → ¬ Rewritable serde mapping part := by
  have general := @chunking_invariant_iff _ _ (rewriteChunk serde mapping) false
    (by rw [rewriteChunk_short serde mapping false (by simp)])
    (fun byte => rewriteChunk_short serde mapping false (Nat.le_refl 1))
    (fun done part => rewriteChunk_reduces serde mapping done part) stream
  simp only [rewriteChunk_fresh_iff] at general
  rw [← general]
  apply forall_congr'
  intro chunks
  apply forall_congr'
  intro _
  apply forall_congr'
  intro _
  constructor
  · intro same
    have ready := same _ _ (brings_readyPolls chunks) (brings_readyPolls [stream])
    rwa [clientBytes_eq serde mapping rfl (brings_readyPolls _).timely, (brings_readyPolls _).chunks,
      clientBytes_eq serde mapping rfl (brings_readyPolls _).timely, (brings_readyPolls _).chunks] at ready
  · intro same polls whole brings unsplit
    rw [clientBytes_eq serde mapping rfl brings.timely, clientBytes_eq serde mapping rfl unsplit.timely,
      brings.chunks, unsplit.chunks]
    exact same

/-! ### A split message start -/

def messageStart (model : String) : List UInt8 × Json :=
  (utf8 "\x7b\"message\":\x7b\"model\":\"".toList ++ utf8 model.toList ++ utf8 "\"\x7d,\"type\":\"message_start\"\x7d".toList,
    .object [("message", .object [("model", .string model)]), ("type", .string "message_start")])

def messageStartStream : List UInt8 :=
  utf8 "data: ".toList ++ (messageStart "glm-5").1 ++ utf8 "\n\n".toList

/-- The client sees its own model name when the event comes whole, and the backend's when a
chunk ends inside the event. -/
theorem split_message_start_not_rewritten :
    let serde := Serde.ofTexts (messageStart "glm-5") (messageStart "claude-opus-4")
    let mapping : ModelMapping := ⟨"glm-5", "claude-opus-4"⟩
    ¬ ∀ chunks : List (List UInt8), (∀ chunk ∈ chunks, chunk ≠ []) → chunks.flatten = messageStartStream →
        ∀ polls whole, Brings chunks polls → Brings [messageStartStream] whole →
          (withChunkRewriter true).clientBytes serde mapping polls =
            (withChunkRewriter true).clientBytes serde mapping whole := by
  intro serde mapping invariant
  have same := invariant [messageStartStream.take 20, messageStartStream.drop 20] (by decide)
    (by simp) _ _ (brings_readyPolls _) (brings_readyPolls _)
  exact absurd same (by decide)

end ObservedStream

end Anycode.Pipeline
