import Mathlib.Data.List.Infix

/-!
# Streams in chunks

A stateful function rewrites one chunk of a stream at a time. When chunks of one element pass
through it, its output is independent of the chunking only if it changes no part of the stream.
-/

namespace Anycode.Data

section
variable {S A : Type} (rewrite : S → List A → S × List A)

/-- The chunks that come out when the chunks go in from state `s`. -/
def outputs (s : S) : List (List A) → List (List A)
  | [] => []
  | chunk :: rest => (rewrite s chunk).2 :: outputs (rewrite s chunk).1 rest

def singles (stream : List A) : List (List A) := stream.map fun a => [a]

@[simp] theorem flatten_singles (stream : List A) : (singles stream).flatten = stream := by
  induction stream with
  | nil => rfl
  | cons a rest ih => simpa [singles] using ih

theorem singles_ne_nil {stream : List A} : ∀ chunk ∈ singles stream, chunk ≠ [] := by
  intro chunk member
  obtain ⟨a, _, rfl⟩ := List.mem_map.mp member
  exact List.cons_ne_nil a []

variable {rewrite}

theorem outputs_self {initial : S}
    (reduces : ∀ s part, (rewrite initial part).2 = part → (rewrite s part).2 = part) {s : S}
    {chunks : List (List A)} (passes : ∀ chunk ∈ chunks, (rewrite initial chunk).2 = chunk) :
    outputs rewrite s chunks = chunks := by
  induction chunks generalizing s with
  | nil => rfl
  | cons chunk rest ih =>
    rw [outputs, reduces s chunk (passes chunk List.mem_cons_self),
      ih fun later member => passes later (List.mem_cons_of_mem chunk member)]

theorem outputs_singles_append {initial : S} (fresh : ∀ a, rewrite initial [a] = (initial, [a]))
    (stream : List A) (chunks : List (List A)) :
    outputs rewrite initial (singles stream ++ chunks) = singles stream ++ outputs rewrite initial chunks := by
  induction stream with
  | nil => rfl
  | cons a rest ih =>
    simp only [singles, List.map_cons, List.cons_append, outputs, fresh] at ih ⊢
    rw [ih]

/-- The output is the same for every chunking exactly when the function changes no part of the
stream that comes first. -/
theorem chunking_invariant_iff {initial : S} (nothing : (rewrite initial []).2 = [])
    (fresh : ∀ a, rewrite initial [a] = (initial, [a]))
    (reduces : ∀ s part, (rewrite initial part).2 = part → (rewrite s part).2 = part) (stream : List A) :
    (∀ chunks : List (List A), (∀ chunk ∈ chunks, chunk ≠ []) → chunks.flatten = stream →
        (outputs rewrite initial chunks).flatten = (outputs rewrite initial [stream]).flatten) ↔
      ∀ part, part <:+: stream → (rewrite initial part).2 = part := by
  constructor
  · intro invariant part infixed
    obtain ⟨before, after, split⟩ := infixed
    by_cases empty : part = []
    · rw [empty, nothing]
    -- Both chunkings agree with the whole stream; they differ in `part` alone.
    · have ones := invariant (singles stream) singles_ne_nil (flatten_singles stream)
      have around := invariant (singles before ++ part :: singles after) (by
        intro chunk member
        rcases List.mem_append.mp member with early | late
        · exact singles_ne_nil chunk early
        · rcases List.mem_cons.mp late with rfl | late
          · exact empty
          · exact singles_ne_nil chunk late) (by simp [← split])
      have plain := outputs_singles_append fresh stream []
      rw [outputs, List.append_nil] at plain
      have rest : outputs rewrite (rewrite initial part).1 (singles after) = singles after := by
        apply outputs_self reduces
        intro chunk member
        obtain ⟨a, _, rfl⟩ := List.mem_map.mp member
        rw [fresh]
      rw [← ones, plain, outputs_singles_append fresh, outputs, rest] at around
      simp only [List.flatten_append, List.flatten_cons, flatten_singles, ← split, List.append_assoc] at around
      exact List.append_cancel_right (List.append_cancel_left around)
  · intro passes chunks _ whole
    have each : ∀ chunk ∈ chunks, (rewrite initial chunk).2 = chunk := by
      intro chunk member
      refine passes chunk ?_
      rw [← whole]
      exact List.infix_of_mem_flatten member
    have all : ∀ chunk ∈ [stream], (rewrite initial chunk).2 = chunk := by
      intro chunk member
      rw [List.mem_singleton.mp member]
      exact passes stream List.infix_rfl
    rw [outputs_self reduces each, outputs_self reduces all, whole, List.flatten_cons, List.flatten_nil,
      List.append_nil]

end

end Anycode.Data
