import Mathlib.Data.List.Chain

/-!
# Trails

A log of moves: every entry says where it comes from and where it leads, the first comes from
nowhere, and every other one comes from where the one before it led.
-/

namespace Anycode.Data

section
variable {E P : Type} (source : E → Option P) (target : E → P)

structure Trail (entries : List E) (place : P) : Prop where
  starts : ∃ first rest, entries = first :: rest ∧ source first = none
  linked : entries.IsChain fun entry later => source later = some (target entry)
  ends : entries.getLast?.map target = some place

variable {source target} {entries : List E} {place : P} {entry : E}

theorem trail_singleton (nowhere : source entry = none) : Trail source target [entry] (target entry) where
  starts := ⟨entry, [], rfl, nowhere⟩
  linked := .singleton entry
  ends := rfl

/-- A trail goes on from the place it has led to. -/
theorem Trail.extend (trail : Trail source target entries place) (here : source entry = some place) :
    Trail source target (entries ++ [entry]) (target entry) where
  starts := by
    obtain ⟨first, rest, rfl, nowhere⟩ := trail.starts
    exact ⟨first, rest ++ [entry], rfl, nowhere⟩
  linked := by
    refine List.isChain_append.mpr ⟨trail.linked, .singleton entry, ?_⟩
    intro last isLast next isNext
    cases isNext
    have led := trail.ends
    rw [Option.mem_def.mp isLast, Option.map_some] at led
    rw [here, led]
  ends := by rw [List.getLast?_concat, Option.map_some]

end

end Anycode.Data
