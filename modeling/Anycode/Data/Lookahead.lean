import Mathlib.Data.List.Basic

/-!
# Reading a list with one item of look-ahead

A loop over an iterator that can `peek`: an item may take the next one along, and is read with
it; an item that takes nothing is read alone.
-/

namespace Anycode.Data

section
variable {A B C : Type} (takes : A → A → Bool) (read : A → Option A → B)

def scan : List A → List B
  | [] => []
  | [item] => [read item none]
  | item :: next :: rest =>
    if takes item next then read item (some next) :: scan rest else read item none :: scan (next :: rest)

variable {takes read}

@[simp] theorem scan_nil : scan takes read [] = [] := rfl

theorem scan_cons {item : A} (alone : ∀ next, takes item next = false) (rest : List A) :
    scan takes read (item :: rest) = read item none :: scan takes read rest := by
  cases rest with
  | nil => rfl
  | cons next rest =>
    rw [scan, alone next]
    rfl

theorem scan_cons_cons {item next : A} (together : takes item next = true) (rest : List A) :
    scan takes read (item :: next :: rest) = read item (some next) :: scan takes read rest := by
  rw [scan, if_pos together]

theorem scan_append {first : List A} (alone : ∀ item ∈ first, ∀ next, takes item next = false) (second : List A) :
    scan takes read (first ++ second) = first.map (read · none) ++ scan takes read second := by
  induction first with
  | nil => rfl
  | cons item first ih =>
    obtain ⟨now, later⟩ := List.forall_mem_cons.mp alone
    rw [List.cons_append, scan_cons now, ih later]
    rfl

/-- A property of everything that is read. -/
theorem forall_mem_scan {P : B → Prop} (alone : ∀ item, P (read item none))
    (together : ∀ item next, takes item next = true → P (read item (some next))) (items : List A) :
    ∀ out ∈ scan takes read items, P out := by
  fun_induction scan takes read items with
  | case1 => exact List.forall_mem_nil P
  | case2 item => exact List.forall_mem_singleton.mpr (alone item)
  | case3 item next rest taken ih => exact List.forall_mem_cons.mpr ⟨together item next taken, ih⟩
  | case4 item next rest _ ih => exact List.forall_mem_cons.mpr ⟨alone item, ih⟩

/-- What is read, seen through `f`, is the list seen through `g`, when it is so for one reading. -/
theorem scan_flatMap {f : B → List C} {g : A → List C} (alone : ∀ item, f (read item none) = g item)
    (together : ∀ item next, takes item next = true → f (read item (some next)) = g item ++ g next)
    (items : List A) : (scan takes read items).flatMap f = items.flatMap g := by
  fun_induction scan takes read items with
  | case1 => rfl
  | case2 item => simp only [List.flatMap_cons, List.flatMap_nil, alone]
  | case3 item next rest taken ih =>
    rw [List.flatMap_cons, together item next taken, ih, List.flatMap_cons, List.flatMap_cons, List.append_assoc]
  | case4 item next rest _ ih =>
    rw [List.flatMap_cons, alone, ih]
    rfl

end

end Anycode.Data
