import Mathlib.Data.List.Basic

/-!
# Association lists

Entries in a list, read by key. A lookup finds the first entry of a key, so lists with repeated
keys are harmless; an insertion keeps a sorted list sorted.
-/

namespace Anycode.Data

abbrev Assoc (K V : Type) := List (K × V)

namespace Assoc
variable {K V : Type} [DecidableEq K]

def find (key : K) : Assoc K V → Option V
  | [] => none
  | entry :: rest => if key = entry.1 then some entry.2 else find key rest

def insert [LT K] [DecidableLT K] (key : K) (value : V) : Assoc K V → Assoc K V
  | [] => [(key, value)]
  | entry :: rest =>
    if key = entry.1 then (key, value) :: rest
    else if key < entry.1 then (key, value) :: entry :: rest
    else entry :: insert key value rest

/-- Rewrites the value that a lookup of `key` finds. -/
def modify (key : K) (f : V → V) : Assoc K V → Assoc K V
  | [] => []
  | entry :: rest => if key = entry.1 then (key, f entry.2) :: rest else entry :: modify key f rest

/-- Writes a value for `key`, from the one that a lookup finds; a new entry goes to the end. -/
def upsert (key : K) (f : Option V → V) : Assoc K V → Assoc K V
  | [] => [(key, f none)]
  | entry :: rest => if key = entry.1 then (key, f (some entry.2)) :: rest else entry :: upsert key f rest

/-- A measure of the values, added up. -/
def total (measure : V → Nat) : Assoc K V → Nat
  | [] => 0
  | entry :: rest => measure entry.2 + total measure rest

def erase (key : K) (entries : Assoc K V) : Assoc K V := entries.filter fun entry => key ≠ entry.1

theorem find_insert [LT K] [DecidableLT K] (key other : K) (value : V) (entries : Assoc K V) :
    (entries.insert key value).find other = if other = key then some value else entries.find other := by
  induction entries with
  | nil => rfl
  | cons entry rest ih =>
    unfold insert
    split
    · rename_i same
      by_cases asked : other = key
      · simp only [find, asked, if_true]
      · simp only [find, asked, ← same, if_false]
    · rename_i different
      split
      · rfl
      · by_cases asked : other = key
        · simpa only [find, asked, different, if_true, if_false] using ih
        · simp only [find, ih, asked, if_false]

theorem find_modify (key other : K) (f : V → V) (entries : Assoc K V) :
    (entries.modify key f).find other =
      if other = key then (entries.find key).map f else entries.find other := by
  induction entries with
  | nil => simp only [modify, find, Option.map_none, ite_self]
  | cons entry rest ih =>
    unfold modify
    split
    · rename_i same
      by_cases asked : other = key
      · simp only [find, asked, same, if_true, Option.map_some]
      · simp only [find, asked, ← same, if_false]
    · rename_i different
      by_cases asked : other = key
      · simpa only [find, asked, different, if_true, if_false] using ih
      · simp only [find, ih, asked, if_false]

theorem find_upsert (key other : K) (f : Option V → V) (entries : Assoc K V) :
    (entries.upsert key f).find other = if other = key then some (f (entries.find key)) else entries.find other := by
  induction entries with
  | nil => rfl
  | cons entry rest ih =>
    unfold upsert
    split
    · rename_i same
      by_cases asked : other = key
      · simp only [find, asked, same, if_true]
      · simp only [find, asked, ← same, if_false]
    · rename_i different
      by_cases asked : other = key
      · simpa only [find, asked, different, if_true, if_false] using ih
      · simp only [find, ih, asked, if_false]

theorem upsert_absent {key : K} {f : Option V → V} {entries : Assoc K V} (absent : ∀ entry ∈ entries, key ≠ entry.1) :
    entries.upsert key f = entries ++ [(key, f none)] := by
  induction entries with
  | nil => rfl
  | cons entry rest ih =>
    obtain ⟨head, tail⟩ := List.forall_mem_cons.mp absent
    rw [upsert, if_neg head, ih tail, List.cons_append]

theorem find_absent {key : K} {entries : Assoc K V} (absent : ∀ entry ∈ entries, key ≠ entry.1) :
    entries.find key = none := by
  induction entries with
  | nil => rfl
  | cons entry rest ih =>
    obtain ⟨head, tail⟩ := List.forall_mem_cons.mp absent
    rw [find, if_neg head, ih tail]

theorem find_append (key : K) (first second : Assoc K V) :
    Assoc.find key (first ++ second) = (first.find key).or (second.find key) := by
  induction first with
  | nil => rfl
  | cons entry rest ih =>
    rw [List.cons_append, find, find]
    split
    · rfl
    · exact ih

/-- A measure of the values grows in sum by what the written one grows by. -/
theorem total_upsert {key : K} {f : Option V → V} {measure : V → Nat} {grows : Nat} (fresh : measure (f none) = grows)
    (written : ∀ value, measure (f (some value)) = measure value + grows) (entries : Assoc K V) :
    (entries.upsert key f).total measure = entries.total measure + grows := by
  induction entries with
  | nil => simp [upsert, total, fresh]
  | cons entry rest ih =>
    unfold upsert
    split
    · simp only [total, written]
      omega
    · simp only [total, ih]
      omega

theorem find_erase (key other : K) (entries : Assoc K V) :
    (entries.erase key).find other = if other = key then none else entries.find other := by
  induction entries with
  | nil => simp only [erase, List.filter_nil, find, ite_self]
  | cons entry rest ih =>
    by_cases same : key = entry.1
    · have erased : erase key (entry :: rest) = erase key rest :=
        List.filter_cons_of_neg (by simpa using same)
      rw [erased, ih]
      by_cases asked : other = key
      · simp only [asked, if_true]
      · simp only [find, asked, ← same, if_false]
    · have kept : erase key (entry :: rest) = entry :: erase key rest :=
        List.filter_cons_of_pos (by simpa using same)
      rw [kept, find, ih]
      by_cases asked : other = key
      · simp only [asked, same, if_true, if_false]
      · simp only [find, asked, if_false]

theorem modify_congr {key : K} {f g : V → V} {entries : Assoc K V}
    (same : ∀ value, entries.find key = some value → f value = g value) : entries.modify key f = entries.modify key g := by
  induction entries with
  | nil => rfl
  | cons entry rest ih =>
    unfold modify
    split
    · rename_i found
      rw [same entry.2 (if_pos found)]
    · rename_i other
      rw [ih fun value later => same value ((if_neg other).trans later)]

theorem modify_self {key : K} {f : V → V} {entries : Assoc K V}
    (fixed : ∀ value, entries.find key = some value → f value = value) : entries.modify key f = entries := by
  induction entries with
  | nil => rfl
  | cons entry rest ih =>
    unfold modify
    split
    · rename_i same
      rw [fixed entry.2 (if_pos same), same]
    · rename_i different
      rw [ih fun value found => fixed value ((if_neg different).trans found)]

theorem eq_nil_of_find {entries : Assoc K V} (empty : ∀ key, entries.find key = none) : entries = [] := by
  cases entries with
  | nil => rfl
  | cons entry rest =>
    have absent := empty entry.1
    rw [find, if_pos rfl] at absent
    cases absent

/-! ### Distinct keys -/

def Distinct (entries : Assoc K V) : Prop := (entries.map Prod.fst).Nodup

theorem find_eq_none {key : K} {entries : Assoc K V} : entries.find key = none ↔ key ∉ entries.map Prod.fst := by
  induction entries with
  | nil => simp [find]
  | cons entry rest ih =>
    rw [find, List.map_cons, List.mem_cons, not_or]
    split
    · rename_i same
      exact iff_of_false (Option.some_ne_none _) fun other => other.1 same
    · rename_i other
      rw [ih, and_iff_right other]

theorem erase_absent {key : K} {entries : Assoc K V} (absent : entries.find key = none) :
    entries.erase key = entries := by
  refine List.filter_eq_self.mpr fun entry listed => decide_eq_true ?_
  rintro rfl
  exact find_eq_none.mp absent (List.mem_map_of_mem listed)

theorem Distinct.find_eq_some {entries : Assoc K V} (distinct : entries.Distinct) {key : K} {value : V} :
    entries.find key = some value ↔ (key, value) ∈ entries := by
  induction entries with
  | nil => simp [find]
  | cons entry rest ih =>
    obtain ⟨fresh, later⟩ := List.nodup_cons.mp distinct
    rw [find, List.mem_cons]
    split
    · rename_i same
      have absent : (key, value) ∉ rest := fun listed => fresh (same ▸ List.mem_map_of_mem listed)
      rw [or_iff_left absent, Option.some.injEq, Prod.ext_iff, and_iff_right same, eq_comm]
    · rename_i other
      rw [ih later, or_iff_right fun same => other (congrArg Prod.fst same)]

theorem insert_perm [LT K] [DecidableLT K] {key : K} {entries : Assoc K V} (absent : entries.find key = none)
    (value : V) : (entries.insert key value).Perm ((key, value) :: entries) := by
  induction entries with
  | nil => exact .refl _
  | cons entry rest ih =>
    rw [find] at absent
    split at absent
    · cases absent
    · rename_i other
      rw [insert, if_neg other]
      split
      · exact .refl _
      · exact ((ih absent).cons entry).trans (.swap _ _ _)

theorem Distinct.insert [LT K] [DecidableLT K] {entries : Assoc K V} (distinct : entries.Distinct) {key : K}
    (absent : entries.find key = none) (value : V) : (Assoc.insert key value entries).Distinct :=
  (((insert_perm absent value).map Prod.fst).nodup_iff).mpr (List.nodup_cons.mpr ⟨find_eq_none.mp absent, distinct⟩)

theorem keys_modify (key : K) (f : V → V) (entries : Assoc K V) :
    (entries.modify key f).map Prod.fst = entries.map Prod.fst := by
  induction entries with
  | nil => rfl
  | cons entry rest ih =>
    unfold modify
    split
    · rename_i same
      rw [List.map_cons, List.map_cons, same]
    · rw [List.map_cons, List.map_cons, ih]

theorem Distinct.modify {entries : Assoc K V} (distinct : entries.Distinct) (key : K) (f : V → V) :
    (Assoc.modify key f entries).Distinct := by
  rw [Distinct, keys_modify]
  exact distinct

theorem Distinct.erase {entries : Assoc K V} (distinct : entries.Distinct) (key : K) :
    (Assoc.erase key entries).Distinct :=
  (List.filter_sublist.map Prod.fst).nodup distinct

end Assoc

end Anycode.Data
