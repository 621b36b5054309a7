import Anycode.Args.Selectors

/-!
# What is passed through

The arguments that reach the spawned process: the raw ones in their order, without the flags that
the wrapper consumes and the values these take, and with the short aliases of the others in their
long form.
-/

namespace Anycode.Args
open Data

/-- The raw arguments, classified and assembled again. -/
def forwardedArgs (rawArgs : List String) : List String :=
  (ArgAssembler.fromPassthrough (classify rawArgs flagRegistry).args).args

/-- The argument spells a flag that the wrapper owns or intercepts. -/
structure Consumed (flag : FlagDef) (arg : String) : Prop where
  listed : flag ∈ flagRegistry
  behavior : flag.behavior ≠ .passthrough
  spelled : arg ∈ flag.spellings

/-- What an argument that the wrapper does not consume is forwarded as. -/
inductive NormalForm : String → String → Prop
  | known {flag : FlagDef} {arg : String} (listed : flag ∈ flagRegistry) (behavior : flag.behavior = .passthrough)
      (spelled : arg ∈ flag.spellings) : NormalForm arg flag.long
  | unknown {arg : String} (unlisted : ∀ flag ∈ flagRegistry, arg ∉ flag.spellings) : NormalForm arg arg

/-- An ordered deletion: of the consumed flags and their values, and of nothing else. -/
inductive Forwards : List String → List String → Prop
  | nil : Forwards [] []
  | valued {flag : FlagDef} {arg value : String} {rest out : List String} (consumed : Consumed flag arg)
      (takes : flag.arity ≠ .noValue) (plain : looksLikeFlag value = false) :
      Forwards rest out → Forwards (arg :: value :: rest) out
  | bare {flag : FlagDef} {arg : String} {rest out : List String} (consumed : Consumed flag arg)
      (alone : flag.arity = .noValue ∨ ∀ next ∈ rest.head?, looksLikeFlag next = true) :
      Forwards rest out → Forwards (arg :: rest) out
  | kept {arg normal : String} {rest out : List String} (form : NormalForm arg normal) :
      Forwards rest out → Forwards (arg :: rest) (normal :: out)

/-! ### The registry -/

theorem flag_of_spelling : ∀ first ∈ flagRegistry, ∀ second ∈ flagRegistry, ∀ arg ∈ first.spellings,
    arg ∈ second.spellings → first = second := by decide

theorem looksLikeFlag_of_spelled : ∀ flag ∈ flagRegistry, ∀ arg ∈ flag.spellings, looksLikeFlag arg = true := by
  decide

theorem NormalForm.of_plain {arg : String} (plain : looksLikeFlag arg = false) : NormalForm arg arg := by
  refine .unknown ?_
  intro flag listed spelled
  exact Bool.eq_false_iff.mp plain (looksLikeFlag_of_spelled flag listed arg spelled)

theorem NormalForm.of_lookup_none {arg : String} (unknown : lookup flagRegistry arg = none) : NormalForm arg arg := by
  refine .unknown ?_
  intro flag listed spelled
  have unmatched := List.find?_eq_none.mp unknown flag listed
  exact unmatched (FlagDef.matches_iff.mpr spelled)

theorem NormalForm.unique {arg first second : String} (one : NormalForm arg first) (other : NormalForm arg second) :
    first = second := by
  cases one with
  | @known flag _ listed _ spelled =>
    cases other with
    | @known flag' _ listed' _ spelled' => rw [flag_of_spelling flag listed flag' listed' arg spelled spelled']
    | unknown unlisted => exact absurd spelled (unlisted flag listed)
  | unknown unlisted =>
    cases other with
    | known listed _ spelled => exact absurd spelled (unlisted _ listed)
    | unknown _ => rfl

/-- A normal form is forwarded as it is. -/
theorem NormalForm.stable {arg normal : String} (form : NormalForm arg normal) : NormalForm normal normal := by
  cases form with
  | known listed behavior _ => exact .known listed behavior List.mem_cons_self
  | unknown unlisted => exact .unknown unlisted

theorem NormalForm.not_consumed {arg normal : String} {flag : FlagDef} (form : NormalForm arg normal) :
    ¬ Consumed flag arg := by
  intro consumed
  cases form with
  | @known other _ listed behavior spelled =>
    have same := flag_of_spelling other listed flag consumed.listed arg spelled consumed.spelled
    subst same
    exact consumed.behavior behavior
  | unknown unlisted => exact unlisted flag consumed.listed consumed.spelled

theorem Consumed.unique {first second : FlagDef} {arg : String} (one : Consumed first arg)
    (other : Consumed second arg) : first = second :=
  flag_of_spelling first one.listed second other.listed arg one.spelled other.spelled

/-! ### The relation -/

theorem Forwards.unique {rawArgs first second : List String} (one : Forwards rawArgs first)
    (other : Forwards rawArgs second) : first = second := by
  induction one generalizing second with
  | nil =>
    cases other
    rfl
  | valued consumed takes plain _ ih =>
    cases other with
    | valued _ _ _ later => exact ih later
    | bare again alone later =>
      obtain rfl := consumed.unique again
      obtain noValue | flagLike := alone
      · exact absurd noValue takes
      · have impossible := flagLike _ rfl
        rw [plain] at impossible
        cases impossible
    | kept form later => exact absurd consumed form.not_consumed
  | bare consumed alone _ ih =>
    cases other with
    | valued again takes plain later =>
      obtain rfl := consumed.unique again
      obtain noValue | flagLike := alone
      · exact absurd noValue takes
      · have impossible := flagLike _ rfl
        rw [plain] at impossible
        cases impossible
    | bare _ _ later => exact ih later
    | kept form later => exact absurd consumed form.not_consumed
  | kept form _ ih =>
    cases other with
    | valued consumed _ _ later => exact absurd consumed form.not_consumed
    | bare consumed _ later => exact absurd consumed form.not_consumed
    | kept again later => rw [form.unique again, ih later]

/-- Everything that is forwarded is in its normal form. -/
theorem Forwards.normal {rawArgs out : List String} (forwards : Forwards rawArgs out) :
    ∀ arg ∈ out, NormalForm arg arg := by
  induction forwards with
  | nil => exact List.forall_mem_nil _
  | valued _ _ _ _ ih => exact ih
  | bare _ _ _ ih => exact ih
  | kept form _ ih => exact List.forall_mem_cons.mpr ⟨form.stable, ih⟩

theorem forwards_self {args : List String} (normal : ∀ arg ∈ args, NormalForm arg arg) : Forwards args args := by
  induction args with
  | nil => exact .nil
  | cons arg rest ih =>
    obtain ⟨form, later⟩ := List.forall_mem_cons.mp normal
    exact .kept form (ih later)

/-! ### The classifier -/

theorem takesValue_of_lookup {arg next : String} {flag : FlagDef} (found : lookup flagRegistry arg = some flag) :
    takesValue flagRegistry arg next = true ↔ looksLikeFlag next = false ∧ flag.arity ≠ .noValue := by
  obtain ⟨listed, spelled⟩ := spelled_of_lookup found
  simp [takesValue, found, looksLikeFlag_of_spelled flag listed arg spelled]

theorem classifyArg_known {arg : String} {flag : FlagDef} (found : lookup flagRegistry arg = some flag)
    (value : Option String) :
    (classifyArg flagRegistry arg value).forwarded = (flag.behavior.classified flag.long value).forwarded := by
  obtain ⟨listed, spelled⟩ := spelled_of_lookup found
  simp [classifyArg, found, looksLikeFlag_of_spelled flag listed arg spelled, ClassifyResult.forwarded]

theorem classifyArg_unknown {arg : String} (unknown : lookup flagRegistry arg = none) {value : Option String}
    (taken : ∀ v, value = some v → takesValue flagRegistry arg v = true) :
    (classifyArg flagRegistry arg value).forwarded = arg :: value.toList := by
  obtain ⟨flag, listed, spelled, _⟩ | ⟨_, same⟩ := classifyArg_cases taken
  · have unmatched := List.find?_eq_none.mp unknown flag listed
    exact absurd (FlagDef.matches_iff.mpr spelled) unmatched
  · exact same

/-- One round alone: consumed, or kept. -/
theorem forwards_alone {arg : String} {rest out : List String}
    (refused : ∀ next ∈ rest.head?, takesValue flagRegistry arg next = false) (later : Forwards rest out) :
    Forwards (arg :: rest) ((classifyArg flagRegistry arg none).forwarded ++ out) := by
  cases found : lookup flagRegistry arg with
  | none =>
    have same : (classifyArg flagRegistry arg none).forwarded = [arg] := classifyArg_unknown found nofun
    rw [same]
    exact .kept (.of_lookup_none found) later
  | some flag =>
    obtain ⟨listed, spelled⟩ := spelled_of_lookup found
    have alone : flag.arity = .noValue ∨ ∀ next ∈ rest.head?, looksLikeFlag next = true := by
      by_cases noValue : flag.arity = .noValue
      · exact .inl noValue
      · refine .inr ?_
        intro next isNext
        by_contra plain
        have takes := (takesValue_of_lookup found).mpr ⟨Bool.eq_false_iff.mpr plain, noValue⟩
        rw [refused next isNext] at takes
        cases takes
    rw [classifyArg_known found]
    cases behavior : flag.behavior with
    | wrapperOwned => exact .bare ⟨listed, by simp [behavior], spelled⟩ alone later
    | intercepted => exact .bare ⟨listed, by simp [behavior], spelled⟩ alone later
    | passthrough => exact .kept (.known listed behavior spelled) later

/-- One round with a value: both consumed, or both kept. -/
theorem forwards_together {arg next : String} {rest out : List String}
    (taken : takesValue flagRegistry arg next = true) (later : Forwards rest out) :
    Forwards (arg :: next :: rest) ((classifyArg flagRegistry arg (some next)).forwarded ++ out) := by
  have plain := (looksLikeFlag_of_takesValue taken).2
  cases found : lookup flagRegistry arg with
  | none =>
    rw [classifyArg_unknown found (by rintro _ ⟨⟩; exact taken)]
    exact .kept (.of_lookup_none found) (.kept (.of_plain plain) later)
  | some flag =>
    obtain ⟨listed, spelled⟩ := spelled_of_lookup found
    have takes := ((takesValue_of_lookup found).mp taken).2
    rw [classifyArg_known found]
    cases behavior : flag.behavior with
    | wrapperOwned => exact .valued ⟨listed, by simp [behavior], spelled⟩ takes plain later
    | intercepted => exact .valued ⟨listed, by simp [behavior], spelled⟩ takes plain later
    | passthrough => exact .kept (.known listed behavior spelled) (.kept (.of_plain plain) later)

theorem forwards_forwardedArgs (rawArgs : List String) : Forwards rawArgs (forwardedArgs rawArgs) := by
  rw [forwardedArgs, fromPassthrough_classify]
  fun_induction scan (takesValue flagRegistry) (classifyArg flagRegistry) rawArgs with
  | case1 => exact .nil
  | case2 arg =>
    refine forwards_alone ?_ .nil
    rintro _ ⟨⟩
  | case3 arg next rest taken ih => exact forwards_together taken ih
  | case4 arg next rest refused ih =>
    refine forwards_alone ?_ ih
    rintro _ ⟨⟩
    exact Bool.eq_false_iff.mpr refused

/-- Exactly the consumed flags and their values go; what is left holds none and is left as it is. -/
theorem forwardedArgs_fidelity (rawArgs : List String) :
    (∀ out, Forwards rawArgs out ↔ forwardedArgs rawArgs = out) ∧
      (∀ arg ∈ forwardedArgs rawArgs, ∀ flag, ¬ Consumed flag arg) ∧
      forwardedArgs (forwardedArgs rawArgs) = forwardedArgs rawArgs := by
  have forwards := forwards_forwardedArgs rawArgs
  refine ⟨?_, ?_, ?_⟩
  · intro out
    constructor
    · exact forwards.unique
    · rintro rfl
      exact forwards
  · intro arg listed flag
    exact (forwards.normal arg listed).not_consumed
  · exact (forwards_forwardedArgs (forwardedArgs rawArgs)).unique (forwards_self forwards.normal)

example : forwardedArgs ["-m", "opus", "-c", "fix it", "-b", "--", "-x", "5"] =
    ["--model", "opus", "fix it", "--", "-x", "5"] := by decide

end Anycode.Args
