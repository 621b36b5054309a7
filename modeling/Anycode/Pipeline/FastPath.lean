import Anycode.Data.Utf8
import Anycode.Pipeline.Stages

/-!
# The serialize-only-if-changed fast path

When no stage recorded a change, `transform_body` returns the bytes it was given. This file
says when that loses no transformation.
-/

namespace Anycode.Pipeline
open Data Config Thinking

section
variable {H : Type} [DecidableEq H] (fastHash : String → H)

/-- A positive multiple of 2^32 blocks is filtered out, and the body has nothing else that a
stage would record: no mapped model, no adaptive thinking to convert, no missing thinking key,
no history without blocks, no effort above its cap. -/
structure Unrecorded (backend : Backend) (thinking : Option ThinkingSession) (r : ThinkingRegistry H)
    (body : Json) : Prop where
  session : thinking.isSome = true
  removed : 0 < filteredItems fastHash r body
  wraps : UInt32.size ∣ filteredItems fastHash r body
  model : (body.strAt "model").bind backend.resolveModel = none
  adaptive : converts backend body = false
  key : (body.get "thinking").isSome = true
  remain : hasAssistantMessages body = true → someRemain fastHash r body = true
  effort : capsEffort backend ((body.strAt "model").getD "") body = false

omit [DecidableEq H] in
theorem Unrecorded.changed {backend : Backend} {thinking : Option ThinkingSession} {r : ThinkingRegistry H}
    {body : Json} (unrecorded : Unrecorded fastHash backend thinking r body) :
    changed fastHash backend thinking r body = false := by
  obtain ⟨_, _, wraps, model, adaptive, key, remain, effort⟩ := unrecorded
  exact (changed_eq_false fastHash).mpr ⟨model, adaptive, fun _ => ⟨wraps, remain⟩, effort, key⟩

theorem fullyTransformed_unrecorded {backend : Backend} {thinking : Option ThinkingSession}
    {r : ThinkingRegistry H} {body : Json} (now : Nat)
    (unrecorded : changed fastHash backend thinking r body = false) :
    fullyTransformed fastHash backend thinking r body now =
      match thinking with
      | some _ => (r.filterRequest fastHash body now).body
      | none => body := by
  obtain ⟨unmapped, unconverted, kept, uncapped, _⟩ := (changed_eq_false fastHash).mp unrecorded
  have remapped : (rewriteModel backend body).1 = body := by
    refine rewriteModel_self (Option.isSome_eq_false_iff.mp ?_ |> Option.isNone_iff_eq_none.mp)
    rw [rewriteModel_mapping, unmapped]
    rfl
  have same : adapted backend body = body := by
    rw [adapted_eq, unconverted, if_neg Bool.false_ne_true, remapped]
  unfold fullyTransformed
  rw [same]
  cases thinking with
  | none => exact capOutputEffort_self ((capOutputEffort_capped rfl).trans uncapped)
  | some session =>
    obtain ⟨wraps, remain⟩ := kept rfl
    have none := strips_eq_false fastHash wraps remain
    have effort := downgraded_frame fastHash r body now (show "output_config" ≠ "messages" by decide) (by decide)
    dsimp only
    rw [filterThinking_body, capOutputEffort_self ((capOutputEffort_capped effort).trans uncapped), downgraded, none]
    rfl

theorem filterRequest_body_eq_iff {r : ThinkingRegistry H} {body : Json} (now : Nat) :
    (r.filterRequest fastHash body now).body = body ↔ filteredItems fastHash r body = 0 := by
  have filtered := ThinkingRegistry.filterRequest_content fastHash r body now
  constructor
  · intro same
    rw [same] at filtered
    exact removedItems_eq_zero.mpr (List.filter_eq_self.mp filtered.contentItems.symm)
  · intro clean
    have pass := congrArg Prod.fst (ThinkingRegistry.filterRequest_body fastHash r body now)
    exact pass.trans (retainContent_self (removedItems_eq_zero.mp clean))

theorem fullyTransformed_self {backend : Backend} {thinking : Option ThinkingSession} {r : ThinkingRegistry H}
    {body : Json} (now : Nat) (unchanged : changed fastHash backend thinking r body = false)
    (noticed : ¬ Unrecorded fastHash backend thinking r body) :
    fullyTransformed fastHash backend thinking r body now = body := by
  rw [fullyTransformed_unrecorded fastHash now unchanged]
  obtain ⟨model, adaptive, kept, effort, key⟩ := (changed_eq_false fastHash).mp unchanged
  cases thinking with
  | none => rfl
  | some session =>
    obtain ⟨wraps, remain⟩ := kept rfl
    refine (filterRequest_body_eq_iff fastHash now).mpr ?_
    by_contra removed
    exact noticed ⟨rfl, Nat.pos_of_ne_zero removed, wraps, model, adaptive, key, remain, effort⟩

theorem fromSlice_transformBody {serde : Serde} {bodyBytes : List UInt8} {body : Json} {backend : Backend}
    {thinking : Option ThinkingSession} {r : ThinkingRegistry H} {now : Nat}
    (parsed : serde.fromSlice bodyBytes = some body)
    (printed : serde.RoundTrips (fullyTransformed fastHash backend thinking r body now))
    (noticed : ¬ Unrecorded fastHash backend thinking r body) :
    serde.fromSlice (transformBody fastHash serde bodyBytes (some body) backend thinking r now).2.bytes =
      some (fullyTransformed fastHash backend thinking r body now) := by
  rw [fromSlice_sent fastHash parsed printed]
  cases recorded : changed fastHash backend thinking r body with
  | true => rfl
  | false => rw [if_neg Bool.false_ne_true, fullyTransformed_self fastHash now recorded noticed]

/-- The returned bytes decode to the fully transformed body, and are the original ones only
when that is the parsed input, exactly when no removal goes unrecorded. -/
theorem transformBody_decodes_iff (serde : Serde) {bodyBytes : List UInt8} {body : Json} (backend : Backend)
    (thinking : Option ThinkingSession) (r : ThinkingRegistry H) (now : Nat)
    (parsed : serde.fromSlice bodyBytes = some body)
    (printed : serde.RoundTrips (fullyTransformed fastHash backend thinking r body now)) :
    let out := (transformBody fastHash serde bodyBytes (some body) backend thinking r now).2
    (serde.fromSlice out.bytes = some (fullyTransformed fastHash backend thinking r body now) ∧
      (out.bytes = bodyBytes → fullyTransformed fastHash backend thinking r body now = body)) ↔
        ¬ Unrecorded fastHash backend thinking r body := by
  constructor
  · intro sent unrecorded
    obtain ⟨_, same⟩ := sent
    have original : (transformBody fastHash serde bodyBytes (some body) backend thinking r now).2.bytes = bodyBytes := by
      rw [transformBody_some, unrecorded.changed]
      rfl
    have filtered := fullyTransformed_unrecorded fastHash now unrecorded.changed
    rw [same original] at filtered
    obtain ⟨session, rfl⟩ := Option.isSome_iff_exists.mp unrecorded.session
    exact absurd ((filterRequest_body_eq_iff fastHash now).mp filtered.symm) (Nat.ne_of_gt unrecorded.removed)
  · intro noticed
    have decoded := fromSlice_transformBody fastHash parsed printed noticed
    refine ⟨decoded, fun original => ?_⟩
    rw [original, parsed] at decoded
    exact (Option.some.inj decoded).symm

/-! ### A first turn -/

def glm : Backend := { name := "glm", baseUrl := "https://glm.example", modelOpus := some "glm-5" }

def firstTurn : List UInt8 × Json :=
  (utf8 "\x7b\"model\":\"claude-opus-4\",\"thinking\":\x7b\"type\":\"adaptive\"\x7d\x7d".toList,
    .object [("model", .string "claude-opus-4"), ("thinking", .object [("type", .string "adaptive")])])

def firstTurnTransformed : List UInt8 × Json :=
  (utf8 "\x7b\"model\":\"glm-5\",\"thinking\":\x7b\"budget_tokens\":10000,\"type\":\"enabled\"\x7d\x7d".toList,
    .object [("model", .string "glm-5"),
      ("thinking", .object [("budget_tokens", .number (.posInt 10000)), ("type", .string "enabled")])])

theorem fullyTransformed_firstTurn :
    fullyTransformed id glm (some ⟨1⟩) (ThinkingRegistry.new.onBackendSwitch "glm" : ThinkingRegistry String)
      firstTurn.2 0 = firstTurnTransformed.2 := rfl

theorem roundTrips_firstTurn :
    (Serde.ofTexts firstTurn firstTurnTransformed).RoundTrips firstTurnTransformed.2 :=
  Serde.ofTexts_roundTrips (by decide)

theorem transformBody_decodes_firstTurn :
    let r : ThinkingRegistry String := ThinkingRegistry.new.onBackendSwitch "glm"
    let serde := Serde.ofTexts firstTurn firstTurnTransformed
    let out := (transformBody id serde firstTurn.1 (some firstTurn.2) glm (some ⟨1⟩) r 0).2
    (serde.fromSlice out.bytes = some (fullyTransformed id glm (some ⟨1⟩) r firstTurn.2 0) ∧
      (out.bytes = firstTurn.1 → fullyTransformed id glm (some ⟨1⟩) r firstTurn.2 0 = firstTurn.2)) := by
  refine (transformBody_decodes_iff id _ glm (some ⟨1⟩) _ 0 (Serde.ofTexts_first _ _) ?_).mpr ?_
  · rw [fullyTransformed_firstTurn]
    exact roundTrips_firstTurn
  · intro unrecorded
    exact absurd unrecorded.removed (by decide)

/-! ### A flood of unknown blocks -/

/-- The only assistant turn of a history: one known block, then `n` unknown ones. -/
def flood (n : Nat) : Json :=
  .object [("messages", .array [.object [
      ("content", .array (thinkingBlock "a" "" :: List.replicate n (thinkingBlock "b" ""))),
      ("role", .string "assistant")]]),
    ("thinking", .object [("type", .string "enabled")])]

def floodText (n : Nat) : List UInt8 :=
  utf8 "\x7b\"messages\":[\x7b\"content\":[\x7b\"signature\":\"\",\"thinking\":\"a\",\"type\":\"thinking\"\x7d".toList ++
    (List.replicate n
      (utf8 ",\x7b\"signature\":\"\",\"thinking\":\"b\",\"type\":\"thinking\"\x7d".toList)).flatten ++
    utf8 "],\"role\":\"assistant\"\x7d],\"thinking\":\x7b\"type\":\"enabled\"\x7d\x7d".toList

def floodSerde (n : Nat) : Serde := .ofTexts (floodText n, flood n) (floodText 0, flood 0)

def claude : Backend := { name := "claude", baseUrl := "https://api.anthropic.com" }

def floodRegistry : ThinkingRegistry String :=
  (ThinkingRegistry.new.onBackendSwitch "claude").registerFromResponse id
    (some (.object [("content", .array [thinkingBlock "a" ""])])) 1 0

theorem floodText_ne {n : Nat} (unknown : 0 < n) : floodText 0 ≠ floodText n := by
  intro same
  have lengths := congrArg List.length same
  have block : 0 < (utf8 ",\x7b\"signature\":\"\",\"thinking\":\"b\",\"type\":\"thinking\"\x7d".toList).length := by decide
  simp only [floodText, List.length_append, List.length_flatten, List.map_replicate, List.sum_replicate_nat] at lengths
  have more := Nat.mul_pos unknown block
  omega

theorem contentItems_flood (n : Nat) :
    contentItems (flood n) = thinkingBlock "a" "" :: List.replicate n (thinkingBlock "b" "") :=
  contentItems_echoRequest _

theorem retained_known : floodRegistry.retained id (thinkingBlock "a" "") = true := by decide

theorem filteredItems_flood (n : Nat) : filteredItems id floodRegistry (flood n) = n := by
  have count := @ThinkingRegistry.removedItems_unknown String id floodRegistry "b" (by decide) ""
    [thinkingBlock "a" ""] (by simp [retained_known]) n
  unfold filteredItems
  rw [removedItems, contentItems_flood]
  rwa [removedItems, contentItems_echoRequest] at count

theorem someRemain_flood (n : Nat) : someRemain id floodRegistry (flood n) = true := by
  refine List.any_eq_true.mpr ⟨thinkingBlock "a" "", mem_thinkingItems.mpr ⟨?_, rfl⟩, retained_known⟩
  rw [contentItems_flood]
  exact List.mem_cons_self

theorem filterRequest_flood (n now : Nat) : (floodRegistry.filterRequest id (flood n) now).body = flood 0 := by
  have kept : (thinkingBlock "a" "" :: List.replicate n (thinkingBlock "b" "")).filter (floodRegistry.retained id) =
      [thinkingBlock "a" ""] := by
    rw [List.filter_cons_of_pos retained_known, List.filter_replicate_of_neg (by decide)]
  have pass := congrArg Prod.fst (ThinkingRegistry.filterRequest_body id floodRegistry (flood n) now)
  refine pass.trans ?_
  simp [retainContent, retainMessages, retainMessage, flood, Json.arrayAt, Json.get, Assoc.find, Json.asArray,
    Json.modify, Assoc.modify, kept]

theorem unrecorded_flood {n : Nat} (unknown : 0 < n) (wraps : UInt32.size ∣ n) :
    Unrecorded id claude (some ⟨1⟩) floodRegistry (flood n) where
  session := rfl
  removed := by rwa [filteredItems_flood]
  wraps := by rwa [filteredItems_flood]
  model := rfl
  adaptive := by
    have off : claude.needsThinkingCompat = false := by decide
    rw [converts, off, Bool.false_and]
  key := rfl
  remain _ := someRemain_flood n
  effort := rfl

theorem fullyTransformed_flood {n : Nat} (unknown : 0 < n) (wraps : UInt32.size ∣ n) :
    fullyTransformed id claude (some ⟨1⟩) floodRegistry (flood n) 0 = flood 0 := by
  rw [fullyTransformed_unrecorded id 0 (unrecorded_flood unknown wraps).changed]
  exact filterRequest_flood n 0

theorem transformBody_flood {n : Nat} (serde : Serde) (unknown : 0 < n) (wraps : UInt32.size ∣ n) :
    (transformBody id serde (floodText n) (some (flood n)) claude (some ⟨1⟩) floodRegistry 0).2.bytes =
      floodText n := by
  rw [transformBody_some, (unrecorded_flood unknown wraps).changed]
  rfl

theorem floodSerde_parses (n : Nat) : (floodSerde n).fromSlice (floodText n) = some (flood n) :=
  Serde.ofTexts_first _ _

theorem floodSerde_roundTrips {n : Nat} (unknown : 0 < n) : (floodSerde n).RoundTrips (flood 0) :=
  Serde.ofTexts_roundTrips (floodText_ne unknown)

theorem flood_lost {n : Nat} (unknown : 0 < n) (wraps : UInt32.size ∣ n) :
    let full := fullyTransformed id claude (some ⟨1⟩) floodRegistry (flood n) 0
    let out := (transformBody id (floodSerde n) (floodText n) (some (flood n)) claude (some ⟨1⟩) floodRegistry 0).2
    (floodSerde n).fromSlice (floodText n) = some (flood n) ∧ (floodSerde n).RoundTrips full ∧
      ¬ ((floodSerde n).fromSlice out.bytes = some full ∧ (out.bytes = floodText n → full = flood n)) := by
  dsimp only
  rw [fullyTransformed_flood unknown wraps, transformBody_flood _ unknown wraps]
  refine ⟨floodSerde_parses n, floodSerde_roundTrips unknown, ?_⟩
  rintro ⟨_, same⟩
  have items := congrArg (fun body => (contentItems body).length) (same rfl)
  simp only [contentItems_flood, List.length_cons, List.length_replicate] at items
  omega

/-- 2^32 unknown blocks are filtered out, the count says 0, and the original bytes are sent. -/
theorem transformBody_decodes_flood :
    let body := flood (UInt32.size)
    let text := floodText (UInt32.size)
    let serde := floodSerde (UInt32.size)
    let full := fullyTransformed id claude (some ⟨1⟩) floodRegistry body 0
    let out := (transformBody id serde text (some body) claude (some ⟨1⟩) floodRegistry 0).2
    serde.fromSlice text = some body ∧ serde.RoundTrips full ∧
      ¬ (serde.fromSlice out.bytes = some full ∧ (out.bytes = text → full = body)) :=
  flood_lost (by decide) (by decide)

end

end Anycode.Pipeline
