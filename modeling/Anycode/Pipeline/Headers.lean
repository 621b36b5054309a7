import Anycode.Config.Credentials
import Anycode.Data.HeaderMap
import Anycode.Data.Text
import Anycode.Pipeline.ModelRewrite

/-!
# Headers for the upstream request

Stage 5 of the pipeline: the client's headers one by one, then the backend's own. Log calls are
left out; the stage never fails.
-/

namespace Anycode.Pipeline
open Data Config

/-! ### The anthropic-beta header -/

def adaptiveFlag : List Char := "adaptive-thinking-".toList

def interleavedFlag : List Char := "interleaved-thinking-".toList

def isAdaptiveFlag (part : List Char) : Bool := adaptiveFlag.isPrefixOf part

def isInterleavedFlag (part : List Char) : Bool := interleavedFlag.isPrefixOf part

def betaParts (value : List Char) : List (List Char) := (value.splitOn ',').map trim

def joinParts (parts : List (List Char)) : List Char := [','].intercalate parts

def stripThinkingFromBetaHeader (value : List Char) : List Char :=
  joinParts ((betaParts value).filter fun part => !isAdaptiveFlag part && !isInterleavedFlag part)

def patchAnthropicBetaHeader (value : List Char) : List Char :=
  let parts := (betaParts value).filter fun part => !isAdaptiveFlag part
  let hasInterleaved := parts.any isInterleavedFlag
  joinParts (if hasInterleaved then parts else parts ++ ["interleaved-thinking-2025-05-14".toList])

/-! ### The loop -/

def addHeader (name : HeaderName) (value : HeaderValue) : Option (String × List Char) :=
  value.toStr.map fun val => (name.text, val)

/-- One turn of the loop: what the header becomes, if it is forwarded. -/
def forwardHeader (backend : Backend) (thinkingActive : Bool) : Header → Option (String × List Char)
  | (name, value) =>
    let stripAuthHeaders := backend.authType.usesOwnCredentials
    if name.text == "host" || name.text == "content-length" then none
    else if stripAuthHeaders && (name.text == "authorization" || eqIgnoreAsciiCase name.text "x-api-key") then none
    else if backend.needsThinkingCompat && eqIgnoreAsciiCase name.text "anthropic-beta" then
      match value.toStr with
      | some val =>
        let patched := if thinkingActive then patchAnthropicBetaHeader val else stripThinkingFromBetaHeader val
        if patched.isEmpty then none else some (name.text, patched)
      | none => addHeader name value
    else addHeader name value

def buildHeaders (incomingHeaders : HeaderMap) (backend : Backend) (thinkingActive : Bool) :
    List (String × List Char) :=
  incomingHeaders.filterMap (forwardHeader backend thinkingActive) ++ (buildAuthHeader backend).toList

def isAuthName (name : String) : Bool :=
  eqIgnoreAsciiCase name "authorization" || eqIgnoreAsciiCase name "x-api-key"

def isBetaName (name : String) : Bool := eqIgnoreAsciiCase name "anthropic-beta"

def skipsHeader (backend : Backend) (name : HeaderName) : Bool :=
  name.text == "host" || name.text == "content-length" ||
    (backend.authType.usesOwnCredentials && isAuthName name.text)

def betaRewrite (thinkingActive : Bool) (value : List Char) : List Char :=
  if thinkingActive then patchAnthropicBetaHeader value else stripThinkingFromBetaHeader value

def sentText (backend : Backend) (thinkingActive : Bool) (name : String) (value : List Char) : Option (List Char) :=
  if backend.needsThinkingCompat && isBetaName name then
    if (betaRewrite thinkingActive value).isEmpty then none else some (betaRewrite thinkingActive value)
  else some value

/-- One turn of the loop: a name that is not skipped keeps its name. -/
theorem forwardHeader_eq (backend : Backend) (thinkingActive : Bool) (name : HeaderName) (value : HeaderValue) :
    forwardHeader backend thinkingActive (name, value) =
      if skipsHeader backend name then none
      else (value.toStr.bind (sentText backend thinkingActive name.text)).map fun text => (name.text, text) := by
  have auth : eqIgnoreAsciiCase name.text "authorization" = (name.text == "authorization") :=
    eqIgnoreAsciiCase_text (by decide)
  unfold forwardHeader skipsHeader isAuthName sentText addHeader isBetaName
  rw [auth]
  dsimp only
  cases name.text == "host" || name.text == "content-length" with
  | true => rfl
  | false =>
    cases backend.authType.usesOwnCredentials && (name.text == "authorization" || eqIgnoreAsciiCase name.text "x-api-key") with
    | true => rfl
    | false =>
      cases backend.needsThinkingCompat && eqIgnoreAsciiCase name.text "anthropic-beta" with
      | false => cases value.toStr <;> rfl
      | true =>
        cases value.toStr with
        | none => rfl
        | some val =>
          have dropped : ∀ patched : List Char, (if patched.isEmpty then none else some (name.text, patched)) =
              (if patched.isEmpty then none else some patched).map fun text => (name.text, text) := by
            intro patched
            cases patched <;> rfl
          exact dropped (betaRewrite thinkingActive val)

theorem forwardHeader_name {backend : Backend} {thinkingActive : Bool} {header : Header} {pair : String × List Char}
    (sent : forwardHeader backend thinkingActive header = some pair) : pair.1 = header.1.text := by
  rw [forwardHeader_eq] at sent
  split at sent
  · cases sent
  · obtain ⟨text, _, rfl⟩ := Option.map_eq_some_iff.mp sent
    rfl

theorem buildAuthHeader_name {backend : Backend} {pair : String × List Char} (own : buildAuthHeader backend = some pair) :
    isAuthName pair.1 = true ∧ isBetaName pair.1 = false := by
  unfold buildAuthHeader at own
  split at own
  · cases own
    exact (show isAuthName "x-api-key" = true ∧ isBetaName "x-api-key" = false by decide)
  · cases own
    exact (show isAuthName "Authorization" = true ∧ isBetaName "Authorization" = false by decide)
  · cases own

/-! ### Trimmed parts -/

theorem trim_within (text : List Char) : trim text <:+: text :=
  (List.rdropWhile_prefix isWhitespace (trimStart text)).isInfix.trans (List.dropWhile_suffix isWhitespace).isInfix

theorem trim_trim (text : List Char) : trim (trim text) = trim text := by
  have start : trimStart (trim text) = trim text := by
    refine List.dropWhile_eq_self_iff.mpr fun nonempty => ?_
    have whole : 0 < (trimStart text).length := by
      have shorter := (List.rdropWhile_prefix isWhitespace (trimStart text)).length_le
      exact Nat.lt_of_lt_of_le nonempty shorter
    have head : (trim text)[0] = (trimStart text)[0] :=
      (List.rdropWhile_prefix isWhitespace (trimStart text)).getElem nonempty
    rw [head]
    exact List.dropWhile_get_zero_not isWhitespace text whole
  rw [trim, start]
  exact List.rdropWhile_idempotent isWhitespace _

/-- A part that a split leaves as it is. -/
structure Clean (part : List Char) : Prop where
  noComma : ',' ∉ part
  trimmed : trim part = part

theorem clean_of_mem_betaParts {value part : List Char} (member : part ∈ betaParts value) : Clean part := by
  obtain ⟨piece, split, rfl⟩ := List.mem_map.mp member
  exact ⟨fun comma => not_mem_of_mem_splitOn split ((trim_within piece).subset comma), trim_trim piece⟩

theorem betaParts_joinParts {parts : List (List Char)} (clean : ∀ part ∈ parts, Clean part) (nonempty : parts ≠ []) :
    betaParts (joinParts parts) = parts := by
  rw [betaParts, joinParts, List.splitOn_intercalate ',' (fun part member => (clean part member).noComma) nonempty]
  exact (List.map_congr_left fun part member => (clean part member).trimmed).trans (List.map_id parts)

theorem mem_joinParts {c : Char} {parts : List (List Char)} (member : c ∈ joinParts parts) :
    c = ',' ∨ ∃ part ∈ parts, c ∈ part := by
  induction parts with
  | nil => cases member
  | cons first rest ih =>
    cases rest with
    | nil =>
      rw [joinParts, List.intercalate_singleton] at member
      exact .inr ⟨first, List.mem_singleton.mpr rfl, member⟩
    | cons second rest =>
      rw [joinParts, List.intercalate_cons_cons, List.mem_append, List.mem_append, List.mem_singleton] at member
      rcases member with (here | comma) | later
      · exact .inr ⟨first, List.mem_cons_self, here⟩
      · exact .inl comma
      · rcases ih later with comma | ⟨part, present, found⟩
        · exact .inl comma
        · exact .inr ⟨part, List.mem_cons_of_mem _ present, found⟩

theorem mem_joinParts_of_mem {c : Char} {part : List Char} {parts : List (List Char)} (present : part ∈ parts)
    (found : c ∈ part) : c ∈ joinParts parts := by
  induction parts with
  | nil => cases present
  | cons first rest ih =>
    cases rest with
    | nil =>
      rw [joinParts, List.intercalate_singleton]
      exact List.mem_singleton.mp present ▸ found
    | cons second rest =>
      rw [joinParts, List.intercalate_cons_cons, List.mem_append, List.mem_append]
      rcases List.mem_cons.mp present with rfl | later
      · exact .inl (.inl found)
      · exact .inr (ih later)

theorem mem_of_mem_betaParts {c : Char} {value part : List Char} (present : part ∈ betaParts value) (found : c ∈ part) :
    c ∈ value := by
  obtain ⟨piece, split, rfl⟩ := List.mem_map.mp present
  have whole : joinParts (value.splitOn ',') = value := List.intercalate_splitOn ','
  rw [← whole]
  exact mem_joinParts_of_mem split ((trim_within piece).subset found)

/-! ### Tokens -/

/-- The non-empty parts of a comma-separated value. -/
def betaTokens (value : List Char) : List (List Char) := (betaParts value).filter fun part => !part.isEmpty

def isOtherFlag (token : List Char) : Bool := !isAdaptiveFlag token && !isInterleavedFlag token

def otherTokens (value : List Char) : List (List Char) := (betaTokens value).filter isOtherFlag

theorem betaTokens_joinParts {parts : List (List Char)} (clean : ∀ part ∈ parts, Clean part) :
    betaTokens (joinParts parts) = parts.filter fun part => !part.isEmpty := by
  cases parts with
  | nil => rfl
  | cons first rest => rw [betaTokens, betaParts_joinParts clean (List.cons_ne_nil _ _)]

theorem betaTokens_strip (value : List Char) : betaTokens (stripThinkingFromBetaHeader value) = otherTokens value := by
  rw [stripThinkingFromBetaHeader, betaTokens_joinParts, otherTokens, betaTokens]
  · exact List.filter_comm _ _ _
  · intro part member
    exact clean_of_mem_betaParts (List.mem_of_mem_filter member)

theorem default_flag :
    isAdaptiveFlag "interleaved-thinking-2025-05-14".toList = false ∧
      isInterleavedFlag "interleaved-thinking-2025-05-14".toList = true ∧
      Clean "interleaved-thinking-2025-05-14".toList :=
  ⟨by decide, by decide, by decide, by decide⟩

/-- The parts that a patched value is joined from. -/
def patchedParts (value : List Char) : List (List Char) :=
  let parts := (betaParts value).filter fun part => !isAdaptiveFlag part
  if parts.any isInterleavedFlag then parts else parts ++ ["interleaved-thinking-2025-05-14".toList]

structure Patched (parts : List (List Char)) : Prop where
  clean : ∀ part ∈ parts, Clean part
  noAdaptive : ∀ part ∈ parts, isAdaptiveFlag part = false
  interleaved : parts.any isInterleavedFlag = true

theorem patchedParts_patched (value : List Char) : Patched (patchedParts value) := by
  obtain ⟨notAdaptive, interleaved, clean⟩ := default_flag
  have kept : ∀ part ∈ (betaParts value).filter fun part => !isAdaptiveFlag part,
      Clean part ∧ isAdaptiveFlag part = false := by
    intro part member
    obtain ⟨present, flag⟩ := List.mem_filter.mp member
    exact ⟨clean_of_mem_betaParts present, by simpa using flag⟩
  unfold patchedParts
  dsimp only
  split
  · rename_i found
    exact ⟨fun part member => (kept part member).1, fun part member => (kept part member).2, found⟩
  · refine ⟨fun part member => ?_, fun part member => ?_, ?_⟩
    · rcases List.mem_append.mp member with old | new
      · exact (kept part old).1
      · rw [List.mem_singleton.mp new]
        exact clean
    · rcases List.mem_append.mp member with old | new
      · exact (kept part old).2
      · rw [List.mem_singleton.mp new]
        exact notAdaptive
    · rw [List.any_append, List.any_cons, interleaved, Bool.true_or, Bool.or_true]

theorem Patched.nonempty {parts : List (List Char)} (patched : Patched parts) : parts ≠ [] := by
  rintro rfl
  cases patched.interleaved

theorem Patched.fixed {parts : List (List Char)} (patched : Patched parts) :
    patchAnthropicBetaHeader (joinParts parts) = joinParts parts := by
  have kept : (parts.filter fun part => !isAdaptiveFlag part) = parts :=
    List.filter_eq_self.mpr fun part member => by rw [patched.noAdaptive part member]; rfl
  rw [patchAnthropicBetaHeader, betaParts_joinParts patched.clean patched.nonempty, kept, patched.interleaved, if_pos rfl]

theorem patchAnthropicBetaHeader_eq (value : List Char) :
    patchAnthropicBetaHeader value = joinParts (patchedParts value) := rfl

theorem patch_patch (value : List Char) :
    patchAnthropicBetaHeader (patchAnthropicBetaHeader value) = patchAnthropicBetaHeader value :=
  (patchedParts_patched value).fixed

theorem strip_strip (value : List Char) :
    stripThinkingFromBetaHeader (stripThinkingFromBetaHeader value) = stripThinkingFromBetaHeader value := by
  generalize stripped : (betaParts value).filter (fun part => !isAdaptiveFlag part && !isInterleavedFlag part) = parts
  have joined : stripThinkingFromBetaHeader value = joinParts parts := by rw [← stripped]; rfl
  rw [joined]
  cases parts with
  | nil => rfl
  | cons first rest =>
    have clean : ∀ part ∈ first :: rest, Clean part := by
      rw [← stripped]
      exact fun part member => clean_of_mem_betaParts (List.mem_of_mem_filter member)
    have kept : ((first :: rest).filter fun part => !isAdaptiveFlag part && !isInterleavedFlag part) = first :: rest := by
      rw [← stripped, List.filter_filter]
      simp only [Bool.and_self]
    rw [stripThinkingFromBetaHeader, betaParts_joinParts clean (List.cons_ne_nil _ _), kept]

theorem betaTokens_patch (value : List Char) :
    betaTokens (patchAnthropicBetaHeader value) = (patchedParts value).filter fun part => !part.isEmpty := by
  rw [patchAnthropicBetaHeader_eq, betaTokens_joinParts (patchedParts_patched value).clean]

theorem not_isOtherFlag_of_interleaved {part : List Char} (interleaved : isInterleavedFlag part = true) :
    isOtherFlag part = false := by
  rw [isOtherFlag, interleaved, Bool.not_true, Bool.and_false]

theorem otherTokens_patch (value : List Char) : otherTokens (patchAnthropicBetaHeader value) = otherTokens value := by
  have appended : (patchedParts value).filter isOtherFlag = (betaParts value).filter isOtherFlag := by
    have kept : ((betaParts value).filter fun part => !isAdaptiveFlag part).filter isOtherFlag =
        (betaParts value).filter isOtherFlag := by
      rw [List.filter_filter]
      refine List.filter_congr fun part _ => ?_
      simp only [isOtherFlag, Bool.and_right_comm, Bool.and_self]
    unfold patchedParts
    dsimp only
    split
    · exact kept
    · rw [List.filter_append, kept, List.filter_singleton, not_isOtherFlag_of_interleaved default_flag.2.1]
      exact List.append_nil _
  rw [otherTokens, betaTokens_patch, List.filter_comm, appended, List.filter_comm, otherTokens, betaTokens]

theorem not_isEmpty_of_interleaved {part : List Char} (interleaved : isInterleavedFlag part = true) :
    part.isEmpty = false := by
  cases part with
  | nil => cases interleaved
  | cons => rfl

theorem patch_interleaved (value : List Char) :
    ∃ token ∈ betaTokens (patchAnthropicBetaHeader value), isInterleavedFlag token = true := by
  obtain ⟨token, member, interleaved⟩ := List.any_eq_true.mp (patchedParts_patched value).interleaved
  refine ⟨token, ?_, interleaved⟩
  rw [betaTokens_patch]
  exact List.mem_filter.mpr ⟨member, by rw [not_isEmpty_of_interleaved interleaved]; rfl⟩

theorem patch_noAdaptive (value : List Char) :
    ∀ token ∈ betaTokens (patchAnthropicBetaHeader value), isAdaptiveFlag token = false := by
  intro token member
  rw [betaTokens_patch] at member
  exact (patchedParts_patched value).noAdaptive token (List.mem_of_mem_filter member)

theorem betaRewrite_betaRewrite (thinkingActive : Bool) (value : List Char) :
    betaRewrite thinkingActive (betaRewrite thinkingActive value) = betaRewrite thinkingActive value := by
  cases thinkingActive with
  | false => exact strip_strip value
  | true => exact patch_patch value

theorem visible_betaRewrite (thinkingActive : Bool) {value : List Char} (visible : ∀ c ∈ value, isVisibleChar c = true) :
    ∀ c ∈ betaRewrite thinkingActive value, isVisibleChar c = true := by
  have kept : ∀ {keep : List Char → Bool} {part : List Char} {c : Char},
      part ∈ (betaParts value).filter keep → c ∈ part → isVisibleChar c = true :=
    fun present found => visible _ (mem_of_mem_betaParts (List.mem_of_mem_filter present) found)
  intro c member
  cases thinkingActive with
  | false =>
    rcases mem_joinParts member with rfl | ⟨part, present, found⟩
    · rfl
    · exact kept present found
  | true =>
    have within : c ∈ joinParts (patchedParts value) := member
    rcases mem_joinParts within with rfl | ⟨part, present, found⟩
    · rfl
    · unfold patchedParts at present
      dsimp only at present
      split at present
      · exact kept present found
      · rcases List.mem_append.mp present with old | new
        · exact kept old found
        · have flag : "interleaved-thinking-2025-05-14".toList.all isVisibleChar = true := by decide +kernel
          exact List.all_eq_true.mp flag c (List.mem_singleton.mp new ▸ found)

theorem otherTokens_strip (value : List Char) : otherTokens (stripThinkingFromBetaHeader value) = otherTokens value := by
  rw [otherTokens, betaTokens_strip, otherTokens, List.filter_filter]
  simp only [Bool.and_self]

end Anycode.Pipeline
