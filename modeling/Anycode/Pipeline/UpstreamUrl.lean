import Mathlib.Data.List.DropRight
import Anycode.Data.Text

/-!
# The upstream URL

`pipeline/upstream_url.rs` joins a base URL with the path and query of a request by cutting
prefixes and suffixes off texts; what that comes to, by whole segments of the path.
-/

namespace Anycode.Pipeline
open Data

def stripPathPrefix (pathAndQuery pattern : List Char) : Option (List Char) :=
  if pattern.isPrefixOf pathAndQuery then
    let rest := pathAndQuery.drop pattern.length
    match rest.head? with
    | some c => if c == '/' || c == '?' then some rest else none
    | none => some rest
  else none

/-- `v` with decimal digits behind it. -/
def isVersion : List Char → Bool
  | 'v' :: digits => !digits.isEmpty && digits.all Char.isDigit
  | _ => false

def trailingVersionSegment (base : List Char) : Option (List Char) :=
  let seg := base.rtakeWhile fun c => c != '/'
  if isVersion seg then some seg else none

def trimSlashes (base : List Char) : List Char := base.rdropWhile fun c => c == '/'

def buildUpstreamUrl (baseUrl : List Char) (stripRequestPrefix : Option (List Char)) (pathAndQuery : List Char) :
    List Char :=
  let base := trimSlashes baseUrl
  let explicit := (stripRequestPrefix.filter fun pattern => !pattern.isEmpty).bind (stripPathPrefix pathAndQuery)
  match explicit with
  | some rest => base ++ rest
  | none =>
    match (trailingVersionSegment base).bind fun version => stripPathPrefix pathAndQuery ('/' :: version) with
    | some rest => base ++ rest
    | none => base ++ pathAndQuery

/-! ### Segments -/

/-- A segment ends at the next one and at the query. -/
def isBoundary (c : Char) : Bool := c == '/' || c == '?'

/-- A segment of a configured prefix. -/
structure Segment where
  text : List Char
  nonempty : text ≠ []
  plain : ∀ c ∈ text, isBoundary c = false

/-- A slash before every segment. -/
def render (segments : List (List Char)) : List Char := segments.flatMap fun segment => '/' :: segment

def pathOf (pathAndQuery : List Char) : List Char := pathAndQuery.takeWhile fun c => c != '?'

def queryOf (pathAndQuery : List Char) : List Char := pathAndQuery.dropWhile fun c => c != '?'

def pathSegments (pathAndQuery : List Char) : List (List Char) := ((pathOf pathAndQuery).drop 1).splitOn '/'

def lastComponent (base : List Char) : List Char := (base.splitOn '/').getLastD []

/-- The segments that are kept: behind the configured prefix, or behind the base's own version. -/
def keptSegments (base : List Char) (strip segments : List (List Char)) : List (List Char) :=
  if strip ≠ [] ∧ strip <+: segments then segments.drop strip.length
  else
    match segments with
    | first :: rest => if isVersion first && first == lastComponent base then rest else segments
    | [] => []

/-- The text is empty or begins where a segment ends. -/
def AtBoundary (text : List Char) : Prop := ∀ c ∈ text.head?, isBoundary c = true

theorem render_cons (segment : List Char) (rest : List (List Char)) :
    render (segment :: rest) = '/' :: segment ++ render rest := List.flatMap_cons

theorem render_append (first second : List (List Char)) : render (first ++ second) = render first ++ render second :=
  List.flatMap_append

theorem render_splitOn (text : List Char) : render (text.splitOn '/') = '/' :: text := by
  have slashes : ∀ first : List Char, ∀ rest : List (List Char),
      render (first :: rest) = '/' :: ['/'].intercalate (first :: rest) := by
    intro first rest
    induction rest generalizing first with
    | nil => simp [render]
    | cons second rest ih =>
      rw [render_cons, ih second, List.intercalate_cons_cons]
      simp
  obtain ⟨first, rest, pieces⟩ := List.exists_cons_of_ne_nil (List.splitOn_ne_nil '/' text)
  rw [pieces, slashes, ← pieces, List.intercalate_splitOn]

theorem atBoundary_query (pathAndQuery : List Char) : AtBoundary (queryOf pathAndQuery) := by
  intro c first
  have kept := List.head?_dropWhile_not (fun c => c != '?') pathAndQuery
  rw [queryOf] at first
  simp [Option.mem_def.mp first] at kept
  simp [isBoundary, kept]

theorem atBoundary_render (segments : List (List Char)) {after : List Char} (boundary : AtBoundary after) :
    AtBoundary (render segments ++ after) := by
  cases segments with
  | nil => exact boundary
  | cons segment rest =>
    rintro c ⟨⟩
    rfl

/-- A path is the segments that it splits into, with the query behind them. -/
theorem render_pathSegments (rest : List Char) :
    render (pathSegments ('/' :: rest)) ++ queryOf ('/' :: rest) = '/' :: rest := by
  have opened : pathOf ('/' :: rest) = '/' :: pathOf rest := rfl
  rw [pathSegments, opened, List.drop_one, List.tail_cons, render_splitOn, ← opened, pathOf, queryOf,
    List.takeWhile_append_dropWhile]

theorem plain_of_mem_pathSegments {rest segment : List Char} (member : segment ∈ pathSegments ('/' :: rest)) :
    ∀ c ∈ segment, isBoundary c = false := by
  intro c inside
  have noSlash : c ≠ '/' := by
    rintro rfl
    exact not_mem_of_mem_splitOn member inside
  have inPath : c ∈ pathOf ('/' :: rest) := by
    have rendered : c ∈ render (pathSegments ('/' :: rest)) :=
      List.mem_flatMap.mpr ⟨segment, member, List.mem_cons_of_mem _ inside⟩
    have opened : pathOf ('/' :: rest) = '/' :: pathOf rest := rfl
    rw [pathSegments, render_splitOn, opened] at rendered
    rw [opened]
    exact rendered
  have noQuery := List.mem_takeWhile_imp (p := fun c => c != '?') inPath
  simp only [isBoundary, Bool.or_eq_false_iff, beq_eq_false_iff_ne]
  exact ⟨noSlash, by simpa using noQuery⟩

/-! ### Cutting a prefix -/

theorem stripPathPrefix_eq_some {pathAndQuery pattern rest : List Char} :
    stripPathPrefix pathAndQuery pattern = some rest ↔ pattern ++ rest = pathAndQuery ∧ AtBoundary rest := by
  have boundary : ∀ text : List Char, (match text.head? with
      | some c => if c == '/' || c == '?' then some text else none
      | none => some text) = some rest ↔ text = rest ∧ AtBoundary rest := by
    intro text
    cases text with
    | nil =>
      refine ⟨?_, fun same => congrArg some same.1⟩
      rintro ⟨⟩
      exact ⟨rfl, nofun⟩
    | cons c text =>
      simp only [List.head?_cons]
      split
      · rename_i ends
        refine ⟨?_, fun same => congrArg some same.1⟩
        rintro ⟨⟩
        refine ⟨rfl, ?_⟩
        rintro _ ⟨⟩
        exact ends
      · rename_i inside
        refine ⟨nofun, ?_⟩
        rintro ⟨rfl, ends⟩
        exact absurd (ends c rfl) inside
  unfold stripPathPrefix
  split
  · rename_i starts
    obtain ⟨tail, rfl⟩ := List.isPrefixOf_iff_prefix.mp starts
    rw [List.drop_left]
    rw [boundary tail, List.append_right_inj]
    exact ⟨fun h => ⟨h.1.symm, h.2⟩, fun h => ⟨h.1.symm, h.2⟩⟩
  · rename_i elsewhere
    refine ⟨nofun, ?_⟩
    rintro ⟨rfl, _⟩
    exact absurd (List.isPrefixOf_iff_prefix.mpr (List.prefix_append _ _)) elsewhere

/-- Two segments that end at boundaries of one text are the same. -/
theorem segment_unique {first second after other : List Char} (plain : ∀ c ∈ first, isBoundary c = false)
    (plain' : ∀ c ∈ second, isBoundary c = false) (boundary : AtBoundary after) (boundary' : AtBoundary other)
    (same : first ++ after = second ++ other) : first = second ∧ after = other := by
  have taken : ∀ segment rest : List Char, (∀ c ∈ segment, isBoundary c = false) → AtBoundary rest →
      (segment ++ rest).takeWhile (fun c => !isBoundary c) = segment := by
    intro segment rest plain boundary
    rw [List.takeWhile_append_of_pos (by simpa using plain)]
    cases rest with
    | nil => exact List.append_nil _
    | cons c rest => rw [List.takeWhile_cons_of_neg (by simp [boundary c rfl]), List.append_nil]
  have segments : first = second := by
    rw [← taken first after plain boundary, same, taken second other plain' boundary']
  subst segments
  exact ⟨rfl, List.append_cancel_left same⟩

/-- A rendered prefix comes off at a boundary exactly where its segments come first. -/
theorem stripPathPrefix_render {strip segments : List (List Char)} {query : List Char}
    (plain : ∀ segment ∈ strip, ∀ c ∈ segment, isBoundary c = false)
    (plain' : ∀ segment ∈ segments, ∀ c ∈ segment, isBoundary c = false) (asked : AtBoundary query)
    (noSlash : query.head? ≠ some '/') :
    stripPathPrefix (render segments ++ query) (render strip) =
      if strip <+: segments then some (render (segments.drop strip.length) ++ query) else none := by
  split
  · rename_i starts
    obtain ⟨kept, rfl⟩ := starts
    rw [List.drop_left, stripPathPrefix_eq_some, render_append, List.append_assoc]
    exact ⟨rfl, atBoundary_render kept asked⟩
  · rename_i elsewhere
    rw [Option.eq_none_iff_forall_ne_some]
    intro rest stripped
    obtain ⟨split, boundary⟩ := stripPathPrefix_eq_some.mp stripped
    refine elsewhere ?_
    clear elsewhere stripped
    induction strip generalizing segments with
    | nil => exact List.nil_prefix
    | cons segment strip ih =>
      cases segments with
      | nil =>
        rw [render_cons] at split
        have first := congrArg List.head? split
        exact absurd first.symm noSlash
      | cons other segments =>
        rw [render_cons, render_cons, List.append_assoc, List.append_assoc, List.cons_append, List.cons_append,
          List.cons_inj_right] at split
        obtain ⟨now, later⟩ := List.forall_mem_cons.mp plain
        obtain ⟨now', later'⟩ := List.forall_mem_cons.mp plain'
        obtain ⟨rfl, remaining⟩ := segment_unique now now' (atBoundary_render strip boundary)
          (atBoundary_render segments asked) split
        exact (List.prefix_cons_inj segment).mpr (ih later later' remaining)

/-! ### The base's version -/

theorem lastComponent_eq_rtakeWhile (base : List Char) :
    lastComponent base = base.rtakeWhile fun c => c != '/' := by
  have tail : '/' ∉ base.rtakeWhile fun c => c != '/' := by
    intro slash
    have other := List.mem_rtakeWhile_imp slash
    simp at other
  have split := List.rdropWhile_append_rtakeWhile (p := fun c => c != '/') (l := base)
  by_cases whole : base.rdropWhile (fun c => c != '/') = []
  · rw [whole, List.nil_append] at split
    rw [split] at tail ⊢
    rw [lastComponent, List.splitOn_eq_singleton tail]
    rfl
  · have slash : (base.rdropWhile fun c => c != '/').getLast whole = '/' := by
      simpa using List.rdropWhile_last_not (fun c => c != '/') base whole
    have before := List.dropLast_append_getLast whole
    rw [slash] at before
    rw [lastComponent]
    nth_rewrite 1 [← split, ← before]
    rw [List.append_assoc, List.singleton_append, List.splitOn_append_cons_self, List.splitOn_eq_singleton tail]
    simp

theorem isVersion_plain {segment : List Char} (version : isVersion segment = true) :
    ∀ c ∈ segment, isBoundary c = false := by
  unfold isVersion at version
  split at version
  · rename_i digits
    have decimal : ∀ c ∈ digits, c.isDigit = true := by
      rw [Bool.and_eq_true, List.all_eq_true] at version
      exact version.2
    refine List.forall_mem_cons.mpr ⟨rfl, ?_⟩
    intro c digit
    have other : ∀ mark : Char, mark.isDigit = false → c ≠ mark := by
      rintro mark notDigit rfl
      rw [decimal c digit] at notDigit
      cases notDigit
    simp [isBoundary, other '/' rfl, other '?' rfl]
  · cases version

theorem stripVersion {segments : List (List Char)} {query version : List Char}
    (plain : ∀ segment ∈ segments, ∀ c ∈ segment, isBoundary c = false) (asked : AtBoundary query)
    (noSlash : query.head? ≠ some '/') (versioned : isVersion version = true) :
    stripPathPrefix (render segments ++ query) ('/' :: version) =
      if segments.head? = some version then some (render segments.tail ++ query) else none := by
  have rendered : '/' :: version = render [version] := by simp [render]
  have plainVersion : ∀ segment ∈ [version], ∀ c ∈ segment, isBoundary c = false :=
    List.forall_mem_singleton.mpr (isVersion_plain versioned)
  rw [rendered, stripPathPrefix_render plainVersion plain asked noSlash]
  cases segments with
  | nil => simp
  | cons first rest => simp [List.cons_prefix_cons, eq_comm]

/-! ### The reference -/

/-- The base without its trailing slashes, the kept segments, and the query. -/
def joinSegments (baseUrl : List Char) (strip : List (List Char)) (pathAndQuery : List Char) : List Char :=
  trimSlashes baseUrl ++ render (keptSegments (trimSlashes baseUrl) strip (pathSegments pathAndQuery)) ++
    queryOf pathAndQuery

theorem trailingVersionSegment_eq (base : List Char) :
    trailingVersionSegment base = if isVersion (lastComponent base) then some (lastComponent base) else none := by
  rw [lastComponent_eq_rtakeWhile]
  rfl

theorem noSlash_query (pathAndQuery : List Char) : (queryOf pathAndQuery).head? ≠ some '/' := by
  intro slash
  have kept := List.head?_dropWhile_not (fun c => c != '?') pathAndQuery
  rw [queryOf] at slash
  simp [slash] at kept

/-- The segments of the configured prefix, if there is one. -/
def stripTexts (strip : Option (List Segment)) : List (List Char) := (strip.getD []).map Segment.text

/-- The prefix as it is configured. -/
def stripPrefixText (strip : List Segment) : List Char := render (strip.map Segment.text)

section
variable {segments : List (List Char)} {query : List Char}

theorem explicit_strip (strip : Option (List Segment)) (plain : ∀ segment ∈ segments, ∀ c ∈ segment, isBoundary c = false)
    (asked : AtBoundary query) (noSlash : query.head? ≠ some '/') :
    ((strip.map stripPrefixText).filter fun pattern => !pattern.isEmpty).bind
        (stripPathPrefix (render segments ++ query)) =
      if stripTexts strip ≠ [] ∧ stripTexts strip <+: segments then
        some (render (segments.drop (stripTexts strip).length) ++ query)
      else none := by
  have configured : ∀ segment ∈ stripTexts strip, ∀ c ∈ segment, isBoundary c = false := by
    intro segment member
    obtain ⟨configured, _, rfl⟩ := List.mem_map.mp member
    exact configured.plain
  cases strip with
  | none => simp [stripTexts]
  | some strip =>
    cases strip with
    | nil => simp [stripTexts, stripPrefixText, render]
    | cons first rest =>
      have filled : (stripPrefixText (first :: rest)).isEmpty = false := rfl
      rw [Option.map_some, Option.filter_some, filled, Bool.not_false, if_pos rfl, Option.bind_some,
        stripPrefixText]
      refine (stripPathPrefix_render configured plain asked noSlash).trans ?_
      simp [stripTexts]

theorem version_strip (base : List Char) (plain : ∀ segment ∈ segments, ∀ c ∈ segment, isBoundary c = false)
    (asked : AtBoundary query) (noSlash : query.head? ≠ some '/') :
    ((trailingVersionSegment base).bind fun version => stripPathPrefix (render segments ++ query) ('/' :: version)) =
      if isVersion (lastComponent base) ∧ segments.head? = some (lastComponent base) then
        some (render segments.tail ++ query)
      else none := by
  rw [trailingVersionSegment_eq]
  by_cases versioned : isVersion (lastComponent base) = true
  · rw [if_pos versioned, Option.bind_some, stripVersion plain asked noSlash versioned]
    simp [versioned]
  · rw [if_neg versioned, if_neg (fun both => versioned both.1)]
    rfl

end

theorem keptSegments_of_prefixed {base : List Char} {strip segments : List (List Char)}
    (stripped : strip ≠ [] ∧ strip <+: segments) :
    keptSegments base strip segments = segments.drop strip.length := if_pos stripped

theorem keptSegments_of_version {base : List Char} {strip segments : List (List Char)}
    (unstripped : ¬ (strip ≠ [] ∧ strip <+: segments)) :
    keptSegments base strip segments =
      if isVersion (lastComponent base) ∧ segments.head? = some (lastComponent base) then segments.tail
      else segments := by
  unfold keptSegments
  rw [if_neg unstripped]
  cases segments with
  | nil => simp
  | cons first rest =>
    by_cases same : first = lastComponent base
    · simp [same]
    · simp [same]

theorem keptSegments_suffix (base : List Char) (strip segments : List (List Char)) :
    keptSegments base strip segments <:+ segments := by
  by_cases stripped : strip ≠ [] ∧ strip <+: segments
  · rw [keptSegments_of_prefixed stripped]
    exact List.drop_suffix _ _
  · rw [keptSegments_of_version stripped]
    split
    · exact List.tail_suffix _
    · exact List.suffix_rfl

/-- The joining by texts is the joining by segments: the query is kept, and so are whole segments
at the end of the path. -/
theorem buildUpstreamUrl_joins (baseUrl : List Char) (strip : Option (List Segment)) (rest : List Char) :
    buildUpstreamUrl baseUrl (strip.map stripPrefixText) ('/' :: rest) =
        joinSegments baseUrl (stripTexts strip) ('/' :: rest) ∧
      ∃ kept, kept <:+ pathSegments ('/' :: rest) ∧
        buildUpstreamUrl baseUrl (strip.map stripPrefixText) ('/' :: rest) =
          trimSlashes baseUrl ++ (render kept ++ queryOf ('/' :: rest)) ∧
        AtBoundary (render kept ++ queryOf ('/' :: rest)) := by
  have plain : ∀ segment ∈ pathSegments ('/' :: rest), ∀ c ∈ segment, isBoundary c = false :=
    fun segment => plain_of_mem_pathSegments
  have asked := atBoundary_query ('/' :: rest)
  have noSlash := noSlash_query ('/' :: rest)
  have joined : buildUpstreamUrl baseUrl (strip.map stripPrefixText) ('/' :: rest) =
      joinSegments baseUrl (stripTexts strip) ('/' :: rest) := by
    have whole := render_pathSegments rest
    have explicit := explicit_strip strip plain asked noSlash
    have version := version_strip (trimSlashes baseUrl) plain asked noSlash
    rw [whole] at explicit version
    simp only [buildUpstreamUrl, explicit, version, joinSegments, List.append_assoc]
    by_cases stripped : stripTexts strip ≠ [] ∧ stripTexts strip <+: pathSegments ('/' :: rest)
    · rw [if_pos stripped, keptSegments_of_prefixed stripped]
    · rw [if_neg stripped, keptSegments_of_version stripped]
      by_cases versioned : isVersion (lastComponent (trimSlashes baseUrl)) = true ∧
          (pathSegments ('/' :: rest)).head? = some (lastComponent (trimSlashes baseUrl))
      · rw [if_pos versioned, if_pos versioned]
      · rw [if_neg versioned, if_neg versioned, whole]
  refine ⟨joined, _, keptSegments_suffix (trimSlashes baseUrl) (stripTexts strip) _, ?_, ?_⟩
  · rw [joined, joinSegments, List.append_assoc]
  · exact atBoundary_render _ asked

end Anycode.Pipeline
