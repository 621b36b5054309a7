import Anycode.Metrics.TokenMasks

/-!
# Masking behind keys

The three passes of `mask_key_value` work on each field of a text by itself. In a field the first
marker decides: what follows it is masked, whatever other markers it holds.
-/

namespace Anycode.Metrics
open Data Pipeline

/-- The text that a pass for one key leaves. -/
def maskedKey (input : List Char) (key : String) : List Char :=
  match maskKeyValue input key with
  | .ok output => output
  | .error _ => input

def maskedKeys (input : List Char) : List Char := tokenKeys.foldl maskedKey input

theorem maskKeyValue_eq (input : List Char) (key : String) : maskKeyValue input key = .ok (maskedKey input key) := by
  obtain ⟨output, masked⟩ := maskKeyValue_ok input key
  rw [maskedKey, masked]

/-- Only the pass for bearer tokens can fail. -/
theorem maskTokens_eq (input : List Char) : maskTokens input = (maskBearerTokens input).map maskedKeys := by
  rw [maskTokens]
  cases maskBearerTokens input with
  | error panic => rfl
  | ok output =>
    simp only [bind, Except.bind, maskKeyValue_eq]
    rfl

/-! ### One pass -/

theorem maskedKey_absent {key : String} {text : List Char} (absent : breakAt (keyMarker key).text text = none) :
    maskedKey text key = text := by
  rw [maskedKey, maskKeyValue, maskAfter_none absent]

theorem maskedKey_found {key : String} {text before after rest : List Char}
    (found : breakAt (keyMarker key).text text = some (before, after)) (split : after = upToSeparator after ++ rest) :
    maskedKey text key = before ++ (keyMarker key).text ++ maskValue (upToSeparator after) ++ maskedKey rest key := by
  have cut : sliceFrom after (byteLen (upToSeparator after)) = .ok rest := by
    have whole := sliceFrom_append (upToSeparator after) rest
    rwa [← split] at whole
  have masked : maskAfter (keyMarker key) upToSeparator rest = .ok (maskedKey rest key) := maskKeyValue_eq rest key
  rw [maskedKey, maskKeyValue, maskAfter_some found, cut, Except.bind, masked]
  rfl

/-- No marker ends in another. -/
theorem keyMarker_suffix {key other : String} (listed : key ∈ tokenKeys) (listed' : other ∈ tokenKeys)
    (ends : (keyMarker key).text <:+ (keyMarker other).text) : key = other := by
  have all : ∀ key ∈ tokenKeys, ∀ other ∈ tokenKeys, (keyMarker key).text <:+ (keyMarker other).text → key = other := by
    decide
  exact all key listed other listed' ends

theorem outside_marker {key : String} (listed : key ∈ tokenKeys) {c : Char} (separator : isSeparator c = true) :
    c ∉ (keyMarker key).text := by
  intro member
  rw [(keyMarker_chars listed).1 c member] at separator
  cases separator

theorem maskedKey_separator {key : String} (listed : key ∈ tokenKeys) {c : Char} (separator : isSeparator c = true)
    (text rest : List Char) : maskedKey (text ++ c :: rest) key = maskedKey text key ++ c :: maskedKey rest key := by
  have outside : c ∉ (keyMarker key).text := outside_marker listed separator
  have parts := breakAt_append_cons outside (keyMarker key).nonempty
  induction text using maskAfter.induct (keyMarker key) upToSeparator with
  | case1 text absent =>
    rw [maskedKey_absent absent]
    cases later : breakAt (keyMarker key).text rest with
    | none => rw [maskedKey_absent later, maskedKey_absent (by rw [parts, absent, later]; rfl)]
    | some found =>
      obtain ⟨before, after⟩ := found
      obtain ⟨behind, split, _⟩ := field_append_drop isSeparator after
      rw [maskedKey_found later split, maskedKey_found (by rw [parts, absent, later]; rfl) split]
      simp only [List.append_assoc, List.cons_append]
  | case2 text before after found panic cut =>
    obtain ⟨behind, split, _⟩ := field_append_drop isSeparator after
    have whole := sliceFrom_append (upToSeparator after) behind
    rw [upToSeparator_eq, ← split, ← upToSeparator_eq, cut] at whole
    cases whole
  | case3 text before after found tail cut ih =>
    obtain ⟨behind, split, breaks⟩ := field_append_drop isSeparator after
    have whole := sliceFrom_append (upToSeparator after) behind
    rw [upToSeparator_eq, ← split, ← upToSeparator_eq, cut] at whole
    cases whole
    have same : upToSeparator (after ++ c :: rest) = upToSeparator after := by
      have breaks' : Breaks isSeparator (tail ++ c :: rest) := by
        cases tail with
        | nil => exact separator
        | cons d tail => exact breaks
      have longer := field_append (unbroken_field isSeparator after) breaks'
      rwa [← List.append_assoc, ← split] at longer
    have split' : after ++ c :: rest = upToSeparator (after ++ c :: rest) ++ (tail ++ c :: rest) := by
      rw [same, ← List.append_assoc, upToSeparator_eq, ← split]
    rw [maskedKey_found found split, maskedKey_found (by rw [parts, found]; rfl) split', same, ih]
    simp only [List.append_assoc]

/-- A pass copies a character that no marker has. -/
theorem maskedKey_cons {key : String} {c : Char} (outside : c ∉ (keyMarker key).text) (text : List Char) :
    maskedKey (c :: text) key = c :: maskedKey text key := by
  have nothing : breakAt (keyMarker key).text [] = none :=
    breakAt_eq_none fun inside => (keyMarker key).nonempty (List.infix_nil.mp inside)
  have parts := breakAt_append_cons outside (keyMarker key).nonempty [] text
  rw [List.nil_append, nothing] at parts
  cases later : breakAt (keyMarker key).text text with
  | none => rw [maskedKey_absent later, maskedKey_absent (by rw [parts, later]; rfl)]
  | some found =>
    obtain ⟨before, after⟩ := found
    obtain ⟨behind, split, _⟩ := field_append_drop isSeparator after
    rw [maskedKey_found later split, maskedKey_found (by rw [parts, later]; rfl) split]
    rfl

/-! ### The passes together -/

theorem foldl_separator {keys : List String} (listed : ∀ key ∈ keys, key ∈ tokenKeys) {c : Char}
    (separator : isSeparator c = true) (text rest : List Char) :
    keys.foldl maskedKey (text ++ c :: rest) = keys.foldl maskedKey text ++ c :: keys.foldl maskedKey rest := by
  induction keys generalizing text rest with
  | nil => rfl
  | cons key keys ih =>
    rw [List.foldl_cons, maskedKey_separator (listed key List.mem_cons_self) separator,
      ih fun other member => listed other (List.mem_cons_of_mem _ member)]
    rfl

theorem maskedKeys_separator {c : Char} (separator : isSeparator c = true) (text rest : List Char) :
    maskedKeys (text ++ c :: rest) = maskedKeys text ++ c :: maskedKeys rest :=
  foldl_separator (fun _ member => member) separator text rest

theorem foldl_star {keys : List String} (listed : ∀ key ∈ keys, key ∈ tokenKeys) (text : List Char) :
    keys.foldl maskedKey ('*' :: text) = '*' :: keys.foldl maskedKey text := by
  induction keys generalizing text with
  | nil => rfl
  | cons key keys ih =>
    rw [List.foldl_cons, maskedKey_cons (keyMarker_chars (listed key List.mem_cons_self)).2.1,
      ih fun other member => listed other (List.mem_cons_of_mem _ member)]
    rfl

theorem maskedKeys_star (text : List Char) : maskedKeys ('*' :: text) = '*' :: maskedKeys text :=
  foldl_star (fun _ member => member) text

/-! ### Masks -/

/-- Stars, and an end of the token of at most four characters. -/
theorem maskValue_shape {token : List Char} (unbroken : Unbroken isWhitespace token) :
    ∃ last, maskValue token = List.replicate 4 '*' ++ last ∧ last <:+ token ∧ last.length ≤ 4 := by
  refine ⟨token.drop (token.length - 4), ?_, List.drop_suffix _ _, by rw [List.length_drop]; omega⟩
  rw [maskValue_eq, lastFour_visible unbroken]

/-- Masking what is masked at its end adds stars. -/
theorem maskValue_masked {before last : List Char} {stars : Nat} (many : 4 ≤ stars) (few : last.length ≤ 4)
    (unbroken : Unbroken isWhitespace (before ++ (List.replicate stars '*' ++ last))) :
    maskValue (before ++ (List.replicate stars '*' ++ last)) = List.replicate (4 + (4 - last.length)) '*' ++ last := by
  have reach : (before ++ (List.replicate stars '*' ++ last)).length - 4 = before.length + (stars - (4 - last.length)) := by
    simp only [List.length_append, List.length_replicate]
    omega
  have cut : (before ++ (List.replicate stars '*' ++ last)).drop (before.length + (stars - (4 - last.length))) =
      List.replicate (4 - last.length) '*' ++ last := by
    rw [← List.drop_drop, List.drop_left, List.drop_append_of_le_length (by rw [List.length_replicate]; omega),
      List.drop_replicate]
    congr 2
    omega
  rw [maskValue_eq, lastFour_visible unbroken, reach, cut, ← List.append_assoc, List.replicate_append_replicate]

theorem countP_mask (stars : Nat) (last : List Char) :
    (List.replicate stars '*' ++ last).countP (fun c => c != '*') ≤ last.length := by
  rw [List.countP_append, List.countP_replicate, if_neg (by decide), Nat.zero_add]
  exact List.countP_le_length

theorem countP_marker {key : String} (listed : key ∈ tokenKeys) :
    4 < (keyMarker key).text.countP fun c => c != '*' := by
  obtain ⟨_, outside, long, _⟩ := keyMarker_chars listed
  rwa [List.countP_eq_length.mpr]
  intro c member
  rw [bne_iff_ne]
  rintro rfl
  exact outside member

/-! ### Fields -/

/-- What the passes for these keys make of a field: nothing if it has none of their markers, and
otherwise the first of them is followed by a mask. -/
inductive FieldMasked (keys : List String) (text : List Char) : List Char → Prop
  | plain (absent : ∀ key ∈ keys, ¬ (keyMarker key).text <:+: text) : FieldMasked keys text text
  | marked {before token last : List Char} {key : String} {stars : Nat} (listed : key ∈ keys)
    (split : text = before ++ (keyMarker key).text ++ token)
    (first : ∀ other ∈ keys, ¬ (keyMarker other).text <:+: (before ++ (keyMarker key).text).dropLast)
    (many : 4 ≤ stars) (ends : last <:+ token) (few : last.length ≤ 4) :
    FieldMasked keys text (before ++ (keyMarker key).text ++ (List.replicate stars '*' ++ last))

theorem unbroken_mask {last token : List Char} (stars : Nat) (unbroken : Unbroken isSeparator token)
    (ends : last <:+ token) :
    Unbroken isSeparator (List.replicate stars '*' ++ last) := by
  refine unbroken_append.mpr ⟨?_, unbroken.part ends.isInfix⟩
  intro c member
  rw [List.eq_of_mem_replicate member]
  decide

theorem FieldMasked.unbroken {keys : List String} {text shown : List Char} (masked : FieldMasked keys text shown)
    (unbroken : Unbroken isSeparator text) : Unbroken isSeparator shown := by
  cases masked with
  | plain => exact unbroken
  | marked listed split first many ends few =>
    rw [split, unbroken_append] at unbroken
    exact unbroken_append.mpr ⟨unbroken.1, unbroken_mask _ unbroken.2 ends⟩

/-- A marker of another key does not end in the mask behind a marker, nor where the marker does. -/
theorem marker_not_beyond {key other : String} (listed : key ∈ tokenKeys) (listed' : other ∈ tokenKeys)
    (different : other ≠ key)
    {before last found beyond after : List Char} {stars : Nat} (many : 4 ≤ stars) (few : last.length ≤ 4)
    (split : found ++ (keyMarker other).text = before ++ ((keyMarker key).text ++ beyond))
    (mask : List.replicate stars '*' ++ last = beyond ++ after) : False := by
  have ends : (keyMarker other).text <:+ before ++ ((keyMarker key).text ++ beyond) := ⟨found, split⟩
  cases beyond with
  | nil =>
    rw [List.append_nil] at ends
    rcases List.suffix_or_suffix_of_suffix ends (List.suffix_append _ _) with within | within
    · exact different (keyMarker_suffix listed' listed within)
    · exact different (keyMarker_suffix listed listed' within).symm
  | cons c beyond =>
    have star : c = '*' := by
      obtain ⟨n, rfl⟩ : ∃ n, stars = n + 1 := ⟨stars - 1, by omega⟩
      rw [List.replicate_succ, List.cons_append, List.cons_append] at mask
      exact (List.cons_eq_cons.mp mask).1.symm
    rw [← List.append_assoc] at ends
    rcases List.suffix_or_suffix_of_suffix ends (List.suffix_append _ _) with within | within
    · have counted := within.sublist.countP_le (p := fun c => c != '*')
      have shorter := (List.prefix_append (c :: beyond) after).sublist.countP_le (p := fun c => c != '*')
      rw [← mask] at shorter
      have long := countP_marker listed'
      have short := countP_mask stars last
      omega
    · rw [star] at within
      exact (keyMarker_chars listed').2.1 (within.subset List.mem_cons_self)

/-- In a masked field, a marker of another key stands before the marker that was masked behind. -/
theorem marker_before {key other : String} (listed : key ∈ tokenKeys) (listed' : other ∈ tokenKeys)
    (different : other ≠ key)
    {before last found after : List Char} {stars : Nat} (many : 4 ≤ stars) (few : last.length ≤ 4)
    (split : found ++ (keyMarker other).text ++ after =
      before ++ (keyMarker key).text ++ (List.replicate stars '*' ++ last)) :
    ∃ between, before = found ++ (keyMarker other).text ++ between ∧
      after = between ++ (keyMarker key).text ++ (List.replicate stars '*' ++ last) := by
  rw [List.append_assoc before] at split
  rcases List.append_eq_append_iff.mp split with ⟨between, starts, rest⟩ | ⟨beyond, ends, rest⟩
  · exact ⟨between, starts, by rw [rest, List.append_assoc]⟩
  · rcases List.append_eq_append_iff.mp rest with ⟨behind, rfl, mask⟩ | ⟨left, marker, rfl⟩
    · exact (marker_not_beyond listed listed' different many few ends mask).elim
    · rcases List.eq_nil_or_concat beyond with rfl | ⟨start, c, rfl⟩
      · exact ⟨[], by rw [ends, List.append_nil, List.append_nil], by rw [marker]; rfl⟩
      · -- The other marker's sign would stand inside this marker, or at its end.
        exfalso
        have sign : c = '=' := by
          have lasts := congrArg List.getLast? ends
          simpa [keyMarker] using lasts.symm
        cases left with
        | nil =>
          rw [List.append_nil] at marker
          have here : found ++ (keyMarker other).text = before ++ ((keyMarker key).text ++ []) := by
            rw [List.append_nil, marker, ends]
          exact marker_not_beyond listed listed' different many few here rfl
        | cons d left =>
          refine (keyMarker_chars listed).2.2.2 ?_
          rw [marker, List.dropLast_append_of_ne_nil (List.cons_ne_nil d left), sign, List.concat_eq_append]
          exact List.mem_append_left _ (List.mem_append_right _ List.mem_cons_self)

theorem FieldMasked.absent {keys : List String} {text shown : List Char} {key : String} (masked : FieldMasked keys text shown)
    (absent : ¬ (keyMarker key).text <:+: shown) : FieldMasked (key :: keys) text shown := by
  cases masked with
  | plain others => exact .plain (List.forall_mem_cons.mpr ⟨absent, others⟩)
  | marked member split first many ends few =>
    refine .marked (List.mem_cons_of_mem _ member) split (List.forall_mem_cons.mpr ⟨?_, first⟩) many ends few
    exact fun inside => absent (inside.trans ((List.dropLast_prefix _).trans (List.prefix_append _ _)).isInfix)

/-- A marker that is found stands before the one that was masked behind, and its mask is the outer one. -/
theorem FieldMasked.found {keys : List String} {text shown before after : List Char} {key : String}
    (masked : FieldMasked keys text shown) (light : Unbroken isSeparator after) (listed : key ∈ tokenKeys)
    (old : ∀ other ∈ keys, other ∈ tokenKeys) (fresh : key ∉ keys)
    (found : breakAt (keyMarker key).text shown = some (before, after)) :
    FieldMasked (key :: keys) text (before ++ (keyMarker key).text ++ maskValue after) := by
  have first := breakAt_first (keyMarker key).nonempty found
  have split := breakAt_eq_some found
  rw [← List.append_assoc] at split
  cases masked with
  | plain others =>
    obtain ⟨last, shape, ends, few⟩ := maskValue_shape (unbroken_blank light)
    rw [shape]
    refine .marked List.mem_cons_self split (List.forall_mem_cons.mpr ⟨first, ?_⟩) (Nat.le_refl 4) ends few
    intro other member inside
    refine others other member (inside.trans ?_)
    rw [split]
    exact ((List.dropLast_prefix _).trans (List.prefix_append _ _)).isInfix
  | @marked start token last mark stars member origin firsts many ends few =>
    have different : key ≠ mark := fun same => fresh (same ▸ member)
    obtain ⟨between, rfl, rfl⟩ := marker_before (old mark member) listed different many few split.symm
    have ends' : last <:+ between ++ (keyMarker mark).text ++ token := ends.trans (List.suffix_append _ _)
    rw [maskValue_masked many few (unbroken_blank light)]
    refine .marked List.mem_cons_self ?_ (List.forall_mem_cons.mpr ⟨first, ?_⟩) (Nat.le_add_right 4 _) ends' few
    · rw [origin]
      simp only [List.append_assoc]
    · intro other known inside
      refine firsts other known (inside.trans ((List.dropLast_prefix _).trans ?_).isInfix)
      rw [List.dropLast_append_of_ne_nil (keyMarker mark).nonempty, List.append_assoc _ between]
      exact List.prefix_append _ _

theorem FieldMasked.step {keys : List String} {text shown : List Char} {key : String} (masked : FieldMasked keys text shown)
    (unbroken : Unbroken isSeparator text) (listed : key ∈ tokenKeys) (old : ∀ other ∈ keys, other ∈ tokenKeys)
    (fresh : key ∉ keys) : FieldMasked (key :: keys) text (maskedKey shown key) := by
  cases found : breakAt (keyMarker key).text shown with
  | none =>
    rw [maskedKey_absent found]
    refine masked.absent ?_
    rw [← breakAt_isSome, found]
    exact Bool.false_ne_true
  | some parts =>
    obtain ⟨before, after⟩ := parts
    have light : Unbroken isSeparator after := by
      refine (masked.unbroken unbroken).part ?_
      rw [breakAt_eq_some found, ← List.append_assoc]
      exact (List.suffix_append _ _).isInfix
    have whole : after = upToSeparator after ++ [] := by rw [List.append_nil, upToSeparator_eq, light.field_eq]
    have nothing : maskedKey [] key = [] :=
      maskedKey_absent (breakAt_eq_none fun inside => (keyMarker key).nonempty (List.infix_nil.mp inside))
    rw [maskedKey_found found whole, nothing, List.append_nil, upToSeparator_eq, light.field_eq]
    exact masked.found light listed old fresh found

theorem FieldMasked.foldl {keys done : List String} {text shown : List Char} (masked : FieldMasked done text shown)
    (unbroken : Unbroken isSeparator text) (listed : ∀ key ∈ keys, key ∈ tokenKeys)
    (old : ∀ key ∈ done, key ∈ tokenKeys)
    (distinct : (keys ++ done).Nodup) : FieldMasked (keys.reverse ++ done) text (keys.foldl maskedKey shown) := by
  induction keys generalizing done shown with
  | nil => exact masked
  | cons key keys ih =>
    rw [List.cons_append, List.nodup_cons, List.mem_append, not_or] at distinct
    obtain ⟨fresh, rest⟩ := distinct
    have next := masked.step unbroken (listed key List.mem_cons_self) old fresh.2
    rw [List.foldl_cons, List.reverse_cons, List.append_assoc]
    refine ih next (fun other member => listed other (List.mem_cons_of_mem _ member))
      (List.forall_mem_cons.mpr ⟨listed key List.mem_cons_self, old⟩) ?_
    exact List.perm_middle.nodup_iff.mpr (List.nodup_cons.mpr ⟨by rwa [List.mem_append, not_or], rest⟩)

theorem fieldMasked_maskedKeys {text : List Char} (unbroken : Unbroken isSeparator text) :
    FieldMasked tokenKeys.reverse text (maskedKeys text) := by
  have none_ : FieldMasked [] text text := .plain nofun
  have all := none_.foldl unbroken (fun _ member => member) nofun (by decide)
  rwa [List.append_nil] at all

theorem maskedKeys_absent {text : List Char} (absent : ∀ key ∈ tokenKeys, ¬ (keyMarker key).text <:+: text) :
    maskedKeys text = text := by
  have fold : ∀ keys : List String, (∀ key ∈ keys, key ∈ tokenKeys) → keys.foldl maskedKey text = text := by
    intro keys listed
    induction keys with
    | nil => rfl
    | cons key keys ih =>
      rw [List.foldl_cons, maskedKey_absent (breakAt_eq_none (absent key (listed key List.mem_cons_self))),
        ih fun other member => listed other (List.mem_cons_of_mem _ member)]
  exact fold tokenKeys fun _ member => member

/-- A mask stays as it is. -/
theorem maskedKeys_mask {last : List Char} (stars : Nat) (few : last.length ≤ 4) :
    maskedKeys (List.replicate stars '*' ++ last) = List.replicate stars '*' ++ last := by
  refine maskedKeys_absent ?_
  intro key listed inside
  have counted := inside.sublist.countP_le (p := fun c => c != '*')
  have long := countP_marker listed
  have short := countP_mask stars last
  omega

theorem unbroken_maskedKeys {text : List Char} (unbroken : Unbroken isSeparator text) :
    Unbroken isSeparator (maskedKeys text) :=
  (fieldMasked_maskedKeys unbroken).unbroken unbroken

theorem countP_unbroken {text : List Char} (unbroken : Unbroken isWhitespace text) : text.countP isWhitespace = 0 :=
  List.countP_eq_zero.mpr fun c member => by rw [unbroken c member]; exact Bool.false_ne_true

theorem countP_maskedKeys (text : List Char) : (maskedKeys text).countP isWhitespace = text.countP isWhitespace := by
  induction text using fields_induction isSeparator with
  | last text unbroken =>
    rw [countP_unbroken (unbroken_blank (unbroken_maskedKeys unbroken)), countP_unbroken (unbroken_blank unbroken)]
  | more first c rest unbroken separator ih =>
    rw [maskedKeys_separator separator, List.countP_append, List.countP_append, List.countP_cons, List.countP_cons, ih,
      countP_unbroken (unbroken_blank (unbroken_maskedKeys unbroken)), countP_unbroken (unbroken_blank unbroken)]

theorem countP_field_marker {key : String} {text : List Char} (listed : key ∈ tokenKeys)
    (unbroken : Unbroken isSeparator text) (inside : (keyMarker key).text <:+: text) :
    4 < (maskedKeys text).countP fun c => c != '*' := by
  have masked := fieldMasked_maskedKeys unbroken
  generalize maskedKeys text = shown at masked
  cases masked with
  | plain absent => exact absurd inside (absent key (List.mem_reverse.mpr listed))
  | marked member =>
    rw [List.countP_append, List.countP_append]
    have long := countP_marker (List.mem_reverse.mp member)
    omega

/-- A marker outlives the passes. -/
theorem countP_maskedKeys_marker {key : String} {text : List Char} (listed : key ∈ tokenKeys)
    (inside : (keyMarker key).text <:+: text) : 4 < (maskedKeys text).countP fun c => c != '*' := by
  induction text using fields_induction isSeparator with
  | last text unbroken => exact countP_field_marker listed unbroken inside
  | more first c rest unbroken separator ih =>
    rw [maskedKeys_separator separator, List.countP_append, List.countP_cons]
    rcases infix_append_cons (outside_marker listed separator) (keyMarker key).nonempty inside with here | later
    · have long := countP_field_marker listed unbroken here
      omega
    · have long := ih later
      omega

/-! ### The redaction of fields -/

/-- A token behind a key that reaches into a field has its marker in that field. -/
theorem marker_of_inside {before first text : List Char} {c : Char}
    (inside : Inside KeyValueAt (before ++ first) (c :: text))
    (ends : Ends isSeparator before) : ∃ key ∈ tokenKeys, (keyMarker key).text <:+: first := by
  obtain ⟨start, passed, token, split, found, long⟩ := inside
  have whole := unbroken_passed (TokenAt.starts (.inr found)) found.unbroken long
  obtain ⟨⟨key, listed, marked⟩, _⟩ := found
  obtain ⟨origin, rfl⟩ := marked
  have light : Unbroken isSeparator ((keyMarker key).text ++ passed) :=
    unbroken_append.mpr ⟨(keyMarker_chars listed).1, (unbroken_append.mp whole).1⟩
  have within : (keyMarker key).text ++ passed <:+ first :=
    ends.suffix light ⟨origin, by rw [split, List.append_assoc]⟩
  exact ⟨key, listed, (List.prefix_append _ passed).isInfix.trans within.isInfix⟩

theorem not_inside_separator {before text : List Char} {c : Char} (separator : isSeparator c = true) :
    ¬ Inside KeyValueAt before (c :: text) := by
  rintro ⟨start, passed, token, rfl, found, long⟩
  have unbroken := unbroken_passed (TokenAt.starts (.inr found)) found.unbroken long
  rw [unbroken c (List.mem_append_right _ List.mem_cons_self)] at separator
  cases separator

/-- No character of the text is one that a bearer token must not show. -/
def NoBearer (before text rest : List Char) : Prop :=
  ∀ first c later, text = first ++ c :: later → ¬ Inside BearerAt (before ++ first) (c :: later ++ rest)

variable {before text rest output : List Char}

/-- The passes leave a field redacted. -/
theorem Redacted.field (unbroken : Unbroken isSeparator text) (ends : text = [] ∨ Ends isSeparator before)
    (free : NoBearer before text rest) (breaks : Breaks isSeparator rest)
    (later : Redacted (before ++ text) rest output) :
    Redacted before (text ++ rest) (maskedKeys text ++ output) := by
  have own : ∀ first c tail, text = first ++ c :: tail → Inside KeyValueAt (before ++ first) (c :: tail ++ rest) →
      ∃ key ∈ tokenKeys.reverse, (keyMarker key).text <:+: first := by
    intro first c tail split inside
    have nonempty : text ≠ [] := by
      rw [split]
      exact List.append_ne_nil_of_right_ne_nil _ (List.cons_ne_nil c tail)
    obtain ⟨key, listed, marked⟩ := marker_of_inside inside (ends.resolve_left nonempty)
    exact ⟨key, List.mem_reverse.mpr listed, marked⟩
  have masked := fieldMasked_maskedKeys unbroken
  generalize maskedKeys text = shown at masked
  cases masked with
  | plain absent =>
    refine .keeps ?_ later
    intro first c tail split inside
    rcases inside_tokenAt.mp inside with bearer | keyValue
    · exact free first c tail split bearer
    · obtain ⟨key, member, marked⟩ := own first c tail split keyValue
      refine absent key member (marked.trans ?_)
      rw [split]
      exact (List.prefix_append _ _).isInfix
  | @marked start token last key stars member split firsts many suffix few =>
    subst split
    rw [List.append_assoc _ token, List.append_assoc _ (List.replicate stars '*' ++ last)]
    refine .keeps ?_ (.mask stars (.inr ⟨⟨key, List.mem_reverse.mp member, ?_⟩, ?_⟩) suffix few ?_)
    · intro first c tail split inside
      have split' : start ++ (keyMarker key).text ++ token = first ++ c :: (tail ++ token) := by
        rw [split, List.append_assoc]
        rfl
      have same : c :: tail ++ (token ++ rest) = c :: (tail ++ token) ++ rest := by
        rw [List.cons_append, List.cons_append, List.append_assoc]
      rw [same] at inside
      rcases inside_tokenAt.mp inside with bearer | keyValue
      · exact free first c _ split' bearer
      · obtain ⟨other, known, marked⟩ := own first c _ split' keyValue
        refine firsts other known (marked.trans ?_)
        rw [split, List.dropLast_append_of_ne_nil (List.cons_ne_nil c tail)]
        exact (List.prefix_append _ _).isInfix
    · exact ⟨before ++ start, by rw [List.append_assoc]⟩
    · rw [upToSeparator_eq, field_append (unbroken_append.mp unbroken).2 breaks]
    · rwa [List.append_assoc before]

/-- The passes leave every field of a text redacted. -/
theorem Redacted.fields (ends : Breaks isSeparator text ∨ Ends isSeparator before) (free : NoBearer before text rest)
    (breaks : Breaks isSeparator rest) (later : Redacted (before ++ text) rest output) :
    Redacted before (text ++ rest) (maskedKeys text ++ output) := by
  induction text using fields_induction isSeparator generalizing before with
  | last text unbroken =>
    refine .field unbroken (ends.imp ?_ id) free breaks later
    intro starts
    cases text with
    | nil => rfl
    | cons c text =>
      rw [Breaks, unbroken.head] at starts
      cases starts
  | more first c tail unbroken separator ih =>
    rw [List.append_assoc, List.cons_append, maskedKeys_separator separator, List.append_assoc, List.cons_append]
    refine .field unbroken (ends.imp ?_ id) ?_ separator (.keep ?_ (ih ?_ ?_ ?_))
    · intro starts
      cases first with
      | nil => rfl
      | cons d first =>
        rw [List.cons_append, Breaks, unbroken.head] at starts
        cases starts
    · intro start d later split
      have whole := free start d (later ++ c :: tail) (by rw [split, List.append_assoc]; rfl)
      rwa [← List.cons_append, List.append_assoc] at whole
    · rw [inside_tokenAt, not_or]
      exact ⟨free first c tail rfl, not_inside_separator separator⟩
    · exact .inr (.inr ⟨before ++ first, c, rfl, separator⟩)
    · intro start d later split
      have whole := free (first ++ c :: start) d later (by rw [split, List.append_assoc]; rfl)
      rwa [show before ++ (first ++ c :: start) = before ++ first ++ [c] ++ start by simp] at whole
    · rwa [show before ++ first ++ [c] ++ tail = before ++ (first ++ c :: tail) by simp]

end Anycode.Metrics
