import Anycode.Data.JsonText
import Anycode.Metrics.Preview

/-!
# What a preview depends on

Two bodies that differ only in secrets with the same mask have the same redacted value, so the
structural path of `redact_body` shows them alike. The textual path does not: it hides tokens
behind a few markers, and shows a JSON secret as it is.
-/

namespace Anycode.Metrics
open Data Pipeline

/-! ### Redaction, field by field -/

def shown (key : String) (value : Json) : Json :=
  if isSensitiveKey key then maskedValue value else redactJsonValue value

theorem redactFields_eq (fields : List (String × Json)) :
    redactFields fields = fields.map fun field => (field.1, shown field.1 field.2) := by
  induction fields with
  | nil => rfl
  | cons field rest ih =>
    obtain ⟨key, value⟩ := field
    rw [redactFields, ih, List.map_cons, shown]

theorem redactFields_insert (key : String) (value : Json) (fields : List (String × Json)) :
    redactFields (Assoc.insert key value fields) = Assoc.insert key (shown key value) (redactFields fields) := by
  simp only [redactFields_eq]
  induction fields with
  | nil => rfl
  | cons field rest ih =>
    simp only [Assoc.insert, List.map_cons]
    split
    · rfl
    · split
      · rfl
      · rw [List.map_cons, ih]

theorem redactFields_collect (fields : List (String × Json)) :
    redactFields (collect fields) = collect (redactFields fields) := by
  have folded : ∀ entries, redactFields (fields.foldl (fun entries field => Assoc.insert field.1 field.2 entries) entries) =
      (redactFields fields).foldl (fun entries field => Assoc.insert field.1 field.2 entries) (redactFields entries) := by
    induction fields with
    | nil => exact fun _ => rfl
    | cons field rest ih =>
      intro entries
      rw [List.foldl_cons, ih, redactFields_insert]
      simp only [redactFields_eq, List.map_cons, List.foldl_cons]
  exact folded []

/-! ### Twins have the same redacted value -/

/-- Without surrounding white space, as long as each other and with the same last four characters. -/
def SameMask (value other : List Char) : Prop :=
  (trim value).length = (trim other).length ∧ lastFour value = lastFour other

theorem maskedValue_sameMask {value other : Literal} (same : SameMask value.value other.value) :
    maskedValue (.string value.key) = maskedValue (.string other.key) := by
  simp only [maskedValue, Json.asStr, Option.getD_some, Literal.key, String.toList_ofList, maskValue_eq, same.2]

theorem shown_redacted (key : String) (value : Json) :
    shown key value = if isSensitiveKey key then maskedValue (redactJsonValue value) else redactJsonValue value := by
  have kind : (redactJsonValue value).asStr = value.asStr := by cases value <;> rfl
  rw [shown, maskedValue, maskedValue, kind]

/-- A pass over a list, of which the head may fail to be read and so may the rest. -/
theorem map_cons_read {A B C : Type} {entry : A → B} {show_ : A → C} {pass : List B → List C}
    (step : ∀ a rest, pass (entry a :: rest) = show_ a :: pass rest) (first : Option A) (later : Option (List B)) :
    (first.bind fun a => later.map fun rest => entry a :: rest).map pass =
      (first.map show_).bind fun c => (later.map pass).map fun rest => c :: rest := by
  cases first with
  | none => rfl
  | some a =>
    cases later with
    | none => rfl
    | some rest => exact congrArg some (step a rest)

theorem redactItems_read (first : Option Json) (later : Option (List Json)) :
    (first.bind fun item => later.map fun rest => item :: rest).map redactItems =
      (first.map redactJsonValue).bind fun item => (later.map redactItems).map fun rest => item :: rest :=
  @map_cons_read _ _ _ id redactJsonValue redactItems (fun _ _ => rfl) first later

theorem redactFields_read (key : String) (first : Option Json) (later : Option (List (String × Json))) :
    (first.bind fun value => later.map fun rest => (key, value) :: rest).map redactFields =
      (first.map fun value => (key, shown key value)).bind fun field =>
        (later.map redactFields).map fun rest => field :: rest :=
  @map_cons_read _ _ _ (key, ·) (fun value => (key, shown key value)) redactFields (fun _ _ => rfl) first later

mutual

theorem redactJsonValue_twins (number : List Char → Option Number) (depth : Nat) {doc other : Doc} :
    Doc.Twins isSensitiveKey SameMask doc other →
      (doc.value number depth).map redactJsonValue = (other.value number depth).map redactJsonValue
  | .null => rfl
  | .bool _ => rfl
  | .number => rfl
  | .string _ => rfl
  | .array inside => by
    have same := redactItems_twins number (depth - 1) inside
    have arrays : redactJsonValue ∘ Json.array = Json.array ∘ redactItems := funext fun _ => rfl
    simp only [Doc.value]
    split
    · rfl
    · rw [Option.map_map, Option.map_map, arrays, ← Option.map_map, ← Option.map_map, same]
  | .object inside => by
    have same := redactFields_twins number (depth - 1) inside
    have objects : (redactJsonValue ∘ fun fields => Json.object (collect fields)) =
        (fun fields => Json.object (collect fields)) ∘ redactFields :=
      funext fun fields => congrArg Json.object (redactFields_collect fields)
    simp only [Doc.value]
    split
    · rfl
    · rw [Option.map_map, Option.map_map, objects, ← Option.map_map, ← Option.map_map, same]

theorem redactItems_twins (number : List Char → Option Number) (depth : Nat) {items others : Items} :
    Items.Twins isSensitiveKey SameMask items others →
      (items.values number depth).map redactItems = (others.values number depth).map redactItems
  | .nil => rfl
  | .cons first later => by
    have same := redactJsonValue_twins number depth first
    have rest := redactItems_twins number depth later
    simp only [Items.values]
    rw [redactItems_read, redactItems_read, same, rest]

theorem redactFields_twins (number : List Char → Option Number) (depth : Nat) {members others : Members} :
    Members.Twins isSensitiveKey SameMask members others →
      (members.fields number depth).map redactFields = (others.fields number depth).map redactFields
  | .nil => rfl
  | .cons first later => by
    rename_i key _ _ _ _
    have same := redactJsonValue_twins number depth first
    have rest := redactFields_twins number depth later
    have fields : (fun value => (key.key, shown key.key value)) =
        (fun value => (key.key, if isSensitiveKey key.key then maskedValue value else value)) ∘ redactJsonValue :=
      funext fun value => by rw [shown_redacted]; rfl
    simp only [Members.fields]
    rw [redactFields_read, redactFields_read, rest, fields, ← Option.map_map, ← Option.map_map, same]
  | .secret hidden first later => by
    rename_i key value other _ _
    have rest := redactFields_twins number depth later
    simp only [Members.fields, Doc.value]
    have same : shown key.key (.string value.key) = shown key.key (.string other.key) := by
      rw [shown, shown, if_pos hidden, if_pos hidden, maskedValue_sameMask first]
    rw [redactFields_read, redactFields_read, rest, Option.map_some, Option.map_some, same]

end

/-! ### Bodies and their cuts -/

/-- A sensitive key has at least six characters, as `secret` has. -/
theorem six_le_sensitive {key : Literal} (sensitive : isSensitiveKey key.key = true) : 6 ≤ key.length := by
  unfold isSensitiveKey at sensitive
  obtain ⟨name, listed, same⟩ := List.any_eq_true.mp sensitive
  have long : ["api_key", "authorization", "access_token", "refresh_token", "secret", "password"].all
      (fun name => decide (6 ≤ name.toList.length)) = true := by decide
  have lengths := congrArg List.length (beq_iff_eq.mp same)
  rw [asciiLower, List.length_map, Literal.key, String.toList_ofList, Literal.value, List.length_map] at lengths
  rw [lengths]
  exact of_decide_eq_true (List.all_eq_true.mp long name listed)

abbrev TwinBodies (body other : JsonText) : Prop := JsonText.Twins isSensitiveKey SameMask body other

/-- `{"secret":"` has eleven bytes. -/
theorem twinBodies_share {body other : JsonText} (twins : TwinBodies body other) : Share 11 body.text other.text := by
  obtain ⟨before, doc, after⟩ := twins
  unfold JsonText.text
  rw [before, after]
  exact ((doc.share fun _ => six_le_sensitive).append (.refl 11 _) (Nat.le_refl _)).extend _

theorem withinLimit_some (bytes : List UInt8) (limit : Nat) : withinLimit bytes (some limit) = bytes.take limit := by
  simp only [withinLimit]
  split
  · rfl
  · rename_i short
    exact (List.take_of_length_le (Nat.not_lt.mp short)).symm

theorem take_share {n limit : Nat} {text other : List Char} (share : Share n text other) (early : limit ≤ n) :
    (utf8 text).take limit = (utf8 other).take limit := by
  rcases share with rfl | ⟨common, rest, tail, rfl, rfl, long⟩
  · rfl
  · have enough : limit ≤ (utf8 common).length := by
      rw [length_utf8]
      omega
    simp only [utf8, List.flatMap_append] at enough ⊢
    rw [List.take_append_of_le_length enough, List.take_append_of_le_length enough]

theorem isEmpty_share {n : Nat} {text other : List Char} (share : Share n text other) (positive : 0 < n) :
    (utf8 text).isEmpty = (utf8 other).isEmpty := by
  rcases share with rfl | ⟨common, rest, tail, rfl, rfl, long⟩
  · rfl
  · cases common with
    | nil =>
      rw [byteLen_nil] at long
      omega
    | cons c common =>
      have first := String.utf8EncodeChar_ne_nil (c := c)
      cases encoded : String.utf8EncodeChar c with
      | nil => exact absurd encoded first
      | cons byte bytes => simp [utf8, encoded]

/-- On a JSON body the preview depends on whether it is empty and on the part within the limit. -/
theorem redactBody_congr {serde : SerdePretty} {bytes other : List UInt8} {limit : Option Nat} {pretty : Bool}
    (empty : bytes.isEmpty = other.isEmpty) (data : withinLimit bytes limit = withinLimit other limit) :
    redactBody serde bytes applicationJson limit pretty = redactBody serde other applicationJson limit pretty := by
  have plain : textContains applicationJson eventStream = false := by decide
  unfold redactBody
  rw [empty, data, plain]
  rfl

/-- The nesting that the parser follows. -/
def nesting : Nat := 127

/-- A text that keeps the whole document, before its own white space. -/
def Retains (json : JsonText) (part : List UInt8) : Prop :=
  ∃ after : Spaces, part = JsonText.bytes { json with after := after }

theorem retains_self (json : JsonText) : Retains json json.bytes := ⟨json.after, rfl⟩

/-- The parser reads the two bodies as they are meant, also where the limit only takes white space
from them, and refuses their parts within the limit where these are no JSON texts. -/
structure ReadsBodies (serde : Serde) (number : List Char → Option Number) (body other : JsonText)
    (limit : Option Nat) : Prop where
  first : ∀ part ∈ [body.bytes, withinLimit body.bytes limit], Retains body part →
    serde.fromSlice part = body.doc.value number nesting
  second : ∀ part ∈ [other.bytes, withinLimit other.bytes limit], Retains other part →
    serde.fromSlice part = other.doc.value number nesting
  firstCut : (∀ json : JsonText, json.bytes ≠ withinLimit body.bytes limit) →
    serde.fromSlice (withinLimit body.bytes limit) = none
  secondCut : (∀ json : JsonText, json.bytes ≠ withinLimit other.bytes limit) →
    serde.fromSlice (withinLimit other.bytes limit) = none

namespace ReadsBodies
variable {serde : Serde} {number : List Char → Option Number} {body other : JsonText} {limit : Option Nat}

theorem first_whole (reads : ReadsBodies serde number body other limit) :
    serde.fromSlice body.bytes = body.doc.value number nesting :=
  reads.first _ (by simp) (retains_self body)

theorem second_whole (reads : ReadsBodies serde number body other limit) :
    serde.fromSlice other.bytes = other.doc.value number nesting :=
  reads.second _ (by simp) (retains_self other)

end ReadsBodies

/-- What the parser accepts of a body is shown as its redacted value, or not at all. -/
theorem redactBody_parsed {serde : SerdePretty} {bytes : List UInt8} {limit : Option Nat} {pretty : Bool} {value : Json}
    (parsed : serde.fromSlice (withinLimit bytes limit) = some value) :
    redactBody serde bytes applicationJson limit pretty =
      .ok (if bytes.isEmpty || limit == some 0 then none else print serde pretty (redactJsonValue value)) := by
  have plain : textContains applicationJson eventStream = false := by decide
  have json : textContains applicationJson applicationJson = true := by decide
  unfold redactBody
  simp only [plain, json, parsed, Bool.false_eq_true, if_false, if_true]
  cases bytes.isEmpty with
  | true => rfl
  | false => by_cases hidden : limit = some 0 <;> simp [hidden]

/-- Neither body loses more to the limit than white space behind it, and the parser accepts them;
or the cut comes before they differ. -/
def Spared (serde : Serde) (limit : Option Nat) (body other : JsonText) : Prop :=
  (Retains body (withinLimit body.bytes limit) ∧ Retains other (withinLimit other.bytes limit) ∧
    (serde.fromSlice body.bytes).isSome = true) ∨
  withinLimit body.bytes limit = withinLimit other.bytes limit

/-- Nothing of two documents that the parser accepts tells the twins apart. -/
theorem redactBody_retained {serde : SerdePretty} {number : List Char → Option Number} {body other : JsonText}
    {limit : Option Nat} {pretty : Bool} (twins : TwinBodies body other)
    (reads : ReadsBodies serde.toSerde number body other limit) (accepted : (serde.fromSlice body.bytes).isSome = true)
    (retained : Retains body (withinLimit body.bytes limit))
    (otherRetained : Retains other (withinLimit other.bytes limit)) :
    redactBody serde body.bytes applicationJson limit pretty =
      redactBody serde other.bytes applicationJson limit pretty := by
  obtain ⟨value, valued⟩ := Option.isSome_iff_exists.mp accepted
  rw [reads.first_whole] at valued
  have same := redactJsonValue_twins number nesting twins.doc
  rw [valued] at same
  obtain ⟨otherValue, otherValued, redacted⟩ := Option.map_eq_some_iff.mp same.symm
  have parsed := (reads.first _ (by simp) retained).trans valued
  have otherParsed := (reads.second _ (by simp) otherRetained).trans otherValued
  have emptiness : body.bytes.isEmpty = other.bytes.isEmpty := isEmpty_share (twinBodies_share twins) (by decide)
  rw [redactBody_parsed parsed, redactBody_parsed otherParsed, emptiness, redacted]

theorem redactBody_spared {serde : SerdePretty} {number : List Char → Option Number} {body other : JsonText}
    {limit : Option Nat} {pretty : Bool} (twins : TwinBodies body other)
    (reads : ReadsBodies serde.toSerde number body other limit) (spared : Spared serde.toSerde limit body other) :
    redactBody serde body.bytes applicationJson limit pretty =
      redactBody serde other.bytes applicationJson limit pretty := by
  rcases spared with ⟨retained, otherRetained, accepted⟩ | same
  · exact redactBody_retained twins reads accepted retained otherRetained
  · exact redactBody_congr (isEmpty_share (twinBodies_share twins) (by decide)) same

theorem spared_earlyCut {serde : Serde} {body other : JsonText} {limit : Nat} (twins : TwinBodies body other)
    (early : limit ≤ 11) : Spared serde (some limit) body other := by
  refine .inr ?_
  rw [withinLimit_some, withinLimit_some]
  exact take_share (twinBodies_share twins) early

/-! ### What the textual path shows -/

def letters (c : Char) (unescaped : isUnescaped c = true) (n : Nat) : Literal := List.replicate n (.plain c unescaped)

def secretKey : Literal :=
  [.plain 's' rfl, .plain 'e' rfl, .plain 'c' rfl, .plain 'r' rfl, .plain 'e' rfl, .plain 't' rfl]

def lastLetters : Literal := [.plain 'w' rfl, .plain 'x' rfl, .plain 'y' rfl, .plain 'z' rfl]

/-- An object with one secret, behind so many opening brackets. -/
def nested (value : Literal) : Nat → Doc
  | 0 => .object [] (.cons [] secretKey [] [] (.string value) [] .nil)
  | depth + 1 => .array [] (.cons [] (nested value depth) [] .nil)

def secretBody (c : Char) (unescaped : isUnescaped c = true) (n depth : Nat) : JsonText :=
  ⟨[], nested (letters c unescaped n ++ lastLetters) depth, []⟩

def secretStart : List Char := ['\x7b', '"', 's', 'e', 'c', 'r', 'e', 't', '"', ':', '"']

def secretEnd : List Char := ['w', 'x', 'y', 'z', '"', '\x7d']

theorem raw_letters (c : Char) (unescaped : isUnescaped c = true) (n : Nat) :
    (letters c unescaped n).raw = List.replicate n c := by
  induction n with
  | zero => rfl
  | succ n ih =>
    rw [Literal.raw, letters, List.replicate_succ, List.flatMap_cons, List.replicate_succ]
    exact congrArg (c :: ·) ih

theorem value_letters (c : Char) (unescaped : isUnescaped c = true) (n : Nat) :
    Literal.value (letters c unescaped n ++ lastLetters) = List.replicate n c ++ "wxyz".toList := by
  rw [Literal.value, List.map_append, letters, List.map_replicate]
  rfl

theorem nested_text (c : Char) (unescaped : isUnescaped c = true) (n depth : Nat) :
    (nested (letters c unescaped n ++ lastLetters) depth).text =
      List.replicate depth '[' ++ (secretStart ++ (List.replicate n c ++ (secretEnd ++ List.replicate depth ']'))) := by
  induction depth with
  | zero =>
    have raw : Literal.raw (letters c unescaped n ++ lastLetters) = List.replicate n c ++ ['w', 'x', 'y', 'z'] := by
      have split : Literal.raw (letters c unescaped n ++ lastLetters) =
          (letters c unescaped n).raw ++ lastLetters.raw := List.flatMap_append
      rw [split, raw_letters]
      rfl
    have key : secretKey.raw = ['s', 'e', 'c', 'r', 'e', 't'] := rfl
    simp only [nested, Doc.text, Members.text, Literal.text, raw, key, comma, Spaces.text, secretStart, secretEnd,
      List.map_nil, if_true, List.nil_append, List.append_nil, List.cons_append, List.append_assoc, List.replicate_zero]
  | succ depth ih =>
    have wrapped : (nested (letters c unescaped n ++ lastLetters) (depth + 1)).text =
        '[' :: ((nested (letters c unescaped n ++ lastLetters) depth).text ++ [']']) := by
      simp [nested, Doc.text, Items.text, comma, Spaces.text]
    rw [wrapped, ih, List.replicate_succ, List.replicate_succ']
    simp only [List.append_assoc, List.cons_append]

theorem sameMask_letters {c d : Char} (n : Nat) (visible : isWhitespace c = false) (visible' : isWhitespace d = false) :
    SameMask (List.replicate n c ++ "wxyz".toList) (List.replicate n d ++ "wxyz".toList) := by
  have trimmed : ∀ c, isWhitespace c = false →
      trim (List.replicate n c ++ "wxyz".toList) = List.replicate n c ++ "wxyz".toList := by
    intro c visible
    apply trim_visible
    intro e member
    rcases List.mem_append.mp member with repeated | last
    · rw [List.eq_of_mem_replicate repeated]
      exact visible
    · have plain : "wxyz".toList.all (fun c => !isWhitespace c) = true := by decide
      exact (Bool.not_eq_true' _).mp (List.all_eq_true.mp plain e last)
  refine ⟨by rw [trimmed c visible, trimmed d visible']; simp, ?_⟩
  have four : "wxyz".toList.reverse.length = 4 := by decide
  rw [lastFour, lastFour, trimmed c visible, trimmed d visible', List.reverse_append, List.reverse_append,
    List.take_left' four, List.take_left' four]

theorem nested_twins {value other : Literal} (same : SameMask value.value other.value) (depth : Nat) :
    Doc.Twins isSensitiveKey SameMask (nested value depth) (nested other depth) := by
  induction depth with
  | zero => exact .object (.secret (by decide) same .nil)
  | succ depth ih => exact .array (.cons ih .nil)

theorem maskTokens_plain {text : List Char} (noBlank : ' ' ∉ text) (noEquals : '=' ∉ text) :
    maskTokens text = .ok text := by
  have absent : ∀ (marker : Marker) token c, c ∈ marker.text → c ∉ text → maskAfter marker token text = .ok text :=
    fun marker token c inside outside =>
      maskAfter_none (breakAt_eq_none fun found => outside (found.subset inside))
  have keys : ∀ key, maskKeyValue text key = .ok text := fun key =>
    absent (keyMarker key) upToSeparator '=' (List.mem_append_right _ List.mem_cons_self) noEquals
  rw [maskTokens, maskBearerTokens, absent bearerMarker firstWord ' ' (by decide) noBlank]
  simp only [bind, Except.bind, keys]

theorem redactBody_unparsed {serde : SerdePretty} {bytes : List UInt8} {text : List Char} {limit : Option Nat}
    {pretty : Bool} (nonempty : bytes.isEmpty = false) (visible : limit ≠ some 0)
    (part : withinLimit bytes limit = utf8 text) (refused : serde.fromSlice (utf8 text) = none) :
    redactBody serde bytes applicationJson limit pretty = (maskTokens text).map some := by
  have plain : textContains applicationJson eventStream = false := by decide
  have json : textContains applicationJson applicationJson = true := by decide
  unfold redactBody
  simp only [plain, json, part, refused, nonempty, visible, Bool.false_eq_true, if_false, if_true, fromUtf8Lossy_utf8]

def serdeOf (number : List Char → Option Number) (body other : JsonText) : SerdePretty where
  fromSlice bytes :=
    if bytes = body.bytes then body.doc.value number nesting
    else if bytes = other.bytes then other.doc.value number nesting
    else none
  toVec _ := none
  toStringPretty _ := none

/-- A body that ends with its document is retained only whole. -/
theorem withinLimit_retained {json : JsonText} {limit : Option Nat} (bare : json.after = [])
    (retained : Retains json (withinLimit json.bytes limit)) : withinLimit json.bytes limit = json.bytes := by
  obtain ⟨after, part⟩ := retained
  have long : json.bytes.length ≤ (withinLimit json.bytes limit).length := by
    rw [part, JsonText.bytes, JsonText.bytes, length_utf8, length_utf8]
    simp only [JsonText.text, bare, byteLen_append, Spaces.text, List.map_nil, byteLen_nil]
    omega
  cases limit with
  | none => rfl
  | some limit =>
    rw [withinLimit_some, List.length_take] at long
    rw [withinLimit_some]
    exact List.take_of_length_le (by omega)

theorem serdeOf_reads (number : List Char → Option Number) {body other : JsonText} (different : other.bytes ≠ body.bytes)
    (limit : Option Nat) (bare : body.after = []) (otherBare : other.after = []) :
    ReadsBodies (serdeOf number body other).toSerde number body other limit where
  first part member retained := by
    have whole : part = body.bytes := by
      rcases List.mem_pair.mp member with rfl | rfl
      · rfl
      · exact withinLimit_retained bare retained
    exact if_pos whole
  second part member retained := by
    have whole : part = other.bytes := by
      rcases List.mem_pair.mp member with rfl | rfl
      · rfl
      · exact withinLimit_retained otherBare retained
    subst whole
    exact (if_neg different).trans (if_pos rfl)
  firstCut noText := (if_neg fun same => noText body same.symm).trans (if_neg fun same => noText other same.symm)
  secondCut noText := (if_neg fun same => noText body same.symm).trans (if_neg fun same => noText other same.symm)

theorem unescaped_a : isUnescaped 'a' = true := by decide

theorem unescaped_b : isUnescaped 'b' = true := by decide

abbrev bodyOfAs (n depth : Nat) : JsonText := secretBody 'a' unescaped_a n depth

abbrev bodyOfBs (n depth : Nat) : JsonText := secretBody 'b' unescaped_b n depth

theorem twinBodies_letters (n depth : Nat) : TwinBodies (bodyOfAs n depth) (bodyOfBs n depth) := by
  refine ⟨rfl, nested_twins ?_ depth, rfl⟩
  rw [value_letters, value_letters]
  exact sameMask_letters n (by decide) (by decide)

theorem secretBody_text (c : Char) (unescaped : isUnescaped c = true) (n depth : Nat) :
    (secretBody c unescaped n depth).text =
      List.replicate depth '[' ++ (secretStart ++ (List.replicate n c ++ (secretEnd ++ List.replicate depth ']'))) := by
  rw [JsonText.text, secretBody, nested_text]
  simp [Spaces.text]

theorem secretBody_nonempty (c : Char) (unescaped : isUnescaped c = true) (n depth : Nat) :
    (secretBody c unescaped n depth).bytes.isEmpty = false := by
  have long : 0 < byteLen (secretBody c unescaped n depth).text := by
    have brace : byteLen secretStart = 11 := by decide
    simp only [secretBody_text, byteLen_append, brace]
    omega
  rw [JsonText.bytes, List.isEmpty_eq_false_iff, ← List.length_pos_iff, length_utf8]
  exact long

theorem replicate_ne (start : List Char) (n : Nat) (rest tail : List Char) :
    start ++ (List.replicate (n + 1) 'a' ++ rest) ≠ start ++ (List.replicate (n + 1) 'b' ++ tail) := by
  intro same
  rw [List.append_right_inj, List.replicate_succ, List.replicate_succ, List.cons_append, List.cons_append] at same
  exact absurd (List.cons.inj same).1 (by decide)

theorem letters_bytes_ne (n depth : Nat) : (bodyOfBs (n + 1) depth).bytes ≠ (bodyOfAs (n + 1) depth).bytes := by
  intro same
  have texts : (bodyOfBs (n + 1) depth).text = (bodyOfAs (n + 1) depth).text := utf8_injective same
  rw [secretBody_text, secretBody_text, List.append_right_inj] at texts
  exact replicate_ne secretStart n _ _ texts.symm

def cutText (c : Char) (limit : Nat) : List Char := secretStart ++ List.replicate (limit - 11) c

theorem withinLimit_flat {c : Char} (unescaped : isUnescaped c = true) (narrow : c.utf8Size = 1) {limit : Nat}
    (late : 11 < limit) : withinLimit (secretBody c unescaped limit 0).bytes (some limit) = utf8 (cutText c limit) := by
  have split : (secretBody c unescaped limit 0).text = cutText c limit ++ (List.replicate 11 c ++ secretEnd) := by
    have repeated : List.replicate limit c = List.replicate (limit - 11) c ++ List.replicate 11 c := by
      rw [List.replicate_append_replicate, Nat.sub_add_cancel (Nat.le_of_lt late)]
    rw [secretBody_text, repeated, cutText]
    simp
  have length : (utf8 (cutText c limit)).length = limit := by
    have brace : byteLen secretStart = 11 := by decide
    rw [length_utf8, cutText, byteLen_append, byteLen_replicate, brace, narrow]
    omega
  rw [withinLimit_some, JsonText.bytes, split, utf8, List.flatMap_append]
  exact List.take_left' length

theorem cutText_masked (c : Char) (limit : Nat) (visible : c ≠ ' ' ∧ c ≠ '=') :
    maskTokens (cutText c limit) = .ok (cutText c limit) := by
  have outside : ∀ d, d ∉ secretStart → c ≠ d → d ∉ cutText c limit := by
    intro d start different member
    rcases List.mem_append.mp member with inside | repeated
    · exact start inside
    · exact different (List.eq_of_mem_replicate repeated).symm
  exact maskTokens_plain (outside ' ' (by decide) visible.1) (outside '=' (by decide) visible.2)

theorem redactBody_flat {number : List Char → Option Number} {limit : Nat} {pretty : Bool} (late : 11 < limit) {c : Char}
    (unescaped : isUnescaped c = true) (narrow : c.utf8Size = 1) (visible : c ≠ ' ' ∧ c ≠ '=') :
    redactBody (serdeOf number (bodyOfAs limit 0) (bodyOfBs limit 0)) (secretBody c unescaped limit 0).bytes
      applicationJson (some limit) pretty = .ok (some (cutText c limit)) := by
  have shorter : ∀ d (plain : isUnescaped d = true), utf8 (cutText c limit) ≠ (secretBody d plain limit 0).bytes := by
    intro d plain same
    have texts := congrArg List.length (utf8_injective same)
    have brace : secretStart.length = 11 := by decide
    have close : secretEnd.length = 6 := by decide
    rw [secretBody_text, cutText] at texts
    simp only [List.length_append, List.length_replicate, brace, close] at texts
    omega
  have refused : (serdeOf number (bodyOfAs limit 0) (bodyOfBs limit 0)).fromSlice (utf8 (cutText c limit)) = none :=
    (if_neg (shorter 'a' unescaped_a)).trans (if_neg (shorter 'b' unescaped_b))
  rw [redactBody_unparsed (secretBody_nonempty c unescaped limit 0) (fun none_ => by cases none_; omega)
    (withinLimit_flat unescaped narrow late) refused, cutText_masked c limit visible]
  rfl

/-- Past byte 11 a secret can be cut, and then it is shown. -/
theorem cut_shows_secret (number : List Char → Option Number) (pretty : Bool) {limit : Nat} (late : 11 < limit) :
    ∃ serde body other, TwinBodies body other ∧ ReadsBodies serde.toSerde number body other (some limit) ∧
      (serde.fromSlice body.bytes).isSome = true ∧
        redactBody serde body.bytes applicationJson (some limit) pretty ≠
          redactBody serde other.bytes applicationJson (some limit) pretty := by
  obtain ⟨n, rfl⟩ : ∃ n, limit = n + 11 + 1 := ⟨limit - 12, by omega⟩
  have reads := serdeOf_reads number (letters_bytes_ne (n + 11) 0) (some (n + 11 + 1)) rfl rfl
  refine ⟨serdeOf number (bodyOfAs _ 0) (bodyOfBs _ 0), bodyOfAs _ 0, bodyOfBs _ 0, twinBodies_letters _ 0, reads, ?_, ?_⟩
  · rw [reads.first_whole]
    rfl
  · rw [redactBody_flat late unescaped_a (by decide) (by decide), redactBody_flat late unescaped_b (by decide) (by decide)]
    intro same
    have texts := Option.some.inj (Except.ok.inj same)
    have repeats : n + 11 + 1 - 11 = n + 1 := by omega
    rw [cutText, cutText, repeats] at texts
    exact replicate_ne secretStart n [] [] (by rwa [List.append_nil, List.append_nil])

theorem nested_unread (number : List Char → Option Number) (value : Literal) {depth levels : Nat} (deep : levels < depth) :
    (nested value depth).value number levels = none := by
  induction depth generalizing levels with
  | zero => exact absurd deep (Nat.not_lt_zero _)
  | succ depth ih =>
    rw [nested, Doc.value]
    split
    · rfl
    · rename_i some_
      rw [Items.values, ih (by omega)]
      rfl

/-- A body that is nested too deep for the parser shows its secret, whole as it is. -/
theorem deep_shows_secret (number : List Char → Option Number) (pretty : Bool) :
    ∃ serde body other, TwinBodies body other ∧ ReadsBodies serde.toSerde number body other none ∧
      redactBody serde body.bytes applicationJson none pretty ≠
        redactBody serde other.bytes applicationJson none pretty := by
  have reads := serdeOf_reads number (letters_bytes_ne 0 128) none rfl rfl
  refine ⟨serdeOf number (bodyOfAs 1 128) (bodyOfBs 1 128), bodyOfAs 1 128, bodyOfBs 1 128, twinBodies_letters 1 128,
    reads, ?_⟩
  have outside : ∀ c (unescaped : isUnescaped c = true) d, d ∉ secretStart ++ secretEnd → c ≠ d → '[' ≠ d → ']' ≠ d →
      d ∉ (secretBody c unescaped 1 128).text := by
    intro c unescaped d ends different opening closing member
    rw [secretBody_text] at member
    simp only [List.mem_append, List.mem_replicate] at member ends
    rcases member with ⟨_, same⟩ | start | ⟨_, same⟩ | last | ⟨_, same⟩
    · exact opening same.symm
    · exact ends (.inl start)
    · exact different same.symm
    · exact ends (.inr last)
    · exact closing same.symm
  have masked : ∀ c (unescaped : isUnescaped c = true), c ≠ ' ' → c ≠ '=' →
      maskTokens (secretBody c unescaped 1 128).text = .ok (secretBody c unescaped 1 128).text :=
    fun c unescaped noBlank noEquals => maskTokens_plain
      (outside c unescaped ' ' (by decide) noBlank (by decide) (by decide))
      (outside c unescaped '=' (by decide) noEquals (by decide) (by decide))
  rw [redactBody_unparsed (secretBody_nonempty 'a' unescaped_a 1 128) (by decide) rfl
      (reads.first_whole.trans (nested_unread number _ (by decide))),
    redactBody_unparsed (secretBody_nonempty 'b' unescaped_b 1 128) (by decide) rfl
      (reads.second_whole.trans (nested_unread number _ (by decide))),
    masked 'a' unescaped_a (by decide) (by decide), masked 'b' unescaped_b (by decide) (by decide)]
  intro same
  have texts := Option.some.inj (Except.ok.inj same)
  exact letters_bytes_ne 0 128 (congrArg utf8 texts.symm)

/-! ### The secrets of a redacted value -/

mutual

/-- The values under sensitive keys, at any depth. -/
def secretsOf : Json → List Json
  | .object fields => secretsOfFields fields
  | .array items => secretsOfItems items
  | _ => []

def secretsOfItems : List Json → List Json
  | [] => []
  | item :: rest => secretsOf item ++ secretsOfItems rest

def secretsOfFields : List (String × Json) → List Json
  | [] => []
  | (key, value) :: rest => (if isSensitiveKey key then [value] else secretsOf value) ++ secretsOfFields rest

end

/-- Stars, and at most four characters. -/
def IsMask (value : Json) : Prop :=
  ∃ tail : List Char, tail.length ≤ 4 ∧ value = .string (String.ofList (redacted ++ tail))

theorem isMask_maskedValue (value : Json) : IsMask (maskedValue value) := by
  refine ⟨lastFour (value.asStr.getD "").toList, ?_, ?_⟩
  · rw [lastFour, List.length_reverse]
    exact List.length_take_le 4 _
  · rw [maskedValue, maskValue_eq]
    rfl

mutual

theorem redactJsonValue_masks : ∀ value, ∀ secret ∈ secretsOf (redactJsonValue value), IsMask secret
  | .null, _, member => nomatch member
  | .bool _, _, member => nomatch member
  | .number _, _, member => nomatch member
  | .string _, _, member => nomatch member
  | .array items, secret, member => redactItems_masks items secret member
  | .object fields, secret, member => redactFields_masks fields secret member

theorem redactItems_masks : ∀ items, ∀ secret ∈ secretsOfItems (redactItems items), IsMask secret
  | [], _, member => nomatch member
  | item :: rest, secret, member => by
    rw [redactItems, secretsOfItems] at member
    rcases List.mem_append.mp member with first | later
    · exact redactJsonValue_masks item secret first
    · exact redactItems_masks rest secret later

theorem redactFields_masks : ∀ fields, ∀ secret ∈ secretsOfFields (redactFields fields), IsMask secret
  | [], _, member => nomatch member
  | (key, value) :: rest, secret, member => by
    rw [redactFields, secretsOfFields] at member
    rcases List.mem_append.mp member with first | later
    · split at first
      · rw [List.mem_singleton.mp first]
        exact isMask_maskedValue value
      · exact redactJsonValue_masks value secret first
    · exact redactFields_masks rest secret later

end

/-! ### When previews do not tell secrets apart -/

/-- The previews of twin bodies that the parser reads right, and accepts if `accepted` says so. -/
def Noninterfering (number : List Char → Option Number) (accepted : Bool) (limit : Option Nat) (pretty : Bool) : Prop :=
  ∀ (serde : SerdePretty) (body other : JsonText), TwinBodies body other →
    ReadsBodies serde.toSerde number body other limit → (accepted = true → (serde.fromSlice body.bytes).isSome = true) →
      redactBody serde body.bytes applicationJson limit pretty = redactBody serde other.bytes applicationJson limit pretty

/-- Secrets do not show exactly when the cut, if there is one, comes before the first of them;
for bodies that the parser accepts, also when nothing is cut. Under any limit this spares the
pairs whose documents it does not touch, and the preview of what the parser accepts prints its
redacted value, in which every secret is a mask. -/
theorem previews_noninterfering_iff (number : List Char → Option Number) (limit : Option Nat) (pretty : Bool) :
    (Noninterfering number true limit pretty ↔ limit = none ∨ ∃ n ≤ 11, limit = some n) ∧
      (Noninterfering number false limit pretty ↔ ∃ n ≤ 11, limit = some n) ∧
        (∀ (serde : SerdePretty) body other, TwinBodies body other →
          ReadsBodies serde.toSerde number body other limit → Spared serde.toSerde limit body other →
            redactBody serde body.bytes applicationJson limit pretty =
              redactBody serde other.bytes applicationJson limit pretty) ∧
          ∀ (serde : SerdePretty) bytes value, serde.fromSlice (withinLimit bytes limit) = some value →
            redactBody serde bytes applicationJson limit pretty ∈
              [.ok none, .ok (print serde pretty (redactJsonValue value))] ∧
            ∀ secret ∈ secretsOf (redactJsonValue value), IsMask secret := by
  refine ⟨?_, ?_, fun serde body other => redactBody_spared, ?_⟩
  · constructor
    · intro noninterfering
      cases limit with
      | none => exact .inl rfl
      | some n =>
        refine .inr ⟨n, Nat.not_lt.mp fun late => ?_, rfl⟩
        obtain ⟨serde, body, other, twins, reads, accepted, differ⟩ := cut_shows_secret number pretty late
        exact differ (noninterfering serde body other twins reads fun _ => accepted)
    · intro early serde body other twins reads accepted
      refine redactBody_spared twins reads ?_
      rcases early with rfl | ⟨n, early, rfl⟩
      · exact .inl ⟨retains_self body, retains_self other, accepted rfl⟩
      · exact spared_earlyCut twins early
  · constructor
    · intro noninterfering
      cases limit with
      | none =>
        obtain ⟨serde, body, other, twins, reads, differ⟩ := deep_shows_secret number pretty
        exact absurd (noninterfering serde body other twins reads fun h => nomatch h) differ
      | some n =>
        refine ⟨n, Nat.not_lt.mp fun late => ?_, rfl⟩
        obtain ⟨serde, body, other, twins, reads, _, differ⟩ := cut_shows_secret number pretty late
        exact differ (noninterfering serde body other twins reads fun h => nomatch h)
    · intro early serde body other twins reads _
      obtain ⟨n, early, rfl⟩ := early
      exact redactBody_spared twins reads (spared_earlyCut twins early)
  · intro serde bytes value parsed
    refine ⟨?_, redactJsonValue_masks value⟩
    rw [redactBody_parsed parsed]
    cases bytes.isEmpty || limit == some 0 <;> simp

/-- A body of 29 bytes, previewed up to byte 16: the beginning of its secret is shown. -/
theorem cut_body_interferes : ¬ ∀ number limit pretty, Noninterfering number true limit pretty := by
  intro noninterfering
  obtain ⟨serde, body, other, twins, reads, accepted, differ⟩ :=
    cut_shows_secret (fun _ => none) false (show 11 < 16 by decide)
  exact differ (noninterfering (fun _ => none) (some 16) false serde body other twins reads fun _ => accepted)

end Anycode.Metrics
