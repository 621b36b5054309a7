import Anycode.Data.JsonEscapes
import Anycode.Proxy.ModelCache

/-!
# Error answers of the model list

`error_response` writes its JSON with Rust's debug format of a string. That format has escapes
that JSON does not know: `\0`, and `\u{..}` for what is not printable or extends a grapheme.
-/

namespace Anycode.Proxy
open Config Data

/-- The tables of the standard library that `char::escape_debug` reads. -/
structure CharTables where
  isPrintable : Char → Bool
  isGraphemeExtended : Char → Bool
  controls : ∀ c : Char, c.toNat < 32 → isPrintable c = false

section
variable (tables : CharTables)

def escapeUnicode (c : Char) : List Char := '\\' :: 'u' :: '\x7b' :: (Nat.toDigits 16 c.toNat ++ ['\x7d'])

def escapeDebug (c : Char) : List Char :=
  if c = '\x00' then ['\\', '0']
  else if c = '\t' then ['\\', 't']
  else if c = '\r' then ['\\', 'r']
  else if c = '\n' then ['\\', 'n']
  else if c = '\\' then ['\\', '\\']
  else if c = '"' then ['\\', '"']
  else if tables.isGraphemeExtended c then escapeUnicode c
  else if tables.isPrintable c then [c]
  else escapeUnicode c

/-- `{:?}` of a string. -/
def debugText (message : List Char) : List Char := '"' :: (message.flatMap (escapeDebug tables) ++ ['"'])

structure ErrorResponse where
  status : Nat
  contentType : List Char
  body : List UInt8

def errorResponse (status : Nat) (message : String) : ErrorResponse where
  status := status
  contentType := "application/json".toList
  body := utf8 ("\x7b\"error\":\x7b\"message\":".toList ++ (debugText tables message.toList ++ ['\x7d', '\x7d']))

def errorMessage : BackendError → String
  | .backendNotFound backend => "Backend '" ++ backend ++ "' not found"
  | .noBackendsConfigured => "No backends configured"

/-- The error answer of `handle_list_models`, given the answers of the upstream. -/
def errorAnswer (s : ModelServer) (client : Client) : Option ErrorResponse :=
  match handleListModels s with
  | .noActiveBackend e => some (errorResponse tables 503 ("No active backend: " ++ errorMessage e))
  | .missingApiKey backend => some (errorResponse tables 503 ("Backend '" ++ backend ++ "' is missing an API key"))
  | .served _ _ => none
  | .fetching backend =>
    match fetchModels client backend s.now with
    | .ok _ => none
    | .error (status, message) => some (errorResponse tables status message)

/-- The body is JSON, and a parser with 128 levels of nesting reads the message from it. -/
def CarriesMessage (body : List UInt8) (message : String) : Prop :=
  ∃ json : JsonText, json.bytes = body ∧ ∀ number, ∃ value error, json.doc.value number 128 = some value ∧
    value.get "error" = some error ∧ error.strAt "message" = some message

/-- The debug format writes the character as JSON would. -/
def Spelled (c : Char) : Prop :=
  c ∈ ['\t', '\r', '\n', '\\', '"'] ∨ tables.isPrintable c = true ∧ tables.isGraphemeExtended c = false

variable {tables}

theorem nul_not_spelled : ¬ Spelled tables '\x00' := by
  rintro (listed | ⟨printable, _⟩)
  · revert listed
    decide
  · rw [tables.controls _ (by decide)] at printable
    cases printable

theorem escapeDebug_spelled {c : Char} (spelled : Spelled tables c) :
    ∃ written : StrChar, written.text = escapeDebug tables c ∧ written.char = c := by
  by_cases nul : c = '\x00'
  · exact absurd (nul ▸ spelled) nul_not_spelled
  rw [escapeDebug, if_neg nul]
  by_cases tab : c = '\t'
  · exact ⟨.escaped ['\\', 't'] '\t' rfl, (if_pos tab).symm, tab.symm⟩
  rw [if_neg tab]
  by_cases cr : c = '\r'
  · exact ⟨.escaped ['\\', 'r'] '\r' rfl, (if_pos cr).symm, cr.symm⟩
  rw [if_neg cr]
  by_cases lf : c = '\n'
  · exact ⟨.escaped ['\\', 'n'] '\n' rfl, (if_pos lf).symm, lf.symm⟩
  rw [if_neg lf]
  by_cases backslash : c = '\\'
  · exact ⟨.escaped ['\\', '\\'] '\\' rfl, (if_pos backslash).symm, backslash.symm⟩
  rw [if_neg backslash]
  by_cases quote : c = '"'
  · exact ⟨.escaped ['\\', '"'] '"' rfl, (if_pos quote).symm, quote.symm⟩
  rw [if_neg quote]
  rcases spelled with listed | ⟨printable, single⟩
  · simp only [List.mem_cons, tab, cr, lf, backslash, quote, List.not_mem_nil, or_self] at listed
  · have visible : 32 ≤ c.toNat := by
      by_contra low
      rw [tables.controls c (by omega)] at printable
      cases printable
    have unescaped : isUnescaped c = true := by simp [isUnescaped, visible, quote, backslash]
    exact ⟨.plain c unescaped, by simp [single, printable, StrChar.text], rfl⟩

theorem scanText_escapeUnicode (c : Char) (rest : List Char) : scanText .inside (escapeUnicode c ++ rest) = none := rfl

theorem escapeDebug_not_spelled {c : Char} (unspelled : ¬ Spelled tables c) (rest : List Char) :
    scanText .inside (escapeDebug tables c ++ rest) = none := by
  rw [Spelled, not_or] at unspelled
  obtain ⟨unlisted, hidden⟩ := unspelled
  simp only [List.mem_cons, List.not_mem_nil, or_false, not_or] at unlisted
  obtain ⟨tab, cr, lf, backslash, quote⟩ := unlisted
  rw [escapeDebug]
  by_cases nul : c = '\x00'
  · rw [if_pos nul]
    rfl
  · rw [if_neg nul, if_neg tab, if_neg cr, if_neg lf, if_neg backslash, if_neg quote]
    split
    · exact scanText_escapeUnicode c rest
    · rename_i single
      split
      · rename_i printable
        exact absurd ⟨printable, Bool.eq_false_iff.mpr single⟩ hidden
      · exact scanText_escapeUnicode c rest

theorem spelled_of_scanText {message rest : List Char}
    (passes : scanText .inside (message.flatMap (escapeDebug tables) ++ rest) ≠ none) :
    ∀ c ∈ message, Spelled tables c := by
  induction message with
  | nil => exact List.forall_mem_nil _
  | cons c message ih =>
    rw [List.flatMap_cons, List.append_assoc] at passes
    have spelled : Spelled tables c := by
      by_contra unspelled
      exact passes (escapeDebug_not_spelled unspelled _)
    obtain ⟨written, text, _⟩ := escapeDebug_spelled spelled
    rw [← text, scanText_append, written.scan_text, Option.bind_some] at passes
    exact List.forall_mem_cons.mpr ⟨spelled, ih passes⟩

theorem exists_literal {message : List Char} (spelled : ∀ c ∈ message, Spelled tables c) :
    ∃ literal : Literal, literal.raw = message.flatMap (escapeDebug tables) ∧ literal.value = message := by
  induction message with
  | nil => exact ⟨[], rfl, rfl⟩
  | cons c message ih =>
    obtain ⟨head, later⟩ := List.forall_mem_cons.mp spelled
    obtain ⟨written, text, char⟩ := escapeDebug_spelled head
    obtain ⟨literal, raw, value⟩ := ih later
    refine ⟨written :: literal, ?_, ?_⟩
    · rw [Literal.raw, List.flatMap_cons, text, ← Literal.raw, raw, List.flatMap_cons]
    · rw [Literal.value, List.map_cons, char, ← Literal.value, value]

def plainKey (text : List Char) (unescaped : text.all isUnescaped = true) : Literal :=
  text.pmap StrChar.plain (List.all_eq_true.mp unescaped)

def errorKey : Literal := plainKey ['e', 'r', 'r', 'o', 'r'] rfl

def messageKey : Literal := plainKey ['m', 'e', 's', 's', 'a', 'g', 'e'] rfl

/-- `{"error":{"message":..}}` -/
def errorDoc (message : Literal) : JsonText where
  before := []
  doc := .object [] (.cons [] errorKey [] []
    (.object [] (.cons [] messageKey [] [] (.string message) [] .nil)) [] .nil)
  after := []

theorem errorDoc_text (message : Literal) :
    (errorDoc message).text =
      "\x7b\"error\":\x7b\"message\":".toList ++ ('"' :: (message.raw ++ ['"']) ++ ['\x7d', '\x7d']) := by
  simp [errorDoc, errorKey, messageKey, plainKey, JsonText.text, Doc.text, Members.text, comma, Spaces.text, Literal.text,
    Literal.raw, StrChar.text]

theorem errorResponse_carries_iff {status : Nat} {message : String} :
    CarriesMessage (errorResponse tables status message).body message ↔ ∀ c ∈ message.toList, Spelled tables c := by
  constructor
  · rintro ⟨json, body, _⟩
    have text := utf8_injective body
    have scanned := json.scan_text
    rw [text, scanText_append, show scanText .outside "\x7b\"error\":\x7b\"message\":".toList = some .outside from rfl,
      Option.bind_some, debugText, List.cons_append, scanText_cons, show scanChar .outside '"' = some .inside from rfl,
      Option.bind_some, List.append_assoc] at scanned
    exact spelled_of_scanText (by rw [scanned]; exact Option.some_ne_none _)
  · intro spelled
    obtain ⟨literal, raw, value⟩ := exists_literal spelled
    refine ⟨errorDoc literal, ?_, fun number => ⟨_, _, rfl, rfl, ?_⟩⟩
    · rw [JsonText.bytes, errorDoc_text, raw]
      rfl
    · change some (String.ofList literal.value) = some message
      rw [value, String.ofList_toList]

theorem errorAnswer_of_fetch {s : ModelServer} {client : Client} (backend : Backend) {status : Nat} {message : String}
    (asks : handleListModels s = .fetching backend) (failed : fetchModels client backend s.now = .error (status, message)) :
    errorAnswer tables s client = some (errorResponse tables status message) := by
  rw [errorAnswer, asks]
  dsimp only
  rw [failed]

theorem modelsError_carries_message_iff {s : ModelServer} {client : Client} (backend : Backend) {status : Nat}
    {message : String} (asks : handleListModels s = .fetching backend)
    (failed : fetchModels client backend s.now = .error (status, message)) :
    ∃ answer, errorAnswer tables s client = some answer ∧ answer.status = status ∧
      (CarriesMessage answer.body message ↔ ∀ c ∈ message.toList, Spelled tables c) :=
  ⟨_, errorAnswer_of_fetch backend asks failed, rfl, errorResponse_carries_iff⟩

end

/-- What the tables hold of ASCII. -/
def asciiTables : CharTables where
  isPrintable c := decide (32 ≤ c.toNat ∧ c.toNat ≤ 126)
  isGraphemeExtended _ := false
  controls c low := decide_eq_false fun printable => absurd printable.1 (by omega)

def deepseekServer : ModelServer := start ⟨"deepseek", configOf "sk-new", []⟩

def refusing (status : Nat) (body : List UInt8) : Client := .ok fun _ => .answered status none (.ok body)

theorem quoted_message_carried :
    ∃ answer, errorAnswer asciiTables deepseekServer (refusing 401 [0x22, 0x61, 0x22, 0x0A]) = some answer ∧
      answer.status = 401 ∧
        (CarriesMessage answer.body "\"a\"\n" ↔ ∀ c ∈ "\"a\"\n".toList, Spelled asciiTables c) :=
  modelsError_carries_message_iff (deepseek "sk-new") rfl rfl

/-- An upstream refuses with an escape character in its body. -/
theorem escape_not_carried :
    ∃ answer,
      fetchModels (refusing 500 [0x1B]) (deepseek "sk-new") deepseekServer.now = .error (500, "\x1b") ∧
        errorAnswer asciiTables deepseekServer (refusing 500 [0x1B]) = some answer ∧
          ¬ CarriesMessage answer.body "\x1b" := by
  refine ⟨_, rfl, errorAnswer_of_fetch (deepseek "sk-new") rfl rfl, fun carried => ?_⟩
  have spelled := errorResponse_carries_iff.mp carried '\x1b' (by decide)
  rcases spelled with listed | ⟨printable, _⟩
  · revert listed
    decide
  · rw [asciiTables.controls _ (by decide)] at printable
    cases printable

end Anycode.Proxy
