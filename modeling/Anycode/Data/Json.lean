import Anycode.Data.Assoc

/-!
# JSON values

A dynamically typed JSON value with the reads and in-place updates that code over parsed
bodies uses. Objects keep their fields in key order, as an ordered map prints them; every
lookup finds the first field with the key.
-/

namespace Anycode.Data

/-- A number as the parser classified it; a float is kept as its bit pattern. -/
inductive Number where
  | posInt (n : UInt64)
  | negInt (n : Int64)
  | float (bits : UInt64)
  deriving DecidableEq

inductive Json where
  | null
  | bool (b : Bool)
  | number (n : Number)
  | string (s : String)
  | array (items : List Json)
  | object (fields : List (String × Json))

namespace Json

/-! ### Reads -/

def get (value : Json) (key : String) : Option Json :=
  match value with
  | object fields => Assoc.find key fields
  | _ => none

def asStr : Json → Option String
  | string s => some s
  | _ => none

def asBool : Json → Option Bool
  | bool b => some b
  | _ => none

def asU64 : Json → Option UInt64
  | number (.posInt n) => some n
  | _ => none

def asArray : Json → Option (List Json)
  | array items => some items
  | _ => none

def isObject : Json → Bool
  | object _ => true
  | _ => false

def strAt (value : Json) (key : String) : Option String := (value.get key).bind asStr

def arrayAt (value : Json) (key : String) : Option (List Json) := (value.get key).bind asArray

/-! ### Updates -/

def insert (value : Json) (key : String) (item : Json) : Json :=
  match value with
  | object fields => object (Assoc.insert key item fields)
  | value => value

def modify (value : Json) (key : String) (f : Json → Json) : Json :=
  match value with
  | object fields => object (Assoc.modify key f fields)
  | value => value

def erase (value : Json) (key : String) : Json :=
  match value with
  | object fields => object (Assoc.erase key fields)
  | value => value

theorem isObject_of_get {key : String} {value item : Json} (found : value.get key = some item) :
    value.isObject = true := by
  cases value <;> first | rfl | cases found

theorem get_insert_same {key : String} {item value : Json} (typed : value.isObject = true) :
    (value.insert key item).get key = some item := by
  cases value with
  | object fields => simp [insert, get, Assoc.find_insert]
  | _ => cases typed

@[simp] theorem get_insert_other {key other : String} (item value : Json) (different : other ≠ key) :
    (value.insert key item).get other = value.get other := by
  cases value <;> simp [insert, get, Assoc.find_insert, different]

@[simp] theorem get_modify_same (key : String) (f : Json → Json) (value : Json) :
    (value.modify key f).get key = (value.get key).map f := by
  cases value <;> simp [modify, get, Assoc.find_modify]

@[simp] theorem get_modify_other {key other : String} (f : Json → Json) (value : Json)
    (different : other ≠ key) : (value.modify key f).get other = value.get other := by
  cases value <;> simp [modify, get, Assoc.find_modify, different]

@[simp] theorem get_erase_same (key : String) (value : Json) : (value.erase key).get key = none := by
  cases value <;> simp [erase, get, Assoc.find_erase]

@[simp] theorem get_erase_other {key other : String} (value : Json) (different : other ≠ key) :
    (value.erase key).get other = value.get other := by
  cases value <;> simp [erase, get, Assoc.find_erase, different]

theorem modify_congr {key : String} {f g : Json → Json} {value : Json}
    (same : ∀ item, value.get key = some item → f item = g item) : value.modify key f = value.modify key g := by
  cases value with
  | object fields => simp only [modify, Assoc.modify_congr same]
  | _ => rfl

theorem modify_self {key : String} {f : Json → Json} {value : Json}
    (fixed : ∀ item, value.get key = some item → f item = item) : value.modify key f = value := by
  cases value with
  | object fields => simp only [modify, Assoc.modify_self fixed]
  | _ => rfl

theorem arrayAt_eq_some {key : String} {value : Json} {items : List Json} :
    value.arrayAt key = some items ↔ value.get key = some (array items) := by
  unfold arrayAt
  cases found : value.get key with
  | none => simp
  | some item => cases item <;> simp [asArray]

theorem arrayAt_eq_none {key : String} {value : Json} :
    value.arrayAt key = none ↔ ∀ items, value.get key ≠ some (array items) := by
  simp only [Option.eq_none_iff_forall_ne_some, ne_eq, arrayAt_eq_some]

theorem arrayAt_congr {key : String} {left right : Json} (same : left.get key = right.get key) :
    left.arrayAt key = right.arrayAt key := by
  rw [arrayAt, same, arrayAt]

theorem strAt_congr {key : String} {left right : Json} (same : left.get key = right.get key) :
    left.strAt key = right.strAt key := by
  rw [strAt, same, strAt]

end Json

/-! ### Text -/

/-- A parser and a printer of JSON text: `none` is a parse error or a failed print. -/
structure Serde where
  fromSlice : List UInt8 → Option Json
  toVec : Json → Option (List UInt8)

/-- The printer of indented text, next to the others. -/
structure SerdePretty extends Serde where
  toStringPretty : Json → Option (List Char)

/-- The value prints, and its text parses back to it. -/
def Serde.RoundTrips (serde : Serde) (value : Json) : Prop :=
  ∃ bytes, serde.toVec value = some bytes ∧ serde.fromSlice bytes = some value

/-- A serde that is known on two texts: it parses both and prints the second. -/
def Serde.ofTexts (first second : List UInt8 × Json) : Serde where
  fromSlice bytes :=
    if bytes = first.1 then some first.2 else if bytes = second.1 then some second.2 else none
  toVec _ := some second.1

theorem Serde.ofTexts_first (first second : List UInt8 × Json) :
    (ofTexts first second).fromSlice first.1 = some first.2 := if_pos rfl

theorem Serde.ofTexts_second {first second : List UInt8 × Json} (different : second.1 ≠ first.1) :
    (ofTexts first second).fromSlice second.1 = some second.2 := (if_neg different).trans (if_pos rfl)

theorem Serde.ofTexts_roundTrips {first second : List UInt8 × Json} (different : second.1 ≠ first.1) :
    (ofTexts first second).RoundTrips second.2 :=
  ⟨second.1, rfl, ofTexts_second different⟩

end Anycode.Data
