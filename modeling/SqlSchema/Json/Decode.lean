import SqlSchema.Json.Basic
import SqlSchema.Decimal.Rounding

/-!
# Typed JSON

Readers for the shapes that typed values take: numbers within a range, lists,
optional values, variants, and records. A record is an object whose unknown
members are ignored, or the array of its fields in order, which may stop early.
-/

namespace SqlSchema.Json

abbrev Decoder (α : Type) := Json → Except Fault α

def asText : Decoder String
  | .text s => .ok s
  | _ => .error (.expected "a string")

def asBool : Decoder Bool
  | .bool b => .ok b
  | _ => .error (.expected "a boolean")

def asIntWithin (low high : Int) : Decoder Int
  | .int n => if low ≤ n ∧ n ≤ high then .ok n else .error (.expected "a number in range")
  | _ => .error (.expected "a whole number")

def asInt64 : Decoder Int64 := fun v =>
  (asIntWithin Int64.minValue.toInt Int64.maxValue.toInt v).map Int64.ofInt

def asNatBelow (size : Nat) : Decoder Nat
  | .int n => if 0 ≤ n ∧ n < size then .ok n.toNat else .error (.expected "a number in range")
  | _ => .error (.expected "a whole number")

def asUInt64 : Decoder UInt64 := fun v => (asNatBelow UInt64.size v).map UInt64.ofNat

def asUInt32 : Decoder UInt32 := fun v => (asNatBelow UInt32.size v).map UInt32.ofNat

def asUInt16 : Decoder UInt16 := fun v => (asNatBelow UInt16.size v).map UInt16.ofNat

def asUInt8 : Decoder UInt8 := fun v => (asNatBelow UInt8.size v).map UInt8.ofNat

/-- Reads a float; a whole number is accepted. -/
def asFloat : Decoder Float
  | .float x => .ok x
  | .int n => .ok (Decimal.nearest (n < 0) n.natAbs 0)
  | _ => .error (.expected "a number")

def asListOf {α : Type} (item : Decoder α) : Decoder (List α)
  | .array items => items.mapM item
  | _ => .error (.expected "an array")

def asOptional {α : Type} (item : Decoder α) : Decoder (Option α)
  | .null => .ok none
  | v => (item v).map some

def asTextPair : Decoder (String × String)
  | .array [.text a, .text b] => .ok (a, b)
  | _ => .error (.expected "an array of two strings")

/-! ## Variants -/

/-- Reads the name of a variant and what it carries: a bare name, or an object with the
name as its only member. -/
def asVariant : Decoder (String × Option Json)
  | .text name => .ok (name, none)
  | .object [(name, v)] => .ok (name, some v)
  | _ => .error (.expected "a variant")

def carriesNothing {α : Type} (a : α) : Option Json → Except Fault α
  | none => .ok a
  | some .null => .ok a
  | some _ => .error (.expected "null")

def carries {α : Type} (item : Decoder α) : Option Json → Except Fault α
  | none => .error (.expected "a variant with a value")
  | some v => item v

/-! ## Records -/

/-- What a record gives for a field. An object leaves a field `absent`, an array that
stops early leaves it `cut`. -/
inductive Slot
  | given (v : Json)
  | absent
  | cut

abbrev Fields := String → Slot

def occurrences (name : String) (members : List (String × Json)) : Nat :=
  members.countP fun m => m.1 = name

def asRecord (names : List String) : Decoder Fields
  | .object members =>
    match names.find? fun n => 1 < occurrences n members with
    | some n => .error (.repeatedField n)
    | none => .ok fun n => (member? n members).elim .absent .given
  | .array items =>
    if names.length < items.length then .error (.expected "no more fields")
    else .ok fun n => (items[names.idxOf n]?).elim .cut .given
  | _ => .error (.expected "a record")

def Fields.required {α : Type} (fields : Fields) (name : String) (item : Decoder α) :
    Except Fault α :=
  match fields name with
  | .given v => item v
  | _ => .error (.missingField name)

def Fields.defaulting {α : Type} (fields : Fields) (name : String) (item : Decoder α)
    (default : α) : Except Fault α :=
  match fields name with
  | .given v => item v
  | _ => .ok default

/-- An optional field that an object may leave out and an array may not. -/
def Fields.optional {α : Type} (fields : Fields) (name : String) (item : Decoder α) :
    Except Fault (Option α) :=
  match fields name with
  | .given v => asOptional item v
  | .absent => .ok none
  | .cut => .error (.missingField name)

end SqlSchema.Json
