import SqlSchema.Decimal.Layout
import SqlSchema.Json.Decode
import SqlSchema.Sql.Quoted
import SqlSchema.Text.Basic

/-!
# Data

The values that go into statements as parameters and come back in rows, their SQL
literals and their JSON.
-/

namespace SqlSchema

inductive Datum
  | null
  | bool (b : Bool)
  | int (n : Int64)
  | float (x : Float)
  | text (s : String)
  | blob (bytes : List UInt8)

def int64Bounds : Int × Int := (Int64.minValue.toInt, Int64.maxValue.toInt)

namespace Datum

def hexDigits (b : UInt8) : List Char :=
  [b.toNat / 16, b.toNat % 16].map fun d => (Nat.digitChar d).toUpper

/-- The literal for a value inside a statement. A truth value is a number, bytes are
given in hexadecimal. -/
def literal : Datum → String
  | null => "NULL"
  | bool b => if b then "1" else "0"
  | int n => toString n.toInt
  | float x => Decimal.Layout.sql.render x
  | text s => Quoted.literal s
  | blob bytes => "HEXTORAW('" ++ String.ofList (bytes.flatMap hexDigits) ++ "')"

def isNull : Datum → Bool
  | null => true
  | _ => false

def asText? : Datum → Option String
  | text s => some s
  | _ => none

/-- The whole number that a float stands for, brought into the 64-bit range. -/
def wholeFloat? (x : Float) : Option Int64 :=
  match Decimal.Binary.ofFloat x with
  | .finite negative m e =>
    let r := Decimal.Fraction.scale ⟨m, 1⟩ 2 e
    if r.num % r.den = 0 then
      let n : Int := if negative then -(r.floor : Int) else r.floor
      some (.ofInt (max int64Bounds.1 (min n int64Bounds.2)))
    else none
  | _ => none

/-- The value read as a whole number. Text is read after trimming, since numbers also
arrive as text. -/
def asInt? : Datum → Option Int64
  | int n => some n
  | bool b => some (if b then 1 else 0)
  | text s =>
    (Text.integerWithin? int64Bounds.1 int64Bounds.2
      (Text.trimWhile Text.isBlank s.toList)).map Int64.ofInt
  | float x => wholeFloat? x
  | null => none
  | blob _ => none

/-- A truth value, a number, a text, bytes or null, by the kind of JSON value. A whole
number beyond 64 signed bits is a float. -/
def ofJson : Json.Decoder Datum
  | .null => .ok null
  | .bool b => .ok (bool b)
  | .int n =>
    if int64Bounds.1 ≤ n ∧ n ≤ int64Bounds.2 then .ok (int (.ofInt n))
    else (Json.asFloat (.int n)).map float
  | .float x => .ok (float x)
  | .text s => .ok (text s)
  | .array items => (Json.asListOf Json.asUInt8 (.array items)).map blob
  | _ => .error (.expected "an SQL value")

def toJson : Datum → Json
  | null => .null
  | bool b => .bool b
  | int n => .int n.toInt
  | float x => .float x
  | text s => .text s
  | blob bytes => .array (bytes.map fun b => .int b.toNat)

end Datum

end SqlSchema
