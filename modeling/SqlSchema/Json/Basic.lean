/-!
# JSON values

JSON as the library exchanges it. Whole numbers within 64 bits are kept apart from
floats, members keep their order and repetitions, and what is well formed but
has no value is kept as `unreadable`.
-/

namespace SqlSchema

/-- A JSON value. `unreadable` stands for well-formed text without a value: a number
beyond every float, or half of a surrogate pair. It may be skipped but not read. -/
inductive Json
  | null
  | bool (b : Bool)
  | int (n : Int)
  | float (x : Float)
  | text (s : String)
  | array (items : List Json)
  | object (members : List (String × Json))
  | unreadable

namespace Json

inductive Fault
  | malformed
  | expected (what : String)
  | missingField (name : String)
  | repeatedField (name : String)
  | unknownVariant (name : String)

def Fault.message : Fault → String
  | .malformed => "malformed JSON"
  | .expected what => "expected " ++ what
  | .missingField name => "missing field '" ++ name ++ "'"
  | .repeatedField name => "repeated field '" ++ name ++ "'"
  | .unknownVariant name => "unknown variant '" ++ name ++ "'"

def member? (name : String) : List (String × Json) → Option Json
  | [] => none
  | (n, v) :: r => if n = name then some v else member? name r

def ofText? : Option String → Json
  | none => null
  | some s => text s

end Json

end SqlSchema
