import SqlSchema.Json.Basic
import SqlSchema.Decimal.Layout

/-!
# Writing JSON text

The compact form: no blanks, members in order, and in strings only what must be
escaped.
-/

namespace SqlSchema.Json

/-- The escape of one character of a string: a short one where there is one, the code
point for other control characters, none otherwise. -/
def escapeChar (c : Char) : List Char :=
  match c with
  | '"' => ['\\', '"']
  | '\\' => ['\\', '\\']
  | '\x08' => ['\\', 'b']
  | '\x0c' => ['\\', 'f']
  | '\n' => ['\\', 'n']
  | '\r' => ['\\', 'r']
  | '\t' => ['\\', 't']
  | c =>
    if c.toNat < 0x20 then
      ['\\', 'u', '0', '0', Nat.digitChar (c.toNat / 16), Nat.digitChar (c.toNat % 16)]
    else [c]

def quoted (s : String) : List Char := '"' :: s.toList.flatMap escapeChar ++ ['"']

mutual

/-- The characters of a value. What has no value is written as `null`. -/
def write : Json → List Char
  | .null => "null".toList
  | .bool b => (if b then "true" else "false").toList
  | .int n => (toString n).toList
  | .float x => (Decimal.Layout.json.render x).toList
  | .text s => quoted s
  | .array items => '[' :: writeItems items ++ [']']
  | .object members => '{' :: writeMembers members ++ ['}']
  | .unreadable => "null".toList

def writeItems : List Json → List Char
  | [] => []
  | [v] => write v
  | v :: r => write v ++ ',' :: writeItems r

def writeMembers : List (String × Json) → List Char
  | [] => []
  | [(n, v)] => quoted n ++ ':' :: write v
  | (n, v) :: r => quoted n ++ ':' :: write v ++ ',' :: writeMembers r

end

def render (v : Json) : String := String.ofList (write v)

end SqlSchema.Json
