import SqlSchema.Json.Decode
import SqlSchema.Text.Basic

/-!
# Pages of a query

The dialect has no clause for a window of rows. A query is wrapped in queries that
filter on the row number: once to keep the first rows, twice to skip some as well.
-/

namespace SqlSchema

structure Page where
  query : String
  limit : Option UInt64 := none
  offset : Option UInt64 := none

namespace Page

def isSelect (query : String) : Bool :=
  (Text.stripWord? "SELECT".toList (Text.skipBlanks query.toList)).isSome

/-- Whether a query names what it selects from: `FROM` occurs between blanks. -/
def hasFrom (query : String) : Bool := Text.hasWord "FROM".toList query.toList

/-- The query that is wrapped. One that selects from nothing selects from the table of
one row. -/
def inner (query : String) : String := if hasFrom query then query else query ++ " FROM dual"

def boundedAdd (a b : Nat) : Nat := min (a + b) (UInt64.size - 1)

def firstRows (inner : String) (max : Nat) : String :=
  "SELECT a.* FROM (" ++ inner ++ ") a WHERE ROWNUM <= " ++ toString max

def rowsBetween (inner : String) (min max : Nat) : String :=
  "SELECT * FROM (SELECT a.*, rownum AS doctrine_rownum FROM (" ++ inner ++
    ") a WHERE rownum <= " ++ toString max ++ ") WHERE doctrine_rownum >= " ++ toString min

/-- The text that selects the window. Without a positive limit, and when it is no query,
the text stays as it is. -/
def sql (p : Page) : String :=
  let limit := (p.limit.getD 0).toNat
  let offset := (p.offset.getD 0).toNat
  if limit = 0 ∨ isSelect p.query = false then p.query
  else if offset = 0 then firstRows (inner p.query) (boundedAdd offset limit)
  else rowsBetween (inner p.query) (boundedAdd offset 1) (boundedAdd offset limit)

def ofJson : Json.Decoder Page := fun v => do
  let fields ← Json.asRecord ["query", "limit", "offset"] v
  return {
    query := ← fields.required "query" Json.asText
    limit := ← fields.optional "limit" Json.asUInt64
    offset := ← fields.optional "offset" Json.asUInt64 }

def toJson (p : Page) : Json :=
  let number (n : Option UInt64) : Json := n.elim .null fun n => .int n.toNat
  .object [("query", .text p.query), ("limit", number p.limit), ("offset", number p.offset)]

end Page

end SqlSchema
