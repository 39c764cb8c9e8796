import SqlSchema.Operation.Sequence
import SqlSchema.Time.Reading

/-!
# Ids of inserted rows

Running an insertion and finding the id of the new row, and preparing the rows of a
query for use. The id may be among the values that the insertion itself binds, so its text
is looked into.
-/

namespace SqlSchema

/-! ## Insertions in text -/

namespace Insertion

def upTo? (stop : Char) (s : List Char) : Option (List Char × List Char) :=
  match s.span (· ≠ stop) with
  | (before, _ :: after) => some (before, after)
  | _ => none

/-- The text between the parentheses after the table, when a text starts like an
insertion that names its columns. The table is whatever stands before the first
parenthesis, a blank and at least one more character. -/
def columnText? (sql : List Char) : Option (List Char) := do
  let s ← Text.stripWord? "INSERT".toList (Text.skipBlanks sql)
  let s ← Text.stripBlanks? s
  let s ← Text.stripWord? "INTO".toList s
  let (target, s) ← upTo? '(' s
  if (target.head?.any Text.isBlank && 2 ≤ target.length) = false then none
  let (columns, s) ← upTo? ')' s
  let _ ← Text.stripWord? "VALUES".toList (Text.skipBlanks s)
  some columns

def columnName (s : List Char) : String :=
  String.ofList (Text.trimWhile (· = '"') (Text.trimWhile Text.isBlank s))

def columns? (sql : String) : Option (List String) :=
  (columnText? sql.toList).map fun s => (Text.splitOn ',' s).map columnName

/-- The number bound to `column`: columns and values are matched by position, and the
first column of that name counts. -/
def explicitId? (sql : String) (values : List Datum) (column : String) : Option Int64 := do
  let names ← columns? sql
  let position ← names.findIdx? fun n => Text.sameIgnoringCase n column
  (← values[position]?).asInt?

end Insertion

/-! ## Timestamps in results -/

namespace Timestamps

def columns : List String := ["created_at", "updated_at", "deleted_at"]

def time? (row : Row) (column : String) : Option LocalTime :=
  (row.text? column).bind LocalTime.ofString?

/-- Reformats one column of a row. A value that is no timestamp stays as it is. There is
no result when the format asks for what a local time lacks. -/
def reformatColumn? (format : TimeFormat) (row : Row) (column : String) : Option Row :=
  match time? row column with
  | none => some row
  | some t => (format.render? t).map fun s => row.set column (.text s)

def reformatRow? (format : TimeFormat) (row : Row) : Option Row :=
  columns.foldlM (reformatColumn? format) row

def reformat? (format : TimeFormat) (rows : List Row) : Option (List Row) :=
  rows.mapM (reformatRow? format)

end Timestamps

/-! ## Ids -/

/-- Where the id of an inserted row is looked for: in the sequence only, or first among
the values that the insertion itself binds. -/
inductive InsertIdStrategy
  | sequenceOnly
  | valuesThenSequence
  deriving DecidableEq

namespace InsertId

def strategyOfJson : Json.Decoder InsertIdStrategy := fun v => do
  let (name, content) ← Json.asVariant v
  match name with
  | "sequence_only" => Json.carriesNothing .sequenceOnly content
  | "values_then_sequence" => Json.carriesNothing .valuesThenSequence content
  | _ => throw (.unknownVariant name)

def strategyToJson : InsertIdStrategy → Json
  | .sequenceOnly => .text "sequence_only"
  | .valuesThenSequence => .text "values_then_sequence"

def boundId? (strategy : InsertIdStrategy) (sql : String) (values : List Datum)
    (column : String) : Option Int64 :=
  match strategy with
  | .sequenceOnly => none
  | .valuesThenSequence => Insertion.explicitId? sql values column

/-- Runs an insertion into a table and gives the id of the new row in `column`, zero when
no column is named or its sequence is not there. -/
def insert (strategy : InsertIdStrategy) (table sql : String) (values : List Datum)
    (column : Option String) : Session Int64 := do
  Session.execute sql values
  match column with
  | none => return 0
  | some column =>
    match boundId? strategy sql values column with
    | some id =>
      Session.note .detail "Id supplied by the insert"
        [("table", table), ("column", column), ("id", toString id)]
      return id
    | none => Sequence.last (Name.ofSequence (← Session.fullName table) column)

def prepare (rows : List Row) : List Row := (Timestamps.reformat? .datetime rows).getD rows

end InsertId

end SqlSchema
