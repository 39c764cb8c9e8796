import SqlSchema.Session.Basic

/-!
# Sequences

Creating, dropping and reading the sequences of a schema. Nothing is remembered:
every question goes to the server. An empty name stands for no sequence.

The dialect has no columns that count by themselves. Such a column gets a sequence,
named after the table and the column, and takes its default from it. When the table
goes, the sequence is found again through the primary key.
-/

namespace SqlSchema

namespace Sequence

/-- Creates a sequence. Gives whether there was one to create. -/
def create (name : String) (first step : Int64) : Session Bool := do
  if name = "" then
    Session.note .detail "Empty sequence name, nothing to create" []
    return false
  Session.note .progress "Creating sequence"
    [("sequence", name), ("start", toString first), ("increment", toString step)]
  Session.perform (.createSequence name first step)
  return true

def isThere (name : String) : Session Bool := do
  return (← Session.askFirst (.sequenceExists (← Session.database) name)).isSome

def notThere (name : String) : Session Bool := do
  Session.note .detail "Sequence absent, nothing to drop" [("sequence", name)]
  return false

def drop (name : String) : Session Bool := do
  if name = "" then notThere name
  else if ← isThere name then
    Session.note .progress "Dropping sequence" [("sequence", name)]
    Session.perform (.dropSequence name)
    return true
  else notThere name

def read (name : String) (which : SequenceValue) : Session Int64 := do
  let sql ← Session.ofDialect ((Query.sequenceValue name which).checkedSql .standard)
  match (← Session.selectFirst sql).bind (·.int? "id") with
  | some n => return n
  | none => Session.fail (.unexpectedRow sql "id")

/-- Advances a sequence and gives the new value, zero for an empty name. -/
def next (name : String) : Session Int64 := do
  if name = "" then return 0
  read name .next

/-- The value that a sequence handed out last, zero for one that is not there. -/
def last (name : String) : Session Int64 := do
  if name = "" then return 0
  if ← isThere name then read name .current else return 0

end Sequence

/-! ## Columns that count -/

namespace AutoIncrement

/-- Creates the sequence of the column that counts and binds the column to it. Gives the
name of the sequence, if a column counts. -/
def create (t : Table) : Session (Option String) := do
  match t.autoIncrementColumn? with
  | none =>
    Session.note .detail "No auto-increment column" [("table", t.name)]
    return none
  | some c =>
    let table ← Session.fullName t.name
    let sequence := Name.ofSequence table c.name
    let first := c.autoIncrementStart.getD 1
    Session.note .progress "Creating auto-increment objects"
      [("table", table), ("column", c.name), ("sequence", sequence), ("start", toString first)]
    let _ ← Sequence.create sequence first 1
    Session.perform (.bindSequence table c.name sequence)
    return some sequence

/-- The column that a row of the primary key names: the text in `COLUMN_NAME`, else the
text in the first column, unless it is empty. -/
def keyColumn? (row : Row) : Option String :=
  ((row.text? "COLUMN_NAME") <|> (row.first?.bind Datum.asText?)).filter (· ≠ "")

def primaryKey (fullName : String) : Session (Option String) := do
  if fullName = "" then return none
  return (← Session.askFirst (.primaryKey (← Session.database) fullName)).bind keyColumn?

def dropFor (fullName : String) : Session (Option String) := do
  match ← primaryKey fullName with
  | none =>
    Session.note .detail "No primary key, nothing to drop" [("table", fullName)]
    return none
  | some column =>
    let sequence := Name.ofSequence fullName column
    if ← Sequence.drop sequence then
      Session.note .progress "Dropped auto-increment sequence"
        [("table", fullName), ("sequence", sequence)]
      return some sequence
    else return none

def drop (table : String) : Session (Option String) := do
  dropFor (← Session.fullName table)

end AutoIncrement

end SqlSchema
