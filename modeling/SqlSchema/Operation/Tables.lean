import SqlSchema.Operation.Sequence

/-!
# Tables of a schema

Creating, altering and dropping tables together with their comments and sequences.
Tables are named without the table prefix, which is put in front here.
-/

namespace SqlSchema

/-! ## Comments -/

namespace Comment

def statements (t : Table) : Session (List Statement) := do
  return t.commentStatements (← Session.fullName t.name)

def applyEach (table : String) : List Statement → Session Unit
  | [] => pure ()
  | statement :: rest => do
    Session.note .detail "Applying comment" [("table", table), ("sql", statement.sql .standard)]
    Session.perform statement
    applyEach table rest

/-- Comments on a table and its columns. Gives the number of statements. -/
def apply (t : Table) : Session Nat := do
  let statements ← statements t
  applyEach t.name statements
  return statements.length

def onTable (table comment : String) : Session Unit := do
  Session.perform (.commentOnTable (← Session.fullName table) comment)

end Comment

/-! ## Tables -/

namespace Tables

/-- Creates a table, then its comments, then its sequence. The first statement rejected
ends it. -/
def create (t : Table) : Session Unit := do
  let fullName ← Session.fullName t.name
  Session.note .progress "Creating table"
    [("table", fullName), ("columns", toString t.columns.length)]
  Session.performAll { t with name := fullName }.statements
  let _ ← Comment.apply t
  let _ ← AutoIncrement.create t

/-- Alters a table: the columns and their comments, then the comment of the table. A
structural change is refused before anything runs. -/
def alter (a : Alteration) : Session Unit := do
  let fullName ← Session.fullName a.name
  let statements ← Session.ofDialect { a with name := fullName }.statements
  Session.note .progress "Altering table"
    [("table", fullName), ("statements", toString statements.length)]
  Session.performAll statements
  match a.comment with
  | some comment => Comment.onTable a.name comment
  | none => return ()

/-- Drops a table given by its full name, after the sequence behind its primary key. -/
def dropFullName (fullName : String) : Session Unit := do
  let _ ← AutoIncrement.dropFor fullName
  Session.note .progress "Dropping table" [("table", fullName)]
  Session.perform (.dropTable fullName)

def drop (table : String) : Session Unit := do
  dropFullName (← Session.fullName table)

def isThere (table : String) : Session Bool := do
  return !(← Session.ask (.tableExists (← Session.database) (← Session.fullName table))).isEmpty

def dropIfThere (table : String) : Session Bool := do
  if ← isThere table then
    drop table
    return true
  else
    Session.note .detail "Table absent, nothing to drop" [("table", table)]
    return false

def all : Session (List String) := do
  return Listing.texts "TABLE_NAME" (← Session.ask .tables)

def tryToDrop (fullName : String) : Session (Except Failure Unit) := do
  match ← Session.attempt (dropFullName fullName) with
  | .ok () => return .ok ()
  | .error e =>
    Session.note .warning "Failed to drop table" [("table", fullName), ("error", e.message)]
    return .error e

/-- Drops tables given by their full names, going on after failures. Gives the names of
those dropped and the failures of the others. -/
def dropEach : List String → Session (List String × List Failure)
  | [] => return ([], [])
  | table :: rest => do
    let result ← tryToDrop table
    let (dropped, failures) ← dropEach rest
    match result with
    | .ok () => return (table :: dropped, failures)
    | .error e => return (dropped, e :: failures)

/-- Drops every table of the schema, going on after failures, which are reported together
in the end. -/
def dropAll : Session (List String) := do
  let (dropped, failures) ← dropEach (← all)
  if failures.isEmpty then return dropped
  else Session.fail (.several failures)

def columnNames (table : String) : Session (List String) := do
  return Listing.columnNames
    (← Session.ask (.columnNames (← Session.database) (← Session.fullName table)))

def truncate (table : String) : Session Unit := do
  Session.perform (.truncateTable (← Session.fullName table))

end Tables

end SqlSchema
