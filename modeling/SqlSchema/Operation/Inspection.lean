import SqlSchema.Session.Basic

/-!
# Inspection

What the catalog says about a schema, folded from rows into descriptions. Indexes and
foreign keys come one row per column and are gathered by name, in the order in which
the names first occur.
-/

namespace SqlSchema

structure ColumnInfo where
  name : String
  typeName : String
  type : Option ColumnType
  length : Option Int64
  nullable : Bool
  default : Option String
  comment : Option String

structure IndexInfo where
  name : String
  type : Option String
  unique : Bool
  primary : Bool
  columns : List String

structure ForeignKeyInfo where
  name : String
  localColumns : List String
  foreignTable : Option String
  foreignColumns : List String
  onDelete : Option String

structure SequenceInfo where
  name : String
  least : Option Int64
  step : Option Int64

structure ViewInfo where
  name : String
  query : String

/-- A constraint and the letter of its kind. -/
structure ConstraintInfo where
  name : String
  kind : String

namespace Inspection

/-! ## Rows to descriptions -/

def columnOf? (row : Row) : Option ColumnInfo := do
  let name ← row.text? "COLUMN_NAME"
  let typeName := (row.text? "DATA_TYPE").getD ""
  return {
    name, typeName
    type := ColumnType.ofCatalogName? typeName
    length := row.int? "DATA_LENGTH"
    nullable := row.text? "NULLABLE" ≠ some "N"
    default := (row.text? "DATA_DEFAULT").map Text.trim
    comment := row.text? "COMMENTS" }

def addToIndexes (row : Row) (name column : String) : List IndexInfo → List IndexInfo
  | [] => [{
      name
      type := row.text? "type"
      unique := row.int? "is_unique" = some 1
      primary := row.text? "is_primary" = some "P"
      columns := [column] }]
  | i :: r =>
    if i.name = name then { i with columns := i.columns ++ [column] } :: r
    else i :: addToIndexes row name column r

/-- Takes one row into the indexes gathered so far. A row without a name or a column is
passed over. -/
def gatherIndex (indexes : List IndexInfo) (row : Row) : List IndexInfo :=
  match row.text? "name", row.text? "column_name" with
  | some name, some column => addToIndexes row name column indexes
  | _, _ => indexes

def indexesOf (rows : List Row) : List IndexInfo := rows.foldl gatherIndex []

def withColumnsOf (row : Row) (k : ForeignKeyInfo) : ForeignKeyInfo :=
  { k with
    localColumns := k.localColumns ++ (row.text? "local_column").toList
    foreignColumns := k.foreignColumns ++ (row.text? "foreign_column").toList }

def addToForeignKeys (row : Row) (name : String) : List ForeignKeyInfo → List ForeignKeyInfo
  | [] => [withColumnsOf row {
      name
      localColumns := []
      foreignTable := row.text? "references_table"
      foreignColumns := []
      onDelete := row.text? "delete_rule" }]
  | k :: r =>
    if k.name = name then withColumnsOf row k :: r else k :: addToForeignKeys row name r

def gatherForeignKey (keys : List ForeignKeyInfo) (row : Row) : List ForeignKeyInfo :=
  match row.text? "constraint_name" with
  | some name => addToForeignKeys row name keys
  | none => keys

def position (row : Row) : Int := ((row.int? "position").getD 0).toInt

/-- The foreign keys that rows describe. The rows are taken by position, those of the same
position in their order. -/
def foreignKeysOf (rows : List Row) : List ForeignKeyInfo :=
  (rows.mergeSort fun a b => position a ≤ position b).foldl gatherForeignKey []

def constraintOf? (row : Row) : Option ConstraintInfo := do
  return ⟨← row.text? "CONSTRAINT_NAME", (row.text? "CONSTRAINT_TYPE").getD ""⟩

def sequenceOf? (row : Row) : Option SequenceInfo := do
  return ⟨← row.text? "sequence_name", row.int? "min_value", row.int? "increment_by"⟩

def viewOf? (row : Row) : Option ViewInfo := do
  return ⟨← row.text? "view_name", (row.text? "text").getD ""⟩

/-! ## Questions to the catalog -/

def columns (table : String) : Session (List ColumnInfo) := do
  let rows ← Session.ask (.columns (← Session.fullName table) (← Session.database))
  Session.note .detail "Read column metadata" [("table", table), ("rows", toString rows.length)]
  return rows.filterMap columnOf?

def indexes (table : String) : Session (List IndexInfo) := do
  return indexesOf (← Session.ask (.indexes (← Session.fullName table)))

def foreignKeys (table : String) : Session (List ForeignKeyInfo) := do
  return foreignKeysOf (← Session.ask (.foreignKeys (← Session.fullName table)))

def constraints (table : String) : Session (List ConstraintInfo) := do
  return (← Session.ask (.constraints (← Session.fullName table))).filterMap constraintOf?

def sequences : Session (List SequenceInfo) := do
  return (← Session.ask (.sequences (← Session.database))).filterMap sequenceOf?

def views : Session (List ViewInfo) := do
  return (← Session.ask .views).filterMap viewOf?

def databases : Session (List String) := do
  return Listing.texts "username" (← Session.ask .databases)

def databaseIsThere (name : String) : Session Bool := do
  return (← Session.askFirst (.databaseExists name)).isSome

end Inspection

end SqlSchema
