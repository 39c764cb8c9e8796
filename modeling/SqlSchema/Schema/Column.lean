import SqlSchema.Text.Basic

/-!
# Columns

Column types, defaults and definitions, and the edits by which a definition is built
up.
-/

namespace SqlSchema

inductive ColumnType
  | integer
  | bigInt
  | smallInt
  | boolean
  | varchar (length : Option UInt32)
  | char (length : Option UInt32)
  | clob
  | blob
  | date
  | time
  | timestamp
  | timestampTz
  deriving DecidableEq

/-- The type behind a type name of the catalog, in any case. -/
def ColumnType.ofCatalogName? (name : String) : Option ColumnType :=
  let n := Text.asciiLower (Text.trim name)
  if n ∈ ["integer", "int", "number", "smallint", "tinyint"] then some .integer
  else if n = "bigint" then some .bigInt
  else if n ∈ ["pls_integer", "binary_integer"] then some .boolean
  else if n ∈ ["varchar", "varchar2", "nvarchar2", "long", "rowid", "urowid"] then
    some (.varchar none)
  else if n ∈ ["char", "nchar"] then some (.char none)
  else if n ∈ ["date", "timestamp"] then some .timestamp
  else if n ∈ ["timestamptz", "timestamp with time zone"] then some .timestampTz
  else if n ∈ ["clob", "nclob", "raw", "long raw"] then some .clob
  else if n = "blob" then some .blob
  else none

/-- The default value of a column. An expression is SQL text taken as it is. -/
inductive Default
  | null
  | bool (b : Bool)
  | integer (n : Int64)
  | float (x : Float)
  | string (s : String)
  | expression (sql : String)

/-- The definition of a column. A `definition` of its own replaces everything after
the name. -/
structure Column where
  name : String
  type : ColumnType
  nullable : Bool := false
  default : Option Default := none
  unique : Bool := false
  check : Option String := none
  comment : Option String := none
  autoIncrement : Bool := false
  autoIncrementStart : Option Int64 := none
  primaryKey : Bool := false
  charset : Option String := none
  collation : Option String := none
  definition : Option String := none

namespace Column

inductive Edit
  | nullable
  | default (value : Default)
  | unique
  | check (condition : String)
  | comment (text : String)
  | primaryKey
  | autoIncrement
  | startingFrom (first : Int64)
  | increments
  | charset (name : String)
  | collation (name : String)
  | definition (sql : String)

/-- Marks a column as part of the primary key, which allows no nulls. -/
def asKey (c : Column) : Column := { c with primaryKey := true, nullable := false }

def edit (c : Column) : Edit → Column
  | .nullable => { c with nullable := true }
  | .default value => { c with default := some value }
  | .unique => { c with unique := true }
  | .check condition => { c with check := some condition }
  | .comment text => { c with comment := some text }
  | .primaryKey => c.asKey
  | .autoIncrement => { c with autoIncrement := true }
  | .startingFrom first => { c with autoIncrementStart := some first }
  | .increments => { c.asKey with autoIncrement := true }
  | .charset name => { c with charset := some name }
  | .collation name => { c with collation := some name }
  | .definition sql => { c with definition := some sql }

def build (name : String) (type : ColumnType) (edits : List Edit) : Column :=
  edits.foldl edit { name, type }

end Column

end SqlSchema
