import SqlSchema.Operation.InsertId
import SqlSchema.Operation.Inspection
import SqlSchema.Operation.Tables

/-!
# Operations as data

Everything that can be asked of a schema: for one table, which is named without the table
prefix, or for the schema as a whole.
-/

namespace SqlSchema

/-- What can be asked for one table. -/
inductive TableOperation : Type → Type
  | create (t : Table) : TableOperation Unit
  | alter (a : Alteration) : TableOperation Unit
  | drop : TableOperation Unit
  | dropIfThere : TableOperation Bool
  | isThere : TableOperation Bool
  | columnNames : TableOperation (List String)
  | truncate : TableOperation Unit
  | createCounter (t : Table) : TableOperation (Option String)
  | dropCounter : TableOperation (Option String)
  | commentStatements (t : Table) : TableOperation (List Statement)
  | comment (t : Table) : TableOperation Nat
  | commentTable (text : String) : TableOperation Unit
  | insert (strategy : InsertIdStrategy) (sql : String) (values : List Datum)
      (column : Option String) : TableOperation Int64
  | columns : TableOperation (List ColumnInfo)
  | indexes : TableOperation (List IndexInfo)
  | foreignKeys : TableOperation (List ForeignKeyInfo)
  | constraints : TableOperation (List ConstraintInfo)

/-- Asks it for a table. A definition or an alteration is given the name of that table. -/
def TableOperation.on {α : Type} (op : TableOperation α) (table : String) : Session α :=
  match op with
  | create t => Tables.create { t with name := table }
  | alter a => Tables.alter { a with name := table }
  | drop => Tables.drop table
  | dropIfThere => Tables.dropIfThere table
  | isThere => Tables.isThere table
  | columnNames => Tables.columnNames table
  | truncate => Tables.truncate table
  | createCounter t => AutoIncrement.create { t with name := table }
  | dropCounter => AutoIncrement.drop table
  | commentStatements t => Comment.statements { t with name := table }
  | comment t => Comment.apply { t with name := table }
  | commentTable text => Comment.onTable table text
  | insert strategy sql values column => InsertId.insert strategy table sql values column
  | columns => Inspection.columns table
  | indexes => Inspection.indexes table
  | foreignKeys => Inspection.foreignKeys table
  | constraints => Inspection.constraints table

/-- What can be asked for the schema, or by the full name of a thing in it. The current value
of a sequence is its last value. -/
inductive SchemaOperation : Type → Type
  | dropAll : SchemaOperation (List String)
  | tables : SchemaOperation (List String)
  | primaryKey (fullName : String) : SchemaOperation (Option String)
  | dropCounterOf (fullName : String) : SchemaOperation (Option String)
  | createSequence (name : String) (first step : Int64) : SchemaOperation Bool
  | dropSequence (name : String) : SchemaOperation Bool
  | sequenceIsThere (name : String) : SchemaOperation Bool
  | nextValue (name : String) : SchemaOperation Int64
  | lastValue (name : String) : SchemaOperation Int64
  | sequences : SchemaOperation (List SequenceInfo)
  | views : SchemaOperation (List ViewInfo)
  | databases : SchemaOperation (List String)
  | databaseIsThere (name : String) : SchemaOperation Bool

def SchemaOperation.session {α : Type} : SchemaOperation α → Session α
  | dropAll => Tables.dropAll
  | tables => Tables.all
  | primaryKey fullName => AutoIncrement.primaryKey fullName
  | dropCounterOf fullName => AutoIncrement.dropFor fullName
  | createSequence name first step => Sequence.create name first step
  | dropSequence name => Sequence.drop name
  | sequenceIsThere name => Sequence.isThere name
  | nextValue name => Sequence.next name
  | lastValue name => Sequence.last name
  | sequences => Inspection.sequences
  | views => Inspection.views
  | databases => Inspection.databases
  | databaseIsThere name => Inspection.databaseIsThere name

end SqlSchema
