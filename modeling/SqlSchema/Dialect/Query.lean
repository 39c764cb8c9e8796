import SqlSchema.Dialect.Statement
import SqlSchema.Text.Case

/-!
# Queries of the catalog

The queries that read the catalog and the sequences. Each is a fixed text with places
for string literals. Names stand in the catalog in upper case, so most are given in
upper case; the lookups of keys and sequences take the name of the object as it is.
-/

namespace SqlSchema

inductive SequenceValue
  | next
  | current
  deriving DecidableEq

def SequenceValue.column : SequenceValue → String
  | next => "NEXTVAL"
  | current => "CURRVAL"

inductive Query
  | tables
  | views
  | databases
  | sequences (owner : String)
  | columns (table owner : String)
  | indexes (table : String)
  | foreignKeys (table : String)
  | constraints (table : String)
  | databaseExists (name : String)
  | tableExists (owner table : String)
  | columnNames (owner table : String)
  | primaryKey (owner table : String)
  | sequenceExists (owner name : String)
  | sequenceValue (name : String) (which : SequenceValue)
  | nextOf (name : String)
  | one

namespace Query

/-- A part of a query: text as it stands, or the content of a string literal. -/
inductive Part
  | text (sql : String)
  | literal (s : String)

def Part.sql : Part → String
  | text sql => sql
  | literal s => Quoted.literal s

def Part.upper (s : String) : Part := .literal (Text.upper s)

def parts (d : Dialect) : Query → List Part
  | tables => [.text "SELECT * FROM sys.user_tables"]
  | views => [.text "SELECT view_name, text FROM sys.user_views"]
  | databases => [.text "SELECT username FROM all_users"]
  | sequences owner => [
    .text ("SELECT sequence_name, min_value, increment_by FROM sys.all_sequences " ++
      "WHERE SEQUENCE_OWNER = "), .upper owner]
  | columns table owner => [
    .text ("SELECT c.*, d.comments FROM all_tab_columns c LEFT JOIN user_col_comments d " ++
      "ON d.TABLE_NAME = c.TABLE_NAME AND d.COLUMN_NAME = c.COLUMN_NAME WHERE c.owner = "),
    .upper owner, .text " AND c.TABLE_NAME = ", .upper table, .text " ORDER BY c.column_name"]
  | indexes table => [
    .text ("SELECT uind.index_name AS name, uind.index_type AS type, " ++
      "decode( uind.uniqueness, 'NONUNIQUE', 0, 'UNIQUE', 1 ) AS is_unique, " ++
      "uind_col.column_name AS column_name, uind_col.column_position AS column_pos, " ++
      "(SELECT ucon.constraint_type FROM user_constraints ucon " ++
      "WHERE ucon.constraint_name = uind.index_name) AS is_primary " ++
      "FROM user_indexes uind, user_ind_columns uind_col " ++
      "WHERE uind.index_name = uind_col.index_name AND uind_col.table_name = "),
    .upper table, .text " ORDER BY uind_col.column_position ASC"]
  | foreignKeys table => [
    .text ("SELECT alc.constraint_name, alc.DELETE_RULE, alc.search_condition, " ++
      "cols.column_name \"local_column\", cols.position, r_alc.table_name \"references_table\", " ++
      "r_cols.column_name \"foreign_column\" FROM user_cons_columns cols " ++
      "LEFT JOIN user_constraints alc ON alc.constraint_name = cols.constraint_name " ++
      "LEFT JOIN user_constraints r_alc ON alc.r_constraint_name = r_alc.constraint_name " ++
      "LEFT JOIN user_cons_columns r_cols ON r_alc.constraint_name = r_cols.constraint_name " ++
      "AND cols.position = r_cols.position WHERE alc.constraint_name = cols.constraint_name " ++
      "AND alc.constraint_type = 'R' AND alc.table_name = "), .upper table]
  | constraints table => [
    .text "SELECT * FROM user_constraints WHERE table_name = ", .upper table]
  | databaseExists name => [
    .text "SELECT 1 FROM all_users WHERE username = ", .upper name]
  | tableExists owner table => [
    .text "SELECT * FROM all_tables WHERE upper(owner) = upper(", .literal owner,
    .text ") AND upper(table_name) = upper(", .literal table, .text ")"]
  | columnNames owner table => [
    .text "SELECT column_name FROM all_tab_cols WHERE upper(owner) = upper(", .literal owner,
    .text ") AND upper(table_name) = upper(", .literal table, .text ")"]
  | primaryKey owner table => [
    .text ("SELECT cols.COLUMN_NAME FROM all_constraints cons, all_cons_columns cols " ++
      "WHERE cons.OWNER = cols.OWNER AND cons.CONSTRAINT_NAME = cols.CONSTRAINT_NAME " ++
      "AND cons.TABLE_NAME = cols.TABLE_NAME AND cons.CONSTRAINT_TYPE = 'P' AND cons.OWNER = "),
    .upper owner, .text " AND cols.TABLE_NAME = ", .literal table]
  | sequenceExists owner name => [
    .text "SELECT * FROM ALL_SEQUENCES WHERE SEQUENCE_OWNER = ", .upper owner,
    .text " AND SEQUENCE_NAME = ", .literal name]
  | sequenceValue name which => [
    .text ("SELECT " ++ d.quoteName name ++ "." ++ which.column ++ " AS \"id\" FROM DUAL")]
  | nextOf name => [.text ("SELECT " ++ name ++ ".nextval FROM DUAL")]
  | one => [.text "SELECT 1 FROM DUAL"]

def sql (d : Dialect) (q : Query) : String := String.join ((q.parts d).map Part.sql)

/-- The SQL of a query, unless it reads a sequence without a name. -/
def checkedSql (d : Dialect) (q : Query) : Except DialectError String :=
  match q with
  | sequenceValue name _ => (Statement.checkSequence name).map fun _ => q.sql d
  | _ => .ok (q.sql d)

end Query

end SqlSchema
