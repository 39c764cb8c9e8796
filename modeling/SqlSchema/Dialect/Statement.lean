import SqlSchema.Dialect.Basic

/-!
# Statements

The statements that define and remove schema objects, as data and as SQL, and the
lists of statements that create or alter a table.
-/

namespace SqlSchema

inductive IsolationLevel
  | readUncommitted
  | readCommitted
  | repeatableRead
  | serializable
  deriving DecidableEq

/-- The level in SQL. The dialect offers nothing between reading committed rows and full
isolation. -/
def IsolationLevel.sql : IsolationLevel → String
  | readUncommitted => "READ UNCOMMITTED"
  | readCommitted => "READ COMMITTED"
  | repeatableRead => "SERIALIZABLE"
  | serializable => "SERIALIZABLE"

def IsolationLevel.ofJson : Json.Decoder IsolationLevel := fun v => do
  let (name, content) ← Json.asVariant v
  match name with
  | "read_uncommitted" => Json.carriesNothing .readUncommitted content
  | "read_committed" => Json.carriesNothing .readCommitted content
  | "repeatable_read" => Json.carriesNothing .repeatableRead content
  | "serializable" => Json.carriesNothing .serializable content
  | _ => throw (.unknownVariant name)

def IsolationLevel.toJson : IsolationLevel → Json
  | readUncommitted => .text "read_uncommitted"
  | readCommitted => .text "read_committed"
  | repeatableRead => .text "repeatable_read"
  | serializable => .text "serializable"

/-- A statement about the schema. Views, foreign keys and databases are named by SQL text
taken as it is; other names are quoted. -/
inductive Statement
  | createTable (table : Table)
  | createIndex (table : String) (index : Index)
  | dropTable (table : String)
  | truncateTable (table : String)
  | modifyColumn (table : String) (column : Column) (nulls : NullClause)
  | bindSequence (table column sequence : String)
  | commentOnTable (table comment : String)
  | commentOnColumn (table column comment : String)
  | createSequence (name : String) (first step : Int64)
  | createSequenceFrom (name : String) (least step : Int64)
  | alterSequence (name : String) (step : Int64)
  | dropSequence (name : String)
  | createView (name query : String)
  | dropView (name : String)
  | dropForeignKey (table key : String)
  | dropDatabase (name : String)
  | setIsolation (level : IsolationLevel)

namespace Statement

def sql (d : Dialect) : Statement → String
  | createTable t =>
    let key := t.primaryKey
    let parts := t.columns.map (fun c => d.declaration c .stated) ++
      if key.isEmpty then [] else ["PRIMARY KEY (" ++ d.nameList key ++ ")"]
    "CREATE TABLE " ++ d.quoteName t.name ++ " (" ++ ", ".intercalate parts ++ ")"
  | createIndex table i =>
    "CREATE " ++ (if i.unique then "UNIQUE " else "") ++ "INDEX " ++ d.quoteName i.name ++ " ON " ++
      d.quoteName table ++ " (" ++ d.nameList i.columns ++ ")"
  | dropTable table => "DROP TABLE " ++ d.quoteName table
  | truncateTable table => "TRUNCATE TABLE " ++ d.quoteName table
  | modifyColumn table c nulls =>
    "ALTER TABLE " ++ d.quoteName table ++ " MODIFY " ++ d.declaration c nulls
  | bindSequence table column sequence =>
    "ALTER TABLE " ++ d.quoteName table ++ " MODIFY " ++ d.quoteName column ++ " DEFAULT " ++
      d.quoteName sequence ++ ".NEXTVAL"
  | commentOnTable table comment =>
    "COMMENT ON TABLE " ++ d.quoteName table ++ " IS " ++ Quoted.literal comment
  | commentOnColumn table column comment =>
    "COMMENT ON COLUMN " ++ d.quoteName table ++ "." ++ d.quoteName column ++ " IS " ++
      Quoted.literal comment
  | createSequence name first step =>
    "CREATE SEQUENCE " ++ d.quoteName name ++ " START WITH " ++ toString first.toInt ++
      " INCREMENT BY " ++ toString step.toInt
  | createSequenceFrom name least step =>
    "CREATE SEQUENCE " ++ d.quoteName name ++ " START WITH " ++ toString least.toInt ++
      " MINVALUE " ++ toString least.toInt ++ " INCREMENT BY " ++ toString step.toInt
  | alterSequence name step =>
    "ALTER SEQUENCE " ++ d.quoteName name ++ " INCREMENT BY " ++ toString step.toInt
  | dropSequence name => "DROP SEQUENCE " ++ d.quoteName name
  | createView name query => "CREATE VIEW " ++ name ++ " AS " ++ query
  | dropView name => "DROP VIEW " ++ name
  | dropForeignKey table key => "ALTER TABLE " ++ table ++ " DROP CONSTRAINT " ++ key
  | dropDatabase name => "DROP USER " ++ name ++ " CASCADE"
  | setIsolation level => "SET TRANSACTION ISOLATION LEVEL " ++ level.sql

def sequence? : Statement → Option String
  | createSequence name _ _ => some name
  | createSequenceFrom name _ _ => some name
  | alterSequence name _ => some name
  | dropSequence name => some name
  | _ => none

def checkSequence (name : String) : Except DialectError Unit :=
  if name = "" then .error (.invalidName "sequence name must not be empty") else .ok ()

/-- The SQL of a statement, unless it is about a sequence without a name. -/
def checkedSql (d : Dialect) (s : Statement) : Except DialectError String :=
  match s.sequence? with
  | some name => (checkSequence name).map fun _ => s.sql d
  | none => .ok (s.sql d)

end Statement

/-- What creates a table: the table and its indexes. Columns fed by a sequence are
declared as plain columns. -/
def Table.statements (t : Table) : List Statement :=
  .createTable t :: t.indexes.map (.createIndex t.name)

/-- What comments on a table of the given full name: the table, the columns in order,
then the comments kept apart from them. A later comment on a column overwrites. -/
def Table.commentStatements (t : Table) (fullName : String) : List Statement :=
  (t.comment.map (.commentOnTable fullName)).toList ++
  t.columns.filterMap (fun c => c.comment.map (.commentOnColumn fullName c.name)) ++
  t.columnComments.entries.map fun e => .commentOnColumn fullName e.1 e.2

theorem Table.of_mem_statements {t : Table} {u : Statement} (h : u ∈ t.statements) :
    u = .createTable t ∨ ∃ i ∈ t.indexes, u = .createIndex t.name i := by
  rcases List.mem_cons.mp h with rfl | h
  · exact .inl rfl
  · obtain ⟨i, hi, rfl⟩ := List.mem_map.mp h
    exact .inr ⟨i, hi, rfl⟩

theorem Table.of_mem_commentStatements {t : Table} {fullName : String} {u : Statement}
    (h : u ∈ t.commentStatements fullName) :
    (∃ comment, u = .commentOnTable fullName comment) ∨
      ∃ column comment, u = .commentOnColumn fullName column comment := by
  simp only [commentStatements, List.mem_append, List.mem_filterMap, List.mem_map,
    Option.mem_toList, Option.map_eq_some_iff] at h
  rcases h with (⟨comment, -, rfl⟩ | ⟨c, -, comment, -, rfl⟩) | ⟨e, -, rfl⟩
  · exact .inl ⟨comment, rfl⟩
  · exact .inr ⟨c.name, comment, rfl⟩
  · exact .inr ⟨e.1, e.2, rfl⟩

namespace Alteration

def modification (table : String) (c : ColumnChange) : Statement :=
  .modifyColumn table c.new (if c.changesNullability then .stated else .omitted)

/-- What alters a table: the changed columns in order, then their comments. A structural
change is refused before anything is written. -/
def statements (a : Alteration) : Except DialectError (List Statement) :=
  match a.structural? with
  | some s => .error (.unsupported a.name s.describe)
  | none => .ok (
    a.changed.map (modification a.name) ++
    a.changed.filterMap fun c =>
      (Dialect.comment? c.new).map (.commentOnColumn a.name c.new.name))

theorem of_mem_statements {a : Alteration} {l : List Statement} (h : a.statements = .ok l)
    {u : Statement} (hu : u ∈ l) : ∃ c ∈ a.changed,
      u = modification a.name c ∨ ∃ comment, u = .commentOnColumn a.name c.new.name comment := by
  unfold statements at h
  split at h
  · cases h
  · cases h
    rcases List.mem_append.mp hu with hu | hu
    · obtain ⟨c, hc, rfl⟩ := List.mem_map.mp hu
      exact ⟨c, hc, .inl rfl⟩
    · obtain ⟨c, hc, hcomment⟩ := List.mem_filterMap.mp hu
      obtain ⟨comment, -, rfl⟩ := Option.map_eq_some_iff.mp hcomment
      exact ⟨c, hc, .inr ⟨comment, rfl⟩⟩

end Alteration

end SqlSchema
