import SqlSchema.Proofs.Operation.Basic
import SqlSchema.Proofs.Session.Alike

/-!
# The table prefix is applied exactly once

An operation on a table finds the full name in several places. Under a prefix it does the
same as without one on the table whose name has the prefix in front: nowhere is the prefix
left out or put in twice. An operation on the schema, or on a full name, puts it in nowhere.
-/

namespace SqlSchema

open Session

variable {α : Type} {s : Server} {p : String}

/-! ## Full names -/

theorem Sequence.alike_create (name : String) (first step : Int64) :
    Alike s p (Sequence.create name first step) (Sequence.create name first step) := by
  unfold Sequence.create
  split
  · exact (alike_note ..).bind fun _ => alike_pure false
  · exact (alike_note ..).bind fun _ => (alike_perform _).bind fun _ => alike_pure true

theorem Sequence.alike_isThere (name : String) :
    Alike s p (Sequence.isThere name) (Sequence.isThere name) :=
  alike_database.bind fun _ => (alike_askFirst _).bind fun _ => alike_pure _

theorem Sequence.alike_notThere (name : String) :
    Alike s p (Sequence.notThere name) (Sequence.notThere name) :=
  (alike_note ..).bind fun _ => alike_pure false

theorem Sequence.alike_drop (name : String) :
    Alike s p (Sequence.drop name) (Sequence.drop name) := by
  unfold Sequence.drop
  split
  · exact alike_notThere name
  · refine (alike_isThere name).bind fun there => ?_
    split
    · exact (alike_note ..).bind fun _ => (alike_perform _).bind fun _ => alike_pure true
    · exact alike_notThere name

theorem Sequence.alike_read (name : String) (which : SequenceValue) :
    Alike s p (Sequence.read name which) (Sequence.read name which) := by
  refine (alike_ofDialect _).bind fun sql => (alike_selectFirst sql).bind fun row => ?_
  split
  · exact alike_pure _
  · exact alike_fail _

theorem Sequence.alike_next (name : String) :
    Alike s p (Sequence.next name) (Sequence.next name) := by
  unfold Sequence.next
  split
  · exact alike_pure 0
  · exact alike_read name .next

theorem Sequence.alike_last (name : String) :
    Alike s p (Sequence.last name) (Sequence.last name) := by
  unfold Sequence.last
  split
  · exact alike_pure 0
  · refine (alike_isThere name).bind fun there => ?_
    split
    · exact alike_read name .current
    · exact alike_pure 0

theorem AutoIncrement.alike_primaryKey (fullName : String) :
    Alike s p (primaryKey fullName) (primaryKey fullName) := by
  unfold primaryKey
  split
  · exact alike_pure none
  · exact alike_database.bind fun _ => (alike_askFirst _).bind fun _ => alike_pure _

theorem AutoIncrement.alike_dropFor (fullName : String) :
    Alike s p (dropFor fullName) (dropFor fullName) := by
  refine (alike_primaryKey fullName).bind fun key => ?_
  split
  · exact (alike_note ..).bind fun _ => alike_pure none
  · refine (Sequence.alike_drop _).bind fun dropped => ?_
    split
    · exact (alike_note ..).bind fun _ => alike_pure _
    · exact alike_pure none

theorem Tables.alike_dropFullName (fullName : String) :
    Alike s p (dropFullName fullName) (dropFullName fullName) :=
  (AutoIncrement.alike_dropFor fullName).bind fun _ => (alike_note ..).bind fun _ => alike_perform _

theorem Tables.alike_all : Alike s p Tables.all Tables.all :=
  (alike_ask _).bind fun _ => alike_pure _

theorem Tables.alike_tryToDrop (fullName : String) :
    Alike s p (tryToDrop fullName) (tryToDrop fullName) := by
  refine (alike_dropFullName fullName).attempt.bind fun result => ?_
  split
  · exact alike_pure _
  · exact (alike_note ..).bind fun _ => alike_pure _

theorem Tables.alike_dropEach : ∀ tables : List String,
    Alike s p (dropEach tables) (dropEach tables)
  | [] => alike_pure _
  | table :: rest => by
    refine (alike_tryToDrop table).bind fun result => (alike_dropEach rest).bind fun lists => ?_
    obtain ⟨dropped, failures⟩ := lists
    cases result with
    | ok _ => exact alike_pure _
    | error e => exact alike_pure _

theorem Tables.alike_dropAll : Alike s p Tables.dropAll Tables.dropAll := by
  refine alike_all.bind fun tables => (alike_dropEach tables).bind fun lists => ?_
  obtain ⟨dropped, failures⟩ := lists
  dsimp only
  split
  · exact alike_pure _
  · exact alike_fail _

/-! ## Tables under a prefix -/

theorem Session.alike_fullName_bind {f g : String → Session α} (table : String)
    (h : ∀ fullName, Alike s "" (f fullName) (g fullName)) :
    Alike s "" (fullName table >>= f) (fullName (s.tablePrefix ++ table) >>= g) :=
  (alike_fullName table).bind h

theorem Comment.alike_statements (t : Table) (table : String) :
    Alike s "" (Comment.statements { t with name := table })
      (Comment.statements { t with name := s.tablePrefix ++ table }) :=
  alike_fullName_bind table fun _ => alike_pure _

theorem Comment.alike_applyEach (table₁ table₂ : String) : ∀ statements : List Statement,
    Alike s p (applyEach table₁ statements) (applyEach table₂ statements)
  | [] => alike_pure ()
  | u :: rest => (alike_note ..).bind fun _ => (alike_perform u).bind fun _ =>
      alike_applyEach table₁ table₂ rest

theorem Comment.alike_apply (t : Table) (table : String) :
    Alike s "" (Comment.apply { t with name := table })
      (Comment.apply { t with name := s.tablePrefix ++ table }) :=
  (alike_statements t table).bind fun statements =>
    (alike_applyEach _ _ statements).bind fun _ => alike_pure _

theorem Comment.alike_onTable (table comment : String) :
    Alike s "" (Comment.onTable table comment) (Comment.onTable (s.tablePrefix ++ table) comment) :=
  alike_fullName_bind table fun _ => alike_perform _

theorem AutoIncrement.alike_create (t : Table) (table : String) :
    Alike s "" (AutoIncrement.create { t with name := table })
      (AutoIncrement.create { t with name := s.tablePrefix ++ table }) := by
  unfold AutoIncrement.create Table.autoIncrementColumn?
  dsimp only
  cases t.columns.find? (·.autoIncrement) with
  | none => exact (alike_note ..).bind fun _ => alike_pure none
  | some c =>
    exact alike_fullName_bind table fun _ => (alike_note ..).bind fun _ =>
      (Sequence.alike_create ..).bind fun _ => (alike_perform _).bind fun _ => alike_pure _

theorem AutoIncrement.alike_drop (table : String) :
    Alike s "" (AutoIncrement.drop table) (AutoIncrement.drop (s.tablePrefix ++ table)) :=
  alike_fullName_bind table fun fullName => alike_dropFor fullName

theorem Tables.alike_create (t : Table) (table : String) :
    Alike s "" (Tables.create { t with name := table })
      (Tables.create { t with name := s.tablePrefix ++ table }) :=
  alike_fullName_bind table fun _ => (alike_note ..).bind fun _ =>
    (alike_performAll _).bind fun _ => (Comment.alike_apply t table).bind fun _ =>
      (AutoIncrement.alike_create t table).bind fun _ => alike_pure ()

theorem Tables.alike_alter (a : Alteration) (table : String) :
    Alike s "" (Tables.alter { a with name := table })
      (Tables.alter { a with name := s.tablePrefix ++ table }) := by
  refine alike_fullName_bind table fun _ => (alike_ofDialect _).bind fun _ =>
    (alike_note ..).bind fun _ => (alike_performAll _).bind fun _ => ?_
  dsimp only
  cases a.comment with
  | none => exact alike_pure ()
  | some comment => exact Comment.alike_onTable table comment

theorem Tables.alike_drop (table : String) :
    Alike s "" (Tables.drop table) (Tables.drop (s.tablePrefix ++ table)) :=
  alike_fullName_bind table fun fullName => alike_dropFullName fullName

theorem Tables.alike_isThere (table : String) :
    Alike s "" (Tables.isThere table) (Tables.isThere (s.tablePrefix ++ table)) :=
  alike_database.bind fun _ => alike_fullName_bind table fun _ =>
    (alike_ask _).bind fun _ => alike_pure _

theorem Tables.alike_dropIfThere (table : String) :
    Alike s "" (Tables.dropIfThere table) (Tables.dropIfThere (s.tablePrefix ++ table)) := by
  refine (alike_isThere table).bind fun there => ?_
  split
  · exact (alike_drop table).bind fun _ => alike_pure true
  · exact (alike_note ..).bind fun _ => alike_pure false

theorem Tables.alike_columnNames (table : String) :
    Alike s "" (Tables.columnNames table) (Tables.columnNames (s.tablePrefix ++ table)) :=
  alike_database.bind fun _ => alike_fullName_bind table fun _ =>
    (alike_ask _).bind fun _ => alike_pure _

theorem Tables.alike_truncate (table : String) :
    Alike s "" (Tables.truncate table) (Tables.truncate (s.tablePrefix ++ table)) :=
  alike_fullName_bind table fun _ => alike_perform _

theorem InsertId.alike_insert (strategy : InsertIdStrategy) (table sql : String)
    (values : List Datum) (column : Option String) :
    Alike s "" (InsertId.insert strategy table sql values column)
      (InsertId.insert strategy (s.tablePrefix ++ table) sql values column) := by
  refine (alike_execute sql values).bind fun _ => ?_
  cases column with
  | none => exact alike_pure 0
  | some column =>
    dsimp only
    cases boundId? strategy sql values column with
    | some id => exact (alike_note ..).bind fun _ => alike_pure id
    | none => exact alike_fullName_bind table fun _ => Sequence.alike_last _

theorem Inspection.alike_columns (table : String) :
    Alike s "" (Inspection.columns table) (Inspection.columns (s.tablePrefix ++ table)) :=
  alike_fullName_bind table fun _ => alike_database.bind fun _ => (alike_ask _).bind fun _ =>
    (alike_note ..).bind fun _ => alike_pure _

theorem Inspection.alike_askAbout (q : String → Query) (f : List Row → α) (table : String) :
    Alike s "" (fullName table >>= fun name => ask (q name) >>= fun rows => pure (f rows))
      (fullName (s.tablePrefix ++ table) >>= fun name =>
        ask (q name) >>= fun rows => pure (f rows)) :=
  alike_fullName_bind table fun _ => (alike_ask _).bind fun _ => alike_pure _

/-! ## All operations -/

/-- Under a prefix, an operation on a table is the operation on the table with the prefix in
its name under none; an operation on the schema is the same under every prefix. -/
theorem prefix_applied_once :
    (∀ {α : Type} (op : TableOperation α) (table : String) (s : Server),
      ((op.on table).run s).Alike ((op.on (s.tablePrefix ++ table)).run (s.withPrefix ""))) ∧
    ∀ {α : Type} (op : SchemaOperation α) (s : Server) (p : String),
      (op.session.run s).Alike (op.session.run (s.withPrefix p)) := by
  refine ⟨fun {α} op table s => ?_, fun {α} op s p => ?_⟩
  · cases op with
    | create t => exact Tables.alike_create t table
    | alter a => exact Tables.alike_alter a table
    | drop => exact Tables.alike_drop table
    | dropIfThere => exact Tables.alike_dropIfThere table
    | isThere => exact Tables.alike_isThere table
    | columnNames => exact Tables.alike_columnNames table
    | truncate => exact Tables.alike_truncate table
    | createCounter t => exact AutoIncrement.alike_create t table
    | dropCounter => exact AutoIncrement.alike_drop table
    | commentStatements t => exact Comment.alike_statements t table
    | comment t => exact Comment.alike_apply t table
    | commentTable text => exact Comment.alike_onTable table text
    | insert strategy sql values column =>
      exact InsertId.alike_insert strategy table sql values column
    | columns => exact Inspection.alike_columns table
    | indexes => exact Inspection.alike_askAbout .indexes Inspection.indexesOf table
    | foreignKeys => exact Inspection.alike_askAbout .foreignKeys Inspection.foreignKeysOf table
    | constraints =>
      exact Inspection.alike_askAbout .constraints (·.filterMap Inspection.constraintOf?) table
  · cases op with
    | dropAll => exact Tables.alike_dropAll
    | tables => exact Tables.alike_all
    | primaryKey fullName => exact AutoIncrement.alike_primaryKey fullName
    | dropCounterOf fullName => exact AutoIncrement.alike_dropFor fullName
    | createSequence name first step => exact Sequence.alike_create name first step
    | dropSequence name => exact Sequence.alike_drop name
    | sequenceIsThere name => exact Sequence.alike_isThere name
    | nextValue name => exact Sequence.alike_next name
    | lastValue name => exact Sequence.alike_last name
    | sequences =>
      exact alike_database.bind fun _ => (alike_ask _).bind fun _ => alike_pure _
    | views => exact (alike_ask _).bind fun _ => alike_pure _
    | databases => exact (alike_ask _).bind fun _ => alike_pure _
    | databaseIsThere name => exact (alike_askFirst _).bind fun _ => alike_pure _

end SqlSchema
