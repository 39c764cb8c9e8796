import SqlSchema.Operation.Tables
import SqlSchema.Proofs.Session.Plan

/-!
# Creating a table follows a plan

The statements of a table, its comments and its sequence come from three places that each
find the full name of the table for themselves. Together they are one plan: nothing is
left out, repeated or moved when a statement is rejected.
-/

namespace SqlSchema

/-- What feeds the first column that counts, if there is one: its sequence, from the first
value on in steps of one, and the default that binds the column to it. -/
def Table.countingStatements (t : Table) (fullName : String) : List Statement :=
  match t.columns.find? (·.autoIncrement) with
  | none => []
  | some c =>
    let sequence := Name.ofSequence fullName c.name
    [.createSequence sequence (c.autoIncrementStart.getD 1) 1,
      .bindSequence fullName c.name sequence]

/-- The texts that create a table under a prefix: the table and its indexes, the comments,
the sequence. -/
def Table.creationPlan (t : Table) (tablePrefix : String) : List String :=
  let fullName := tablePrefix ++ t.name
  ({ t with name := fullName }.statements ++ t.commentStatements fullName ++
    t.countingStatements fullName).map (Statement.sql .standard)

theorem Name.ofSequence_ne_empty (table column : String) : ofSequence table column ≠ "" := by
  intro h
  have hl := congrArg String.toList h
  rw [ofSequence, toList_fit] at hl
  simp [maxLength] at hl

theorem Table.sequence?_of_mem_statements {t : Table} {u : Statement} (h : u ∈ t.statements) :
    u.sequence? = none := by
  rcases Table.of_mem_statements h with rfl | ⟨i, -, rfl⟩
  · rfl
  · rfl

theorem Table.sequence?_of_mem_commentStatements {t : Table} {fullName : String} {u : Statement}
    (h : u ∈ t.commentStatements fullName) : u.sequence? = none := by
  rcases Table.of_mem_commentStatements h with ⟨comment, rfl⟩ | ⟨column, comment, rfl⟩
  · rfl
  · rfl

variable {s : Server}

theorem Sequence.follows_create {name : String} (h : name ≠ "") (first step : Int64) :
    (Sequence.create name first step).Follows s
      [(Statement.createSequence name first step).sql .standard] := by
  have hc : (Statement.createSequence name first step).checkedSql .standard =
      .ok ((Statement.createSequence name first step).sql .standard) := by
    simp [Statement.checkedSql, Statement.sequence?, Statement.checkSequence, h, Except.map]
  rw [Sequence.create, if_neg h]
  exact ((Session.follows_perform hc).bind fun _ => Session.follows_pure true).after_note _ _ _

theorem Comment.follows_applyEach (table : String) : ∀ {statements : List Statement},
    (∀ u ∈ statements, u.sequence? = none) →
    (applyEach table statements).Follows s (statements.map (Statement.sql .standard))
  | [], _ => Session.follows_pure ()
  | u :: rest, h => by
    have ih := follows_applyEach table fun v hv => h v (List.mem_cons_of_mem u hv)
    have hu := Session.follows_perform_plain (s := s) (h u List.mem_cons_self)
    exact (hu.bind fun _ => ih).after_note _ _ _

theorem Comment.follows_apply (t : Table) : (Comment.apply t).Follows s
    ((t.commentStatements (s.fullName t.name)).map (Statement.sql .standard)) := by
  have hs : (Comment.statements t).run s =
      ⟨.ok (t.commentStatements (s.fullName t.name)), []⟩ := rfl
  rw [Comment.apply]
  apply Session.Follows.of_run hs
  rw [← List.append_nil (List.map _ _)]
  exact (follows_applyEach t.name fun u hu => Table.sequence?_of_mem_commentStatements hu).bind
    fun _ => Session.follows_pure _

theorem AutoIncrement.follows_create (t : Table) : (AutoIncrement.create t).Follows s
    ((t.countingStatements (s.fullName t.name)).map (Statement.sql .standard)) := by
  rw [AutoIncrement.create, Table.autoIncrementColumn?, Table.countingStatements]
  cases t.columns.find? (·.autoIncrement) with
  | none => exact (Session.follows_pure none).after_note _ _ _
  | some c =>
    have hseq := Sequence.follows_create (s := s)
      (Name.ofSequence_ne_empty (s.fullName t.name) c.name) (c.autoIncrementStart.getD 1) 1
    have hbind := (Session.follows_perform_plain (s := s) (u := .bindSequence (s.fullName t.name)
      c.name (Name.ofSequence (s.fullName t.name) c.name)) rfl).bind
      fun _ => Session.follows_pure (some (Name.ofSequence (s.fullName t.name) c.name))
    apply Session.Follows.of_run (Session.run_fullName t.name s)
    exact (hseq.bind fun _ => hbind).after_note _ _ _

theorem Tables.follows_create (t : Table) :
    (Tables.create t).Follows s (t.creationPlan s.tablePrefix) := by
  have hplain : ∀ u ∈ { t with name := s.fullName t.name }.statements, u.sequence? = none :=
    fun u hu => Table.sequence?_of_mem_statements hu
  have htable := Session.follows_performAll (s := s) hplain
  have hrest := (Comment.follows_apply (s := s) t).bind fun _ =>
    (AutoIncrement.follows_create (s := s) t).bind fun _ => Session.follows_pure ()
  rw [Tables.create, Table.creationPlan, List.map_append, List.map_append, List.append_assoc]
  rw [List.append_nil] at hrest
  apply Session.Follows.of_run (Session.run_fullName t.name s)
  exact (htable.bind fun _ => hrest).after_note _ _ _

/-- On any scripted server, creating a table carries out the plan of the table up to the
first text that contains a needle. -/
theorem create_carriesOut_plan (s : Script) (t : Table) :
    ((Tables.create t).run s.server).CarriesOut s (t.creationPlan s.tablePrefix) :=
  (Tables.follows_create t).carriesOut

example :
    let t : Table := {
      name := "users"
      columns := [
        { name := "id", type := .bigInt, primaryKey := true,
          autoIncrement := true, autoIncrementStart := some 100 },
        { name := "email", type := .varchar (some 80), comment := some "as on the user's card" }]
      comment := some "people"
      indexes := [{ name := "by_email", columns := ["email"], unique := true }] }
    let s : Script := { database := "app", tablePrefix := "p_" }
    ((Tables.create t).run s.server).executed = [
      "CREATE TABLE \"p_users\" (\"id\" BIGINT NOT NULL, \"email\" VARCHAR2(80) NOT NULL, " ++
        "PRIMARY KEY (\"id\"))",
      "CREATE UNIQUE INDEX \"by_email\" ON \"p_users\" (\"email\")",
      "COMMENT ON TABLE \"p_users\" IS 'people'",
      "COMMENT ON COLUMN \"p_users\".\"email\" IS 'as on the user''s card'",
      "CREATE SEQUENCE \"p_users_id_seq\" START WITH 100 INCREMENT BY 1",
      "ALTER TABLE \"p_users\" MODIFY \"id\" DEFAULT \"p_users_id_seq\".NEXTVAL"] := by
  decide

end SqlSchema
