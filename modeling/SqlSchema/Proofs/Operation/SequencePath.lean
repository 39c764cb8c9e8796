import SqlSchema.Operation.InsertId
import SqlSchema.Proofs.Operation.Creation
import SqlSchema.Proofs.Session.Path

/-!
# Paths to a sequence

Which texts an operation passes on its way to the sequence of a table. Dropping a table looks
up the key, probes for the sequence that the key names, drops it if it is there, then drops the
table. An insertion whose id is not bound by itself probes for the sequence and reads it.
-/

namespace SqlSchema

namespace Server

def probe (s : Server) (name : String) : String :=
  (Query.sequenceExists s.database name).sql .standard

def hasSequence (s : Server) (name : String) : Bool := (s.answer (s.probe name)).head?.isSome

theorem hasSequence_iff {s : Server} {name : String} :
    s.hasSequence name = true ↔ s.answer (s.probe name) ≠ [] := by
  rw [hasSequence, List.isSome_head?]

def keyLookup (s : Server) (fullName : String) : String :=
  (Query.primaryKey s.database fullName).sql .standard

/-- The column that the lookup of a key answers. No key is looked up for the empty name. -/
def key? (s : Server) (fullName : String) : Option String :=
  if fullName = "" then none
  else (s.answer (s.keyLookup fullName)).head?.bind AutoIncrement.keyColumn?

def dropSequencePath (s : Server) (name : String) : List Event :=
  .query (s.probe name) ::
    if s.hasSequence name then [.statement ((Statement.dropSequence name).sql .standard) []] else []

def readSequencePath (s : Server) (name : String) : List Event :=
  .query (s.probe name) ::
    if s.hasSequence name then [.query ((Query.sequenceValue name .current).sql .standard)] else []

def keyPath (s : Server) (fullName : String) : List Event :=
  if fullName = "" then [] else [.query (s.keyLookup fullName)]

def dropPath (s : Server) (fullName : String) : List Event :=
  s.keyPath fullName ++
    (s.key? fullName).elim [] (fun column => s.dropSequencePath (Name.ofSequence fullName column)) ++
    [.statement ((Statement.dropTable fullName).sql .standard) []]

end Server

variable {s : Server}

namespace Sequence

theorem takes_isThere (name : String) :
    (isThere name).Takes s [.query (s.probe name)] (.ok (s.hasSequence name)) := by
  have hask : (Session.askFirst (.sequenceExists s.database name)).Takes s
      [.query (s.probe name)] (.ok (s.answer (s.probe name)).head?) := Session.takes_askFirst rfl
  exact .of_run (Session.run_database s) (hask.bind (Session.takes_pure _))

theorem takes_notThere (name : String) : (notThere name).Takes s [] (.ok false) :=
  (Session.takes_pure false).after_note _ _ _

theorem takes_drop {name : String} (h : name ≠ "") :
    (drop name).Takes s (s.dropSequencePath name) (.ok (s.hasSequence name)) := by
  have hc : (Statement.dropSequence name).checkedSql .standard =
      .ok ((Statement.dropSequence name).sql .standard) := by
    simp [Statement.checkedSql, Statement.sequence?, Statement.checkSequence, h, Except.map]
  rw [drop, if_neg h]
  refine (takes_isThere name).bind ?_
  cases s.hasSequence name with
  | true =>
    refine Session.Takes.after_note ?_ _ _ _
    exact (Session.takes_perform hc).bind (Session.takes_pure true)
  | false => exact takes_notThere name

theorem takes_read {name : String} (h : name ≠ "") (which : SequenceValue) :
    ∃ r, (read name which).Takes s [.query ((Query.sequenceValue name which).sql .standard)] r := by
  have hc : (Query.sequenceValue name which).checkedSql .standard =
      .ok ((Query.sequenceValue name which).sql .standard) := by
    simp [Query.checkedSql, Statement.checkSequence, h, Except.map]
  have hselect :=
    Session.takes_selectFirst (s := s) ((Query.sequenceValue name which).sql .standard)
  rw [read, hc]
  cases hrow : (s.answer ((Query.sequenceValue name which).sql .standard)).head?.bind
      (·.int? "id") with
  | some n =>
    refine ⟨.ok n, .of_run rfl (hselect.bind ?_)⟩
    rw [hrow]
    exact Session.takes_pure n
  | none =>
    refine ⟨.error (.unexpectedRow ((Query.sequenceValue name which).sql .standard) "id"),
      .of_run rfl (hselect.bind ?_)⟩
    rw [hrow]
    exact Session.takes_fail _

theorem takes_last {name : String} (h : name ≠ "") :
    ∃ r, (last name).Takes s (s.readSequencePath name) r := by
  rw [last, if_neg h, Server.readSequencePath]
  cases hthere : s.hasSequence name with
  | true =>
    obtain ⟨r, hr⟩ := takes_read (s := s) h .current
    refine ⟨r, (takes_isThere name).bind ?_⟩
    rw [hthere]
    exact hr
  | false =>
    refine ⟨.ok 0, (takes_isThere name).bind ?_⟩
    rw [hthere]
    exact Session.takes_pure 0

end Sequence

namespace AutoIncrement

theorem takes_primaryKey (fullName : String) :
    (primaryKey fullName).Takes s (s.keyPath fullName) (.ok (s.key? fullName)) := by
  unfold primaryKey Server.keyPath Server.key?
  by_cases h : fullName = ""
  · rw [if_pos h, if_pos h, if_pos h]
    exact Session.takes_pure none
  · have hask : (Session.askFirst (.primaryKey s.database fullName)).Takes s
        [.query (s.keyLookup fullName)] (.ok (s.answer (s.keyLookup fullName)).head?) :=
      Session.takes_askFirst rfl
    rw [if_neg h, if_neg h, if_neg h]
    exact .of_run (Session.run_database s) (hask.bind (Session.takes_pure _))

theorem takes_dropFor (fullName : String) : ∃ dropped, (dropFor fullName).Takes s
    (s.keyPath fullName ++ (s.key? fullName).elim [] fun column =>
      s.dropSequencePath (Name.ofSequence fullName column)) (.ok dropped) := by
  rw [dropFor]
  cases hk : s.key? fullName with
  | none =>
    refine ⟨none, (takes_primaryKey fullName).bind ?_⟩
    rw [hk]
    exact (Session.takes_pure none).after_note _ _ _
  | some column =>
    have hdrop := Sequence.takes_drop (s := s) (Name.ofSequence_ne_empty fullName column)
    refine ⟨if s.hasSequence (Name.ofSequence fullName column) then
      some (Name.ofSequence fullName column) else none, (takes_primaryKey fullName).bind ?_⟩
    rw [hk, Option.elim_some, ← List.append_nil (s.dropSequencePath _)]
    refine hdrop.bind ?_
    cases s.hasSequence (Name.ofSequence fullName column) with
    | true => exact (Session.takes_pure _).after_note _ _ _
    | false => exact Session.takes_pure none

end AutoIncrement

theorem Tables.takes_dropFullName (fullName : String) :
    (Tables.dropFullName fullName).Takes s (s.dropPath fullName) (.ok ()) := by
  obtain ⟨dropped, hdrop⟩ := AutoIncrement.takes_dropFor (s := s) fullName
  rw [Tables.dropFullName]
  refine hdrop.bind ?_
  exact (Session.takes_perform rfl).after_note _ _ _

theorem Tables.takes_drop (table : String) :
    (Tables.drop table).Takes s (s.dropPath (s.fullName table)) (.ok ()) :=
  .of_run (Session.run_fullName table s) (Tables.takes_dropFullName (s.fullName table))

/-- An insertion that binds no id itself goes on to the sequence of the column. -/
theorem InsertId.takes_insert {strategy : InsertIdStrategy} {sql column : String}
    {values : List Datum} (h : boundId? strategy sql values column = none) (table : String) :
    ∃ r, (insert strategy table sql values (some column)).Takes s
      (.statement sql values ::
        s.readSequencePath (Name.ofSequence (s.fullName table) column)) r := by
  obtain ⟨r, hr⟩ := Sequence.takes_last (s := s)
    (Name.ofSequence_ne_empty (s.fullName table) column)
  refine ⟨r, (Session.takes_execute sql values).bind ?_⟩
  dsimp only
  rw [h]
  exact .of_run (Session.run_fullName table s) hr

end SqlSchema
