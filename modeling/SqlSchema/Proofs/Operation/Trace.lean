import SqlSchema.Proofs.Operation.Guarding

/-!
# Traces of many operations

Operations of any kind, one after the other on the same server, and everything they send. No
operation sends a hazardous text but right behind what licenses it, whatever came before.
-/

namespace SqlSchema

/-! ## Dropping every table -/

namespace Tables

/-- What is sent to drop every table: the listing, and then for each listed table what is sent
to drop it, whether that succeeds or not. -/
def dropAllAttempts (s : Server) : List Attempt :=
  (Tables.all.run s).attempts ++
    match (Tables.all.run s).result with
    | .ok names => names.flatMap fun name => ((dropFullName name).run s).attempts
    | .error _ => []

variable {s : Server}

theorem allows_dropAllAttempts : s.Allows (dropAllAttempts s) := by
  refine Server.Allows.append careful_all ?_
  cases (Tables.all.run s).result with
  | error e => exact Server.allows_nil
  | ok names =>
    induction names with
    | nil => exact Server.allows_nil
    | cons name rest ih => exact (careful_dropFullName name).append ih

theorem dropAllAttempts_of_rejected {message : String}
    (h : s.rejection? listing = some message) : dropAllAttempts s = [.rejected listing] := by
  rw [dropAllAttempts, run_all_rejected s h]
  rfl

theorem dropAllAttempts_of_accepted (h : s.rejection? listing = none) :
    dropAllAttempts s = .accepted listing ::
      (listed s).flatMap fun name => ((dropFullName name).run s).attempts := by
  rw [dropAllAttempts, run_all_accepted s h]
  rfl

/-- What the log of the whole drop has is what was accepted. -/
theorem accepted_dropAllAttempts :
    (dropAllAttempts s).filterMap Attempt.accepted? = (dropAll.run s).accepted := by
  rw [Outcome.accepted_eq_exchanges]
  cases h : s.rejection? listing with
  | some message =>
    rw [dropAllAttempts_of_rejected h, (leaves_dropAll_rejected s h).exchanges]
    rfl
  | none =>
    rw [dropAllAttempts_of_accepted h, (leaves_dropAll s h).exchanges, List.filterMap_cons,
      List.filterMap_cons, List.filterMap_flatMap, List.filterMap_flatMap]
    simp only [Attempt.accepted?, Event.text?, Outcome.accepted_of_attempts,
      Outcome.accepted_eq_exchanges, (leaves_dropFullName s _).exchanges]

/-- What its failure reports is what was rejected. -/
theorem rejected_dropAllAttempts :
    (dropAllAttempts s).filterMap Attempt.rejected? = (dropAll.run s).rejected := by
  cases h : s.rejection? listing with
  | some message =>
    have hresult := (leaves_dropAll_rejected s h).result
    rw [dropAllAttempts_of_rejected h, Outcome.rejected, Outcome.failure?, hresult]
    rfl
  | none =>
    have hresult := (leaves_dropAll s h).result
    have hone (name : String) : ((dropFullName name).run s).rejected =
        (dropAlone s name).failure?.elim [] Failure.texts := by
      rw [Outcome.rejected, Outcome.failure?, (leaves_dropFullName s name).result]
      rfl
    rw [dropAllAttempts_of_accepted h, List.filterMap_cons, List.filterMap_flatMap]
    simp only [Attempt.rejected?, Outcome.rejected_of_attempts, hone]
    rw [← Failure.textsOfAll_filterMap, Outcome.rejected, Outcome.failure?, hresult]
    split_ifs with hnone
    · rw [hnone]
      rfl
    · rfl

end Tables

/-! ## Calls -/

inductive Call : Type 1
  | table {α : Type} (op : TableOperation α) (name : String)
  | schema {α : Type} (op : SchemaOperation α)

/-- How many of the texts an operation sends were handed in, from the first one on. -/
def TableOperation.handedIn {α : Type} : TableOperation α → Nat
  | insert .. => 1
  | _ => 0

def SchemaOperation.attempts {α : Type} (op : SchemaOperation α) (s : Server) : List Attempt :=
  match op with
  | dropAll => Tables.dropAllAttempts s
  | op => (op.session.run s).attempts

namespace Call

def attempts (s : Server) : Call → List Attempt
  | table op name => ((op.on name).run s).attempts
  | schema op => op.attempts s

/-- What a call sends of its own, which leaves out a text that was handed in. -/
def own (s : Server) : Call → List Attempt
  | table op name => ((op.on name).run s).attempts.drop op.handedIn
  | schema op => op.attempts s

def accepted (s : Server) : Call → List String
  | table op name => ((op.on name).run s).accepted
  | schema op => (op.session.run s).accepted

def rejected (s : Server) : Call → List String
  | table op name => ((op.on name).run s).rejected
  | schema op => (op.session.run s).rejected

variable {s : Server}

theorem accepted_attempts (call : Call) :
    (call.attempts s).filterMap Attempt.accepted? = call.accepted s := by
  cases call with
  | table op name => exact Outcome.accepted_of_attempts _
  | schema op =>
    cases op with
    | dropAll => exact Tables.accepted_dropAllAttempts
    | _ => exact Outcome.accepted_of_attempts _

theorem rejected_attempts (call : Call) :
    (call.attempts s).filterMap Attempt.rejected? = call.rejected s := by
  cases call with
  | table op name => exact Outcome.rejected_of_attempts _
  | schema op =>
    cases op with
    | dropAll => exact Tables.rejected_dropAllAttempts
    | _ => exact Outcome.rejected_of_attempts _

theorem allows_own (call : Call) : s.Allows (call.own s) := by
  cases call with
  | table op name =>
    cases op with
    | create t => exact Tables.careful_create _
    | alter a => exact Tables.careful_alter _
    | drop => exact Tables.careful_drop name
    | dropIfThere => exact Tables.careful_dropIfThere name
    | isThere => exact Tables.careful_isThere name
    | columnNames => exact Tables.careful_columnNames name
    | truncate => exact Tables.careful_truncate name
    | createCounter t => exact AutoIncrement.careful_create _
    | dropCounter => exact AutoIncrement.careful_drop name
    | commentStatements t => exact Comment.careful_statements _
    | comment t => exact Comment.careful_apply _
    | commentTable text => exact Comment.careful_onTable name text
    | insert strategy sql values column =>
      exact InsertId.allows_insert strategy name sql values column
    | columns => exact Inspection.careful_columns name
    | indexes =>
      exact Inspection.careful_askAbout .indexes Inspection.indexesOf name (fun _ => rfl) (by simp)
    | foreignKeys =>
      exact Inspection.careful_askAbout .foreignKeys Inspection.foreignKeysOf name (fun _ => rfl)
        (by simp)
    | constraints =>
      exact Inspection.careful_askAbout .constraints (·.filterMap Inspection.constraintOf?) name
        (fun _ => rfl) (by simp)
  | schema op =>
    cases op with
    | dropAll => exact Tables.allows_dropAllAttempts
    | tables => exact Tables.careful_all
    | primaryKey fullName => exact AutoIncrement.careful_primaryKey fullName
    | dropCounterOf fullName => exact AutoIncrement.careful_dropFor fullName
    | createSequence name first step => exact Sequence.careful_create name first step
    | dropSequence name => exact Sequence.careful_drop name
    | sequenceIsThere name => exact Sequence.careful_isThere name
    | nextValue name => exact Sequence.careful_next name
    | lastValue name => exact Sequence.careful_last name
    | sequences =>
      exact Session.careful_database.bind fun _ =>
        (Session.careful_ask rfl (by simp)).bind fun _ => Session.careful_pure _
    | views => exact (Session.careful_ask rfl (by simp)).bind fun _ => Session.careful_pure _
    | databases => exact (Session.careful_ask rfl (by simp)).bind fun _ => Session.careful_pure _
    | databaseIsThere name =>
      exact (Session.careful_askFirst rfl (by simp)).bind fun _ => Session.careful_pure _

end Call

/-! ## Traces -/

namespace Server

/-- What the calls send of their own, each text with the number of its call. -/
def trace (s : Server) (calls : List Call) : List (Nat × Attempt) :=
  calls.zipIdx.flatMap fun c => (c.1.own s).map (c.2, ·)

variable {s : Server}

/-- What comes before a text in the trace ends with what comes before it in its own call. -/
theorem licenses_of_trace (calls : List Call) : ∀ (start : Nat)
    {earlier later : List (Nat × Attempt)} {i : Nat} {a : Attempt},
    ((calls.zipIdx start).flatMap fun c => (c.1.own s).map (c.2, ·)) =
      earlier ++ (i, a) :: later →
    ∃ before, before.map (i, ·) <:+ earlier ∧ s.Licenses before a.sql := by
  induction calls with
  | nil =>
    intro start earlier later i a h
    simp at h
  | cons call rest ih =>
    intro start earlier later i a h
    rw [List.zipIdx_cons, List.flatMap_cons] at h
    rcases List.append_eq_append_iff.mp h with ⟨more, rfl, hmore⟩ | ⟨more, hown, hmore⟩
    · -- the text is sent by a later call
      obtain ⟨before, hbefore, hlicense⟩ := ih (start + 1) hmore
      exact ⟨before, hbefore.trans (List.suffix_append _ _), hlicense⟩
    · cases more with
      | nil =>
        rw [← List.nil_append ((i, a) :: later)] at hmore
        obtain ⟨before, hbefore, hlicense⟩ := ih (start + 1) hmore.symm
        exact ⟨before, hbefore.trans List.nil_suffix, hlicense⟩
      | cons first more =>
        -- it is sent by this call, behind the part of its own texts that maps to `earlier`
        obtain ⟨rfl, -⟩ := List.cons_eq_cons.mp hmore
        obtain ⟨before, behind, hsplit, rfl, hbehind⟩ := List.map_eq_append_iff.mp hown
        obtain ⟨_, after, rfl, ha, -⟩ := List.map_eq_cons_iff.mp hbehind
        obtain ⟨rfl, rfl⟩ := Prod.mk.inj ha
        exact ⟨before, List.suffix_rfl, call.allows_own before _ after hsplit⟩

end Server

/-- Take any operations in any order on any server, and everything that they send of their own.
What their logs have is what was accepted of it, and what their failures report is what was
rejected. A sequence is dropped and its current value read only right after the probe for that
very sequence in the same call, which found it. A table with a name is dropped only after the
lookup of its key in the same call, with a probe and the drop of a sequence at most between. -/
theorem hazards_are_guarded (s : Server) (calls : List Call) :
    (∀ call ∈ calls, (call.attempts s).filterMap Attempt.accepted? = call.accepted s ∧
      (call.attempts s).filterMap Attempt.rejected? = call.rejected s) ∧
    ∀ earlier i a later, s.trace calls = earlier ++ (i, a) :: later →
      (∀ name, Hazard.read? a.sql = some (.dropSequence name) ∨
          Hazard.read? a.sql = some (.currentValue name) →
        [(i, .accepted (s.probe name))] <:+ earlier ∧ s.answer (s.probe name) ≠ []) ∧
      ∀ table, Hazard.read? a.sql = some (.dropTable table) → table ≠ "" →
        ∃ name between,
          between <+: [s.probe name, (Statement.dropSequence name).sql .standard] ∧
          (s.keyLookup table :: between).map (fun sql => (i, .accepted sql)) <:+ earlier := by
  refine ⟨fun call _ => ⟨call.accepted_attempts, call.rejected_attempts⟩, ?_⟩
  intro earlier i a later h
  obtain ⟨before, hbefore, hlicense⟩ := Server.licenses_of_trace calls 0 h
  have htagged {l : List Attempt} (hl : l <:+ before) : l.map (i, ·) <:+ earlier :=
    (hl.map _).trans hbefore
  unfold Server.Licenses at hlicense
  constructor
  · rintro name (hread | hread)
    · rw [hread] at hlicense
      exact ⟨htagged hlicense.1, hlicense.2⟩
    · rw [hread] at hlicense
      exact ⟨htagged hlicense.1, hlicense.2⟩
  · intro table hread hne
    rw [hread] at hlicense
    obtain ⟨name, between, hbetween, hlookup⟩ := hlicense hne
    have hsuffix := htagged hlookup
    rw [List.map_map] at hsuffix
    exact ⟨name, between, hbetween, hsuffix⟩

end SqlSchema
