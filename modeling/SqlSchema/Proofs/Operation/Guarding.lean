import SqlSchema.Proofs.Operation.DropAll
import SqlSchema.Proofs.Operation.Attempts

/-!
# Hazardous texts are guarded

Every operation is careful. The texts that an operation writes for itself are harmless but for
three: the drop of a sequence, the reading of its value and the drop of a table. Each of these
is sent from one place only, right behind what licenses it.
-/

namespace SqlSchema

variable {α : Type} {s : Server}

open Session

/-! ## Harmless texts -/

theorem Statement.checkedSql_eq {u : Statement} {d : Dialect} {sql : String}
    (h : u.checkedSql d = .ok sql) : sql = u.sql d := by
  unfold checkedSql checkSequence at h
  split at h
  · split at h <;> cases h
    rfl
  · cases h
    rfl

theorem Query.checkedSql_eq {q : Query} {d : Dialect} {sql : String}
    (h : q.checkedSql d = .ok sql) : sql = q.sql d := by
  unfold checkedSql Statement.checkSequence at h
  split at h
  · split at h <;> cases h
    rfl
  · cases h
    rfl

theorem Server.allows_send_harmless {sql : String} (h : Hazard.read? sql = none) :
    s.Allows (s.send [sql]) := by
  rw [← List.nil_append [sql]]
  exact Server.allows_nil.send_concat fun _ => Server.licenses_of_harmless h _

theorem Session.careful_perform {u : Statement} (h : u.hazard? = none) : (perform u).Careful s := by
  rw [perform]
  cases hsql : u.checkedSql .standard with
  | error e => exact careful_ofDialect (.error e)
  | ok sql =>
    have hread : Hazard.read? sql = none := by
      rw [Statement.checkedSql_eq hsql, Hazard.read?_statement, h]
    exact (sends_execute sql []).careful (Server.allows_send_harmless hread)

theorem Session.careful_performAll : ∀ {l : List Statement}, (∀ u ∈ l, u.hazard? = none) →
    (performAll l).Careful s
  | [], _ => careful_pure ()
  | u :: _, h => (careful_perform (h u List.mem_cons_self)).bind fun _ =>
      careful_performAll fun v hv => h v (List.mem_cons_of_mem u hv)

theorem Session.careful_ask {q : Query} (hq : q.hazard? = none) (hnext : ∀ name, q ≠ .nextOf name) :
    (ask q).Careful s := by
  rw [ask]
  cases hsql : q.checkedSql .standard with
  | error e => exact careful_ofDialect (.error e)
  | ok sql =>
    have hread : Hazard.read? sql = none := by
      rw [Query.checkedSql_eq hsql, Hazard.read?_query hnext, hq]
    exact (sends_select sql).careful (Server.allows_send_harmless hread)

theorem Session.careful_askFirst {q : Query} (hq : q.hazard? = none)
    (hnext : ∀ name, q ≠ .nextOf name) : (askFirst q).Careful s :=
  (careful_ask hq hnext).bind fun _ => careful_pure _

theorem Table.hazard?_of_mem_statements {t : Table} {u : Statement} (h : u ∈ t.statements) :
    u.hazard? = none := by
  rcases Table.of_mem_statements h with rfl | ⟨i, -, rfl⟩
  · rfl
  · rfl

theorem Table.hazard?_of_mem_commentStatements {t : Table} {fullName : String} {u : Statement}
    (h : u ∈ t.commentStatements fullName) : u.hazard? = none := by
  rcases Table.of_mem_commentStatements h with ⟨comment, rfl⟩ | ⟨column, comment, rfl⟩
  · rfl
  · rfl

theorem Alteration.hazard?_of_mem_statements {a : Alteration} {l : List Statement}
    (h : a.statements = .ok l) {u : Statement} (hu : u ∈ l) : u.hazard? = none := by
  obtain ⟨c, -, rfl | ⟨comment, rfl⟩⟩ := Alteration.of_mem_statements h hu
  · rfl
  · rfl

/-! ## The three places -/

namespace Server

theorem probe_harmless (s : Server) (name : String) : Hazard.read? (s.probe name) = none :=
  Hazard.read?_query fun _ => by simp

theorem keyLookup_harmless (s : Server) (table : String) :
    Hazard.read? (s.keyLookup table) = none :=
  Hazard.read?_query fun _ => by simp

theorem allows_probe (s : Server) (name : String) : s.Allows (s.send [s.probe name]) :=
  allows_send_harmless (s.probe_harmless name)

/-- What is done with a sequence that the probe found. -/
theorem allows_use {name sql : String} (hthere : s.hasSequence name = true)
    (h : Hazard.read? sql = some (.dropSequence name) ∨
      Hazard.read? sql = some (.currentValue name)) :
    s.Allows (s.send [s.probe name, sql]) := by
  have hsplit : [s.probe name, sql] = [s.probe name] ++ [sql] := rfl
  rw [hsplit]
  refine (s.allows_probe name).send_concat fun _ => ?_
  have hlicense : [.accepted (s.probe name)] <:+ [Attempt.accepted (s.probe name)] ∧
      s.answer (s.probe name) ≠ [] := ⟨List.suffix_rfl, hasSequence_iff.mp hthere⟩
  rcases h with h | h
  · rw [Licenses, h]
    exact hlicense
  · rw [Licenses, h]
    exact hlicense

theorem allows_dropSequencePath (s : Server) (name : String) :
    s.Allows (s.send ((s.dropSequencePath name).filterMap Event.text?)) := by
  rw [dropSequencePath]
  cases h : s.hasSequence name with
  | true => exact allows_use h (.inl (Hazard.read?_statement (.dropSequence name)))
  | false => exact s.allows_probe name

theorem allows_readSequencePath (s : Server) (name : String) :
    s.Allows (s.send ((s.readSequencePath name).filterMap Event.text?)) := by
  rw [readSequencePath]
  cases h : s.hasSequence name with
  | true =>
    exact allows_use h (.inr (Hazard.read?_query (q := .sequenceValue name .current) (by simp)))
  | false => exact s.allows_probe name

/-- The texts between the lookup of a key and the drop of its table. -/
theorem allows_dropCounterPath (s : Server) (fullName : String) :
    s.Allows (s.send ((s.keyPath fullName ++ (s.key? fullName).elim [] fun column =>
      s.dropSequencePath (Name.ofSequence fullName column)).filterMap Event.text?)) := by
  have hkey : s.Allows (s.send ((s.keyPath fullName).filterMap Event.text?)) := by
    rw [keyPath]
    split
    · exact allows_nil
    · exact allows_send_harmless (s.keyLookup_harmless fullName)
  rw [List.filterMap_append]
  refine hkey.send_append ?_
  cases s.key? fullName with
  | none => exact allows_nil
  | some column => exact s.allows_dropSequencePath _

theorem text?_dropSequencePath (s : Server) (name : String) :
    (s.dropSequencePath name).filterMap Event.text? <+:
      [s.probe name, (Statement.dropSequence name).sql .standard] := by
  rw [dropSequencePath]
  cases s.hasSequence name with
  | true => exact List.prefix_rfl
  | false => exact List.prefix_append _ _

theorem allows_dropPath (s : Server) (fullName : String) :
    s.Allows (s.send ((s.dropPath fullName).filterMap Event.text?)) := by
  rw [dropPath, List.filterMap_append]
  refine (s.allows_dropCounterPath fullName).send_concat fun _ => ?_
  rw [Licenses, Hazard.read?_statement]
  intro hne
  -- the lookup comes first on the path of a table with a name; what follows is for its sequence
  rw [List.filterMap_append, keyPath, if_neg hne]
  cases s.key? fullName with
  | none => exact ⟨"", [], List.nil_prefix, List.suffix_rfl⟩
  | some column => exact ⟨_, _, s.text?_dropSequencePath _, List.suffix_rfl⟩

end Server

/-! ## Full names -/

theorem Sequence.careful_create (name : String) (first step : Int64) :
    (Sequence.create name first step).Careful s := by
  unfold Sequence.create
  split
  · exact (careful_note _ _ _).bind fun _ => careful_pure false
  · exact (careful_note _ _ _).bind fun _ => (careful_perform rfl).bind fun _ => careful_pure true

theorem Sequence.careful_isThere (name : String) : (isThere name).Careful s :=
  (takes_isThere name).sends.careful (s.allows_probe name)

theorem Sequence.careful_drop (name : String) : (Sequence.drop name).Careful s := by
  by_cases h : name = ""
  · rw [Sequence.drop, if_pos h]
    exact (takes_notThere name).sends.careful Server.allows_nil
  · exact (takes_drop h).sends.careful (s.allows_dropSequencePath name)

theorem Sequence.sends_read {name : String} (h : name ≠ "") (which : SequenceValue) :
    (read name which).Sends s [(Query.sequenceValue name which).sql .standard] := by
  have hc : (Query.sequenceValue name which).checkedSql .standard =
      .ok ((Query.sequenceValue name which).sql .standard) := by
    simp [Query.checkedSql, Statement.checkSequence, h, Except.map]
  have hok : ofDialect (.ok ((Query.sequenceValue name which).sql .standard)) =
      pure ((Query.sequenceValue name which).sql .standard) := rfl
  rw [read, hc, hok, pure_bind]
  refine (takes_selectFirst _).sends_bind ?_
  split
  · rfl
  · rfl

theorem Sequence.careful_next (name : String) : (Sequence.next name).Careful s := by
  unfold Sequence.next
  split
  · exact careful_pure 0
  · next h =>
    exact (sends_read h .next).careful
      (Server.allows_send_harmless (Hazard.read?_query (by simp)))

theorem Sequence.careful_last (name : String) : (Sequence.last name).Careful s := by
  by_cases h : name = ""
  · rw [Sequence.last, if_pos h]
    exact careful_pure 0
  · have hlast : (Sequence.last name).Sends s
        ((s.readSequencePath name).filterMap Event.text?) := by
      rw [Sequence.last, if_neg h, Server.readSequencePath]
      cases hthere : s.hasSequence name with
      | true =>
        refine (takes_isThere name).sends_bind ?_
        rw [hthere]
        exact sends_read h .current
      | false =>
        refine (takes_isThere name).sends_bind ?_
        rw [hthere]
        rfl
    exact hlast.careful (s.allows_readSequencePath name)

theorem AutoIncrement.careful_primaryKey (fullName : String) : (primaryKey fullName).Careful s := by
  unfold primaryKey
  split
  · exact careful_pure none
  · exact careful_database.bind fun _ => (careful_askFirst rfl (by simp)).bind fun _ =>
      careful_pure _

theorem AutoIncrement.careful_dropFor (fullName : String) : (dropFor fullName).Careful s := by
  obtain ⟨dropped, hdrop⟩ := takes_dropFor (s := s) fullName
  exact hdrop.sends.careful (s.allows_dropCounterPath fullName)

theorem Tables.careful_dropFullName (fullName : String) : (dropFullName fullName).Careful s :=
  (takes_dropFullName fullName).sends.careful (s.allows_dropPath fullName)

theorem Tables.careful_all : Tables.all.Careful s :=
  (careful_ask rfl (by simp)).bind fun _ => careful_pure _

/-! ## Tables under a prefix -/

theorem Comment.careful_statements (t : Table) : (Comment.statements t).Careful s :=
  (careful_fullName _).bind fun _ => careful_pure _

theorem Comment.careful_applyEach (table : String) : ∀ {l : List Statement},
    (∀ u ∈ l, u.hazard? = none) → (applyEach table l).Careful s
  | [], _ => careful_pure ()
  | u :: _, h => (careful_note _ _ _).bind fun _ =>
      (careful_perform (h u List.mem_cons_self)).bind fun _ =>
        careful_applyEach table fun v hv => h v (List.mem_cons_of_mem u hv)

theorem Comment.careful_apply (t : Table) : (Comment.apply t).Careful s := by
  have happly : Comment.apply t = fullName t.name >>= fun name =>
      applyEach t.name (t.commentStatements name) >>= fun _ =>
        pure (t.commentStatements name).length := by
    rw [Comment.apply, Comment.statements, bind_assoc]
    simp only [pure_bind]
  rw [happly]
  exact (careful_fullName _).bind fun name =>
    (careful_applyEach t.name fun u hu => Table.hazard?_of_mem_commentStatements hu).bind
      fun _ => careful_pure _

theorem Comment.careful_onTable (table comment : String) : (onTable table comment).Careful s :=
  (careful_fullName _).bind fun _ => careful_perform rfl

theorem AutoIncrement.careful_create (t : Table) : (AutoIncrement.create t).Careful s := by
  unfold AutoIncrement.create
  split
  · exact (careful_note _ _ _).bind fun _ => careful_pure none
  · exact (careful_fullName _).bind fun _ => (careful_note _ _ _).bind fun _ =>
      (Sequence.careful_create _ _ _).bind fun _ => (careful_perform rfl).bind fun _ =>
        careful_pure _

theorem AutoIncrement.careful_drop (table : String) : (AutoIncrement.drop table).Careful s :=
  (careful_fullName _).bind fun fullName => careful_dropFor fullName

theorem Tables.careful_create (t : Table) : (Tables.create t).Careful s :=
  (careful_fullName _).bind fun _ => (careful_note _ _ _).bind fun _ =>
    (careful_performAll fun _ hu => Table.hazard?_of_mem_statements hu).bind fun _ =>
      (Comment.careful_apply t).bind fun _ => (AutoIncrement.careful_create t).bind fun _ =>
        careful_pure ()

theorem Tables.careful_alter (a : Alteration) : (Tables.alter a).Careful s := by
  refine (careful_fullName _).bind fun fullName => ?_
  cases h : { a with name := fullName }.statements with
  | error e => exact careful_ofDialect (.error e)
  | ok l =>
    have hok : ofDialect (.ok l) = pure l := rfl
    rw [hok, pure_bind]
    refine (careful_note _ _ _).bind fun _ =>
      (careful_performAll fun u hu => Alteration.hazard?_of_mem_statements h hu).bind fun _ => ?_
    split
    · exact Comment.careful_onTable _ _
    · exact careful_pure ()

theorem Tables.careful_drop (table : String) : (Tables.drop table).Careful s :=
  (careful_fullName _).bind fun fullName => careful_dropFullName fullName

theorem Tables.careful_isThere (table : String) : (Tables.isThere table).Careful s :=
  careful_database.bind fun _ => (careful_fullName _).bind fun _ =>
    (careful_ask rfl (by simp)).bind fun _ => careful_pure _

theorem Tables.careful_dropIfThere (table : String) : (dropIfThere table).Careful s := by
  refine (careful_isThere table).bind fun there => ?_
  split
  · exact (careful_drop table).bind fun _ => careful_pure true
  · exact (careful_note _ _ _).bind fun _ => careful_pure false

theorem Tables.careful_columnNames (table : String) : (Tables.columnNames table).Careful s :=
  careful_database.bind fun _ => (careful_fullName _).bind fun _ =>
    (careful_ask rfl (by simp)).bind fun _ => careful_pure _

theorem Tables.careful_truncate (table : String) : (truncate table).Careful s :=
  (careful_fullName _).bind fun _ => careful_perform rfl

theorem Inspection.careful_columns (table : String) : (Inspection.columns table).Careful s :=
  (careful_fullName _).bind fun _ => careful_database.bind fun _ =>
    (careful_ask rfl (by simp)).bind fun _ => (careful_note _ _ _).bind fun _ => careful_pure _

theorem Inspection.careful_askAbout (q : String → Query) (f : List Row → α) (table : String)
    (hq : ∀ name, (q name).hazard? = none) (hnext : ∀ name other, q name ≠ .nextOf other) :
    (fullName table >>= fun name => ask (q name) >>= fun rows => pure (f rows)).Careful s :=
  (careful_fullName _).bind fun name => (careful_ask (hq name) (hnext name)).bind fun _ =>
    careful_pure _

/-- Behind the text that is handed in, an insertion sends at most a probe and the reading of
what it found. -/
theorem InsertId.allows_insert (strategy : InsertIdStrategy) (table sql : String)
    (values : List Datum) (column : Option String) :
    s.Allows ((((insert strategy table sql values column).run s).attempts).drop 1) := by
  unfold InsertId.insert
  cases h : s.rejection? sql with
  | some message =>
    rw [attempts_bind_error (run_execute_rejected h), run_execute_rejected h]
    exact Server.allows_nil
  | none =>
    rw [attempts_bind_ok (run_execute_accepted h), run_execute_accepted h]
    change Session.Careful _ s
    cases column with
    | none => exact careful_pure 0
    | some column =>
      dsimp only
      split
      · exact (careful_note _ _ _).bind fun _ => careful_pure _
      · exact (careful_fullName table).bind fun _ => Sequence.careful_last _

end SqlSchema
