import SqlSchema.Proofs.Operation.SequencePath
import SqlSchema.Proofs.Sql.Name
import SqlSchema.Proofs.Sql.SequenceUse

/-!
# One name for the sequence of a table

Creating a table, inserting into it and dropping it each find the name of its sequence for
themselves. What they do with a sequence is read from the texts that pass, where a name stands
now as a name and now as a literal.
-/

namespace SqlSchema

open SequenceUse

def Event.use? (e : Event) : Option SequenceUse := e.text?.bind read?

namespace Table

theorem read?_of_mem_statements {t : Table} {u : Statement} (h : u ∈ t.statements) :
    read? (u.sql .standard) = none := by
  rcases Table.of_mem_statements h with rfl | ⟨i, -, rfl⟩
  · exact read?_createTable t
  · exact read?_createIndex t.name i

theorem read?_of_mem_commentStatements {t : Table} {fullName : String} {u : Statement}
    (h : u ∈ t.commentStatements fullName) : read? (u.sql .standard) = none := by
  rcases Table.of_mem_commentStatements h with ⟨comment, rfl⟩ | ⟨column, comment, rfl⟩
  · exact read?_comment (.inl ⟨fullName, comment, rfl⟩)
  · exact read?_comment (.inr ⟨fullName, column, comment, rfl⟩)

theorem uses_eq_nil {l : List Statement} (h : ∀ u ∈ l, read? (u.sql .standard) = none) :
    (l.map (Statement.sql .standard)).filterMap read? = [] := by
  rw [List.filterMap_eq_nil_iff]
  intro sql hsql
  obtain ⟨u, hu, rfl⟩ := List.mem_map.mp hsql
  exact h u hu

theorem uses_creationPlan {t : Table} {c : Column} (hc : t.autoIncrementColumn? = some c)
    (tablePrefix : String) :
    (t.creationPlan tablePrefix).filterMap read? =
      [.create (Name.ofSequence (tablePrefix ++ t.name) c.name),
        .bind (tablePrefix ++ t.name) c.name (Name.ofSequence (tablePrefix ++ t.name) c.name)] := by
  have htable := uses_eq_nil (l := { t with name := tablePrefix ++ t.name }.statements)
    fun u hu => read?_of_mem_statements hu
  have hcomments := uses_eq_nil (l := t.commentStatements (tablePrefix ++ t.name))
    fun u hu => read?_of_mem_commentStatements hu
  rw [creationPlan, List.map_append, List.map_append, List.filterMap_append,
    List.filterMap_append, htable, hcomments]
  rw [autoIncrementColumn?] at hc
  simp [countingStatements, hc, read?_createSequence, read?_bindSequence]

end Table

namespace Server

variable {s : Server}

theorem uses_readSequencePath (name : String) :
    (s.readSequencePath name).filterMap Event.use? =
      .probe (Text.upper s.database) name ::
        if s.hasSequence name then [.value name .current] else [] := by
  have hprobe := read?_sequenceExists s.database name
  have hvalue := read?_sequenceValue name .current
  cases hthere : s.hasSequence name with
  | true => simp [readSequencePath, hthere, Event.use?, Event.text?, probe, hprobe, hvalue]
  | false => simp [readSequencePath, hthere, Event.use?, Event.text?, probe, hprobe]

theorem uses_dropSequencePath (name : String) :
    (s.dropSequencePath name).filterMap Event.use? =
      .probe (Text.upper s.database) name :: if s.hasSequence name then [.drop name] else [] := by
  have hprobe := read?_sequenceExists s.database name
  have hdrop := read?_dropSequence name
  cases hthere : s.hasSequence name with
  | true => simp [dropSequencePath, hthere, Event.use?, Event.text?, probe, hprobe, hdrop]
  | false => simp [dropSequencePath, hthere, Event.use?, Event.text?, probe, hprobe]

theorem uses_keyPath (fullName : String) : (s.keyPath fullName).filterMap Event.use? = [] := by
  have hlookup := read?_primaryKey s.database fullName
  by_cases h : fullName = ""
  · simp [keyPath, h]
  · simp [keyPath, h, Event.use?, Event.text?, keyLookup, hlookup]

theorem uses_dropPath {fullName column : String} (hk : s.key? fullName = some column) :
    (s.dropPath fullName).filterMap Event.use? =
      .probe (Text.upper s.database) (Name.ofSequence fullName column) ::
        if s.hasSequence (Name.ofSequence fullName column) then
          [.drop (Name.ofSequence fullName column)] else [] := by
  have htable : [Event.statement ((Statement.dropTable fullName).sql .standard) []].filterMap
      Event.use? = [] := by
    simp [Event.use?, Event.text?, read?_dropTable]
  rw [dropPath, hk, Option.elim_some, List.filterMap_append, List.filterMap_append, uses_keyPath,
    uses_dropSequencePath, htable, List.nil_append, List.append_nil]

end Server

/-- Where a column counts, the sequence that is created and bound with the table, the one that
an insertion probes for and reads, and the one that dropping the table probes for and drops,
are of one name. It is never empty, has at most 30 characters and starts the full name. -/
theorem sequence_name_agrees {t : Table} {c : Column} (hc : t.autoIncrementColumn? = some c)
    (s : Server) : ∃ name, name = Name.ofSequence (s.fullName t.name) c.name ∧
      1 ≤ name.length ∧ name.length ≤ 30 ∧
      name.toList <+: (s.tablePrefix ++ t.name ++ "_" ++ c.name ++ "_seq").toList ∧
      (Tables.create t).Follows s (t.creationPlan s.tablePrefix) ∧
      (t.creationPlan s.tablePrefix).filterMap read? =
        [.create name, .bind (s.fullName t.name) c.name name] ∧
      (∀ strategy sql values, InsertId.boundId? strategy sql values c.name = none →
        (∃ r, (InsertId.insert strategy t.name sql values (some c.name)).Takes s
          (.statement sql values :: s.readSequencePath name) r) ∧
        (s.readSequencePath name).filterMap Event.use? =
          .probe (Text.upper s.database) name ::
            if s.hasSequence name then [.value name .current] else []) ∧
      (s.key? (s.fullName t.name) = some c.name →
        (Tables.drop t.name).Takes s (s.dropPath (s.fullName t.name)) (.ok ()) ∧
        (s.dropPath (s.fullName t.name)).filterMap Event.use? =
          .probe (Text.upper s.database) name ::
            if s.hasSequence name then [.drop name] else []) := by
  refine ⟨Name.ofSequence (s.fullName t.name) c.name, rfl, Name.length_ofSequence_pos _ _,
    Name.length_ofSequence_le _ _, Name.ofSequence_isPrefix _ _, Tables.follows_create t,
    Table.uses_creationPlan hc s.tablePrefix, ?_, ?_⟩
  · intro strategy sql values hbound
    exact ⟨InsertId.takes_insert hbound t.name, Server.uses_readSequencePath _⟩
  · intro hk
    exact ⟨Tables.takes_drop t.name, Server.uses_dropPath hk⟩

theorem sequence_name_agrees_cut :
    let t : Table := {
      name := "Zähler'stände\"je_Wohnung"
      columns := [{ name := "lfd_Nr", type := .bigInt, primaryKey := true, autoIncrement := true }] }
    let s : Server := {
      database := "app"
      tablePrefix := "p_"
      rejection? := fun _ => none
      answer := fun _ => [⟨[("COLUMN_NAME", .text "lfd_Nr")], List.pairwise_singleton _ _⟩] }
    let name := "p_Zähler'stände\"je_Wohnung_lfd"
    (t.creationPlan "p_").filterMap read? =
        [.create name, .bind "p_Zähler'stände\"je_Wohnung" "lfd_Nr" name] ∧
      (s.readSequencePath name).filterMap Event.use? =
        [.probe (Text.upper "app") name, .value name .current] ∧
      (s.dropPath "p_Zähler'stände\"je_Wohnung").filterMap Event.use? =
        [.probe (Text.upper "app") name, .drop name] := by
  intro t s name
  obtain ⟨name', hname, -, -, -, -, hcreated, hread, hdropped⟩ :=
    sequence_name_agrees (t := t) rfl s
  obtain rfl : name' = name := hname.trans (by decide)
  have hbound : InsertId.boundId? .sequenceOnly "INSERT" [] "lfd_Nr" = none := rfl
  exact ⟨hcreated, (hread _ _ _ hbound).2, (hdropped (by decide)).2⟩

end SqlSchema
