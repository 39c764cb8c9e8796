import SqlSchema.Proofs.Operation.SequenceName

/-!
# The life of a sequence

On a server that keeps its sequences, one is there if it was created and not dropped since.
Creating a table makes the sequence of the column that counts. Dropping the table finds a
sequence again through the first column of the key, which need not be that column.
-/

namespace SqlSchema

open SequenceUse

/-- Whether a sequence is there after a use of some sequence. -/
def SequenceUse.standsAfter (name : String) (there : Bool) : SequenceUse → Bool
  | create other => there || other == name
  | drop other => there && other != name
  | _ => there

/-- Whether a sequence was created by the texts and not dropped since. -/
def SequenceUse.stands (name : String) (texts : List String) : Bool :=
  (texts.filterMap read?).foldl (standsAfter name) false

/-- A server, by the texts that it has executed, whose sequences are those that stand. -/
structure KeepsSequences (server : List String → Server) (tablePrefix : String) : Prop where
  tablePrefix : ∀ texts, (server texts).tablePrefix = tablePrefix
  hasSequence : ∀ texts name, (server texts).hasSequence name = stands name texts

theorem SequenceUse.stands_append {name : String} {history texts : List String}
    (h : stands name history = true) (hd : .drop name ∉ texts.filterMap read?) :
    stands name (history ++ texts) = true := by
  rw [stands, List.filterMap_append, List.foldl_append]
  rw [stands] at h
  rw [h]
  generalize texts.filterMap read? = uses at hd
  induction uses with
  | nil => rfl
  | cons u uses ih =>
    obtain ⟨hu, huses⟩ := not_or.mp (List.mem_cons.not.mp hd)
    have hstep : standsAfter name true u = true := by
      cases u with
      | drop other =>
        have hne : other ≠ name := fun e => hu (congrArg drop e.symm)
        simp [standsAfter, hne]
      | _ => rfl
    rw [List.foldl_cons, hstep]
    exact ih huses

theorem SequenceUse.stands_created (history : List String) {name table column : String}
    {texts : List String} (h : texts.filterMap read? = [.create name, .bind table column name]) :
    stands name (history ++ texts) = true := by
  rw [stands, List.filterMap_append, List.foldl_append, h]
  simp [standsAfter]

/-! ## Sequences dropped on the way -/

namespace Server

variable {s : Server}

theorem statements_dropSequencePath (name : String) :
    (s.dropSequencePath name).filterMap Event.statement? =
      if s.hasSequence name then [(Statement.dropSequence name).sql .standard] else [] := by
  unfold dropSequencePath
  split <;> rfl

theorem statements_keyPath (fullName : String) :
    (s.keyPath fullName).filterMap Event.statement? = [] := by
  unfold keyPath
  split <;> rfl

theorem drops_dropPath (fullName : String) :
    ((s.dropPath fullName).filterMap Event.statement?).filterMap read? =
      (s.key? fullName).elim [] fun column =>
        if s.hasSequence (Name.ofSequence fullName column) then
          [.drop (Name.ofSequence fullName column)] else [] := by
  have htable : [Event.statement ((Statement.dropTable fullName).sql .standard) []].filterMap
      Event.statement? = [(Statement.dropTable fullName).sql .standard] := rfl
  simp only [dropPath, List.filterMap_append, statements_keyPath, htable, List.nil_append]
  cases s.key? fullName with
  | none => simp [read?_dropTable]
  | some column =>
    rw [Option.elim_some, Option.elim_some, statements_dropSequencePath]
    split <;> simp [read?_dropTable, read?_dropSequence]

theorem mem_drops_iff {fullName name : String} :
    .drop name ∈ ((s.dropPath fullName).filterMap Event.statement?).filterMap read? ↔
      ∃ column, s.key? fullName = some column ∧ Name.ofSequence fullName column = name ∧
        s.hasSequence name = true := by
  rw [drops_dropPath]
  cases s.key? fullName with
  | none => simp
  | some column =>
    rw [Option.elim_some]
    constructor
    · intro h
      split at h
      · cases List.mem_singleton.mp h
        exact ⟨column, rfl, rfl, ‹_›⟩
      · cases h
    · rintro ⟨other, ho, rfl, hthere⟩
      cases ho
      simp [hthere]

theorem key?_of_rows {fullName : String} {names : List String}
    (h : (s.answer (s.keyLookup fullName)).map (·.text? "COLUMN_NAME") = names.map some) :
    s.key? fullName = if fullName = "" then none else names.head?.filter (· ≠ "") := by
  rw [key?]
  split
  · rfl
  · cases hrows : s.answer (s.keyLookup fullName) with
    | nil =>
      rw [hrows] at h
      rw [List.map_eq_nil_iff.mp h.symm]
      rfl
    | cons row rows =>
      rw [hrows] at h
      obtain ⟨name, names', rfl, hname, -⟩ := List.map_eq_cons_iff.mp h.symm
      simp [AutoIncrement.keyColumn?, ← hname]

end Server

namespace Tables

variable {s : Server}

theorem uses_create {t : Table} {c : Column} (hc : t.autoIncrementColumn? = some c)
    (h : ((create t).run s).result = .ok ()) :
    ((create t).run s).executed.filterMap read? =
      [.create (Name.ofSequence (s.fullName t.name) c.name),
        .bind (s.fullName t.name) c.name (Name.ofSequence (s.fullName t.name) c.name)] := by
  rw [(follows_create t).executes_all h]
  exact Table.uses_creationPlan hc s.tablePrefix

/-- What a drop does with sequences is at most what stands on its path. -/
theorem mem_drops_of_run {table name : String}
    (h : .drop name ∈ ((drop table).run s).executed.filterMap read?) :
    ∃ column, s.key? (s.fullName table) = some column ∧
      Name.ofSequence (s.fullName table) column = name := by
  have hsub := ((takes_drop (s := s) table).executed_sublist.filterMap read?).mem h
  obtain ⟨column, hk, hname, -⟩ := Server.mem_drops_iff.mp hsub
  exact ⟨column, hk, hname⟩

theorem mem_drops_iff {table name : String} (h : ((drop table).run s).result = .ok ()) :
    .drop name ∈ ((drop table).run s).executed.filterMap read? ↔
      ∃ column, s.key? (s.fullName table) = some column ∧
        Name.ofSequence (s.fullName table) column = name ∧ s.hasSequence name = true := by
  rw [Outcome.executed_eq_exchanges, ((takes_drop table).passes_all h).2]
  exact Server.mem_drops_iff

end Tables

/-! ## A server that keeps sequences -/

/-- It rejects nothing, and every table has the same key. -/
def Server.keeping (database tablePrefix : String) (key texts : List String) : Server where
  database := database
  tablePrefix := tablePrefix
  rejection? _ := none
  answer sql :=
    match read? sql with
    | some (.probe _ name) => if stands name texts then [Row.ofList []] else []
    | _ => key.map fun column => Row.ofList [("COLUMN_NAME", .text column)]

theorem Server.passes_keeping (database tablePrefix : String) (key texts : List String)
    (e : Event) : e.passes (keeping database tablePrefix key texts) = true := by
  cases e <;> rfl

theorem keepsSequences_keeping (database tablePrefix : String) (key : List String) :
    KeepsSequences (Server.keeping database tablePrefix key) tablePrefix := by
  refine ⟨fun _ => rfl, fun texts name => ?_⟩
  have hprobe := read?_sequenceExists database name
  cases hstands : stands name texts with
  | true => simp [Server.hasSequence, Server.probe, Server.keeping, hprobe, hstands]
  | false => simp [Server.hasSequence, Server.probe, Server.keeping, hprobe, hstands]

theorem Server.keyRows_keeping (database tablePrefix : String) (key texts : List String)
    (fullName : String) :
    ((keeping database tablePrefix key texts).answer
      ((keeping database tablePrefix key texts).keyLookup fullName)).map (·.text? "COLUMN_NAME") =
        key.map some := by
  have hlookup := read?_primaryKey database fullName
  have hrow (column : String) :
      (Row.ofList [("COLUMN_NAME", .text column)]).text? "COLUMN_NAME" = some column := by
    simp [Row.text?, Row.get?, Row.ofList, Row.set, Row.setIn, Text.sameIgnoringCase_refl,
      Datum.asText?]
  simp [keyLookup, keeping, hlookup, hrow]

/-! ## Creating a table and dropping it -/

/-- Creating a table and then dropping it, where nothing on the way is rejected, on a server that
keeps its sequences and answers the columns of the key. Both come to an end, and the sequence that
was created is dropped exactly if the first column of the key gives its name. -/
theorem drop_finds_sequence_iff {server : List String → Server} {tablePrefix : String}
    (hs : KeepsSequences server tablePrefix) (history : List String) {t : Table} {c : Column}
    (hc : t.autoIncrementColumn? = some c) {created dropped : Outcome Unit} {after : Server}
    (hcreated : created = (Tables.create t).run (server history))
    (hafter : after = server (history ++ created.executed))
    (hdropped : dropped = (Tables.drop t.name).run after)
    (hplan : ∀ sql ∈ t.creationPlan tablePrefix, (server history).accepts sql = true)
    (hpath : ∀ e ∈ after.dropPath (tablePrefix ++ t.name), e.passes after = true)
    (hkey : (after.answer (after.keyLookup (tablePrefix ++ t.name))).map (·.text? "COLUMN_NAME") =
      t.primaryKey.map some) :
    created.result = .ok () ∧ dropped.result = .ok () ∧
    ∃ name, name = Name.ofSequence (tablePrefix ++ t.name) c.name ∧
      created.executed.filterMap read? =
        [.create name, .bind (tablePrefix ++ t.name) c.name name] ∧
      (.drop name ∈ dropped.executed.filterMap read? ↔
        tablePrefix ++ t.name ≠ "" ∧ ∃ column, t.primaryKey.head? = some column ∧ column ≠ "" ∧
          Name.ofSequence (tablePrefix ++ t.name) column = name) := by
  subst hdropped hafter hcreated
  have hfullName (texts : List String) :
      (server texts).fullName t.name = tablePrefix ++ t.name := by
    rw [Server.fullName, hs.tablePrefix]
  rw [← hs.tablePrefix history] at hplan
  have hcreate := (Tables.follows_create t).of_accepted hplan
  rw [← hfullName] at hpath
  have hdrop := (Tables.takes_drop t.name).of_accepted hpath
  have huses := Tables.uses_create hc hcreate
  rw [hfullName] at huses
  have hstands := (hs.hasSequence _ _).trans (stands_created history huses)
  refine ⟨hcreate, hdrop, _, rfl, huses, ?_⟩
  rw [Tables.mem_drops_iff hdrop, hfullName, Server.key?_of_rows hkey]
  constructor
  · rintro ⟨column, hcolumn, hname, -⟩
    split at hcolumn
    · cases hcolumn
    · obtain ⟨hhead, hne⟩ := Option.filter_eq_some_iff.mp hcolumn
      exact ⟨‹_›, column, hhead, by simpa using hne, hname⟩
  · rintro ⟨hfull, column, hhead, hne, hname⟩
    refine ⟨column, ?_, hname, hstands⟩
    rw [if_neg hfull, hhead]
    simp [hne]

theorem drop_finds_sequence_iff_first :
    let t : Table := {
      name := "o'rder\""
      columns := [{ name := "id", type := .bigInt, primaryKey := true, autoIncrement := true },
        { name := "tenant", type := .integer, primaryKey := true }] }
    let server := Server.keeping "app" "p_" t.primaryKey
    let created := (Tables.create t).run (server [])
    let dropped := (Tables.drop t.name).run (server ([] ++ created.executed))
    created.result = .ok () ∧ dropped.result = .ok () ∧
      .create "p_o'rder\"_id_seq" ∈ created.executed.filterMap read? ∧
      .drop "p_o'rder\"_id_seq" ∈ dropped.executed.filterMap read? := by
  intro t server created dropped
  obtain ⟨hcreate, hdrop, name, hname, huses, hiff⟩ := drop_finds_sequence_iff
    (keepsSequences_keeping "app" "p_" t.primaryKey) [] rfl rfl rfl rfl (fun _ _ => rfl)
    (fun _ _ => Server.passes_keeping _ _ _ _ _)
    (Server.keyRows_keeping "app" "p_" t.primaryKey _ _)
  obtain rfl : name = "p_o'rder\"_id_seq" := hname.trans (by decide)
  refine ⟨hcreate, hdrop, ?_, hiff.mpr ⟨by decide, "id", rfl, by decide, by decide⟩⟩
  rw [huses]
  exact List.mem_cons_self

/-- The first column of the key is not the one that counts: its sequence is left behind. -/
theorem sequence_outlives_table :
    let t : Table := {
      name := "orders"
      columns := [{ name := "tenant", type := .integer, primaryKey := true },
        { name := "id", type := .bigInt, primaryKey := true, autoIncrement := true }] }
    let server := Server.keeping "app" "" t.primaryKey
    let created := (Tables.create t).run (server [])
    let after := server created.executed
    let dropped := (Tables.drop t.name).run after
    KeepsSequences server "" ∧ t.primaryKey = ["tenant", "id"] ∧
      (t.autoIncrementColumn?.map (·.name)) = some "id" ∧
      (after.answer (after.keyLookup t.name)).map (·.text? "COLUMN_NAME") = t.primaryKey.map some ∧
      created.result = .ok () ∧ dropped.result = .ok () ∧
      .create "orders_id_seq" ∈ created.executed.filterMap read? ∧
      .drop "orders_id_seq" ∉ dropped.executed.filterMap read? ∧
      stands "orders_id_seq" (created.executed ++ dropped.executed) = true := by
  intro t server created after dropped
  have hserver := keepsSequences_keeping "app" "" t.primaryKey
  have hkey := Server.keyRows_keeping "app" "" t.primaryKey created.executed t.name
  have hcreate : created.result = .ok () := (Tables.follows_create t).of_accepted fun _ _ => rfl
  have hdrop : dropped.result = .ok () := (Tables.takes_drop t.name).of_accepted fun _ _ =>
    Server.passes_keeping _ _ _ _ _
  have hname : Name.ofSequence ((server []).fullName t.name) "id" = "orders_id_seq" := by decide
  have huses := Tables.uses_create rfl hcreate
  rw [hname] at huses
  have hleft : .drop "orders_id_seq" ∉ dropped.executed.filterMap read? := by
    intro h
    obtain ⟨column, hcolumn, hname⟩ := Tables.mem_drops_of_run h
    have hfirst : after.key? t.name = some "tenant" := Server.key?_of_rows hkey
    obtain rfl : "tenant" = column := Option.some.inj (hfirst.symm.trans hcolumn)
    exact absurd hname (by decide)
  refine ⟨hserver, rfl, rfl, hkey, hcreate, hdrop, ?_, hleft, ?_⟩
  · rw [huses]
    exact List.mem_cons_self
  · exact stands_append (stands_created [] huses) hleft

end SqlSchema
