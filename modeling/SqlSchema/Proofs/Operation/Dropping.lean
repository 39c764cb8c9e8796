import SqlSchema.Proofs.Operation.SequencePath
import SqlSchema.Proofs.Session.Leaves
import SqlSchema.Proofs.Sql.Hazard

/-!
# Dropping a table

The texts that dropping a table passes, by what the server answers on the way, and what is left
when one of them is rejected: the table is gone exactly if the drop succeeds, and the worst that a
failure leaves behind is a table without its sequence.
-/

namespace SqlSchema

namespace Session

variable {α : Type} {m : Session α} {s : Server}

theorem Takes.completes {path : List Event} {a : α} (h : m.Takes s path (.ok a))
    (hall : ∀ e ∈ path, e.passes s = true) :
    (m.run s).exchanges = path ∧ (m.run s).result = .ok a := by
  refine ⟨?_, h.of_accepted hall⟩
  rw [h.exchanges]
  exact List.takeWhile_eq_self_iff.mpr hall

/-- The first text rejected ends the session, which fails for it. -/
theorem Takes.stops {before after : List Event} {e : Event} {f : Failure} {r : Except Failure α}
    (h : m.Takes s (before ++ e :: after) r) (hbefore : ∀ b ∈ before, b.passes s = true)
    (he : e.failure? s = some f) : (m.run s).exchanges = before ∧ (m.run s).result = .error f := by
  have hpasses : e.passes s = false := by simp [Event.passes, he]
  have hnone : before.findSome? (Event.failure? s) = none := by
    rw [List.findSome?_eq_none_iff]
    intro b hb
    simpa [Event.passes] using hbefore b hb
  constructor
  · rw [h.exchanges, List.takeWhile_append_of_pos hbefore,
      List.takeWhile_cons_of_neg (by simp [hpasses]), List.append_nil]
  · rw [h.result, List.findSome?_append, hnone, Option.none_or, List.findSome?_cons, he]
    rfl

/-- A session fails before the last text of its path or comes to its end. -/
theorem Takes.ends {front : List Event} {e : Event} {a : α} (h : m.Takes s (front ++ [e]) (.ok a)) :
    (m.run s).result = .ok a ∧ (m.run s).exchanges = front ++ [e] ∨
      (∃ f, (m.run s).result = .error f) ∧ (m.run s).exchanges <+: front := by
  by_cases hall : ∀ b ∈ front ++ [e], b.passes s = true
  · have hend := h.completes hall
    exact .inl ⟨hend.2, hend.1⟩
  · right
    constructor
    · rw [h.result]
      cases hf : (front ++ [e]).findSome? (Event.failure? s) with
      | none => exact absurd (passes_of_findSome?_none hf) hall
      | some f => exact ⟨f, rfl⟩
    · have hinit := List.takeWhile_prefix (Event.passes s) (l := front ++ [e])
      rw [h.exchanges]
      rcases List.prefix_concat_iff.mp hinit with hwhole | hfront
      · exact absurd (List.takeWhile_eq_self_iff.mp hwhole) hall
      · exact hfront

end Session

/-! ## The key of a table -/

namespace AutoIncrement

/-- The row names the column of a key: by the text in `COLUMN_NAME`, or else by its first cell. -/
inductive Names (row : Row) (column : String) : Prop
  | byName (h : row.text? "COLUMN_NAME" = some column) (hne : column ≠ "")
  | byPlace (hnone : row.text? "COLUMN_NAME" = none) (h : row.first? = some (.text column))
    (hne : column ≠ "")

theorem asText?_eq_some_iff {v : Datum} {column : String} :
    v.asText? = some column ↔ v = .text column := by
  cases v <;> simp [Datum.asText?]

theorem keyColumn?_eq_some_iff {row : Row} {column : String} :
    keyColumn? row = some column ↔ Names row column := by
  have hfirst : row.first?.bind Datum.asText? = some column ↔ row.first? = some (.text column) := by
    simp [Option.bind_eq_some_iff, asText?_eq_some_iff]
  unfold keyColumn?
  rw [Option.filter_eq_some_iff]
  simp only [decide_eq_true_eq]
  constructor
  · rintro ⟨h, hne⟩
    cases hname : row.text? "COLUMN_NAME" with
    | some c =>
      rw [hname] at h
      exact .byName (hname.trans h) hne
    | none =>
      rw [hname] at h
      exact .byPlace hname (hfirst.mp h) hne
  · rintro (⟨h, hne⟩ | ⟨hnone, h, hne⟩)
    · rw [h]
      exact ⟨rfl, hne⟩
    · rw [hnone, hfirst.mpr h]
      exact ⟨rfl, hne⟩

end AutoIncrement

/-- The first row that the lookup of the key answers names the column. -/
def Server.KeyNames (s : Server) (fullName column : String) : Prop :=
  ∃ row, (s.answer (s.keyLookup fullName)).head? = some row ∧ AutoIncrement.Names row column

theorem Server.key?_eq_some_iff {s : Server} {fullName column : String} (h : fullName ≠ "") :
    s.key? fullName = some column ↔ s.KeyNames fullName column := by
  rw [key?, if_neg h, Option.bind_eq_some_iff]
  simp only [AutoIncrement.keyColumn?_eq_some_iff, KeyNames]

namespace Tables

def dropped (fullName : String) : String := (Statement.dropTable fullName).sql .standard

def droppedSequence (fullName column : String) : String :=
  (Statement.dropSequence (Name.ofSequence fullName column)).sql .standard

/-- The texts that dropping a table passes in order, by what the server answers. -/
inductive DropsBy (s : Server) (fullName : String) : List Event → Prop
  | nameless (h : fullName = "") : DropsBy s fullName [.statement (dropped fullName) []]
  | keyless (h : fullName ≠ "") (hkey : ∀ column, ¬ s.KeyNames fullName column) :
    DropsBy s fullName [.query (s.keyLookup fullName), .statement (dropped fullName) []]
  | absent {column : String} (h : fullName ≠ "") (hkey : s.KeyNames fullName column)
    (hrows : s.answer (s.probe (Name.ofSequence fullName column)) = []) :
    DropsBy s fullName [.query (s.keyLookup fullName),
      .query (s.probe (Name.ofSequence fullName column)), .statement (dropped fullName) []]
  | present {column : String} (h : fullName ≠ "") (hkey : s.KeyNames fullName column)
    (hrows : s.answer (s.probe (Name.ofSequence fullName column)) ≠ []) :
    DropsBy s fullName [.query (s.keyLookup fullName),
      .query (s.probe (Name.ofSequence fullName column)),
      .statement (droppedSequence fullName column) [], .statement (dropped fullName) []]

variable {s : Server} {fullName table : String} {path : List Event}

theorem DropsBy.eq_dropPath (h : DropsBy s fullName path) : path = s.dropPath fullName := by
  cases h with
  | nameless h => simp [Server.dropPath, Server.keyPath, Server.key?, h, dropped]
  | keyless h hkey =>
    have hnone : s.key? fullName = none := by
      rw [Option.eq_none_iff_forall_ne_some]
      exact fun column hc => hkey column ((Server.key?_eq_some_iff h).mp hc)
    simp [Server.dropPath, Server.keyPath, h, hnone, dropped]
  | @absent column h hkey hrows =>
    have hsome := (Server.key?_eq_some_iff h).mpr hkey
    have hthere : s.hasSequence (Name.ofSequence fullName column) = false := by
      rw [← Bool.not_eq_true, Server.hasSequence_iff]
      simpa using hrows
    simp [Server.dropPath, Server.keyPath, h, hsome, Server.dropSequencePath, hthere, dropped]
  | present h hkey hrows =>
    have hsome := (Server.key?_eq_some_iff h).mpr hkey
    have hthere := Server.hasSequence_iff.mpr hrows
    simp [Server.dropPath, Server.keyPath, h, hsome, Server.dropSequencePath, hthere, dropped,
      droppedSequence]

theorem dropsBy_dropPath (s : Server) (fullName : String) :
    DropsBy s fullName (s.dropPath fullName) := by
  suffices h : ∃ path, DropsBy s fullName path by
    obtain ⟨path, hpath⟩ := h
    exact hpath.eq_dropPath ▸ hpath
  by_cases h : fullName = ""
  · exact ⟨_, .nameless h⟩
  · cases hkey : s.key? fullName with
    | none =>
      refine ⟨_, .keyless h fun column hc => ?_⟩
      rw [(Server.key?_eq_some_iff h).mpr hc] at hkey
      cases hkey
    | some column =>
      have hnames := (Server.key?_eq_some_iff h).mp hkey
      by_cases hrows : s.answer (s.probe (Name.ofSequence fullName column)) = []
      · exact ⟨_, .absent h hnames hrows⟩
      · exact ⟨_, .present h hnames hrows⟩

/-- The table is dropped last. At most one statement comes before, on the sequence. -/
theorem DropsBy.front (h : DropsBy s fullName path) :
    ∃ front, path = front ++ [.statement (dropped fullName) []] ∧
      (front.filterMap Event.statement? = [] ∨ ∃ column, s.KeyNames fullName column ∧
        front.filterMap Event.statement? = [droppedSequence fullName column]) := by
  cases h with
  | nameless h => exact ⟨[], rfl, .inl rfl⟩
  | keyless h hkey => exact ⟨[_], rfl, .inl rfl⟩
  | absent h hkey hrows => exact ⟨[_, _], rfl, .inl rfl⟩
  | present h hkey hrows => exact ⟨[_, _, _], rfl, .inr ⟨_, hkey, rfl⟩⟩

theorem dropped_ne_droppedSequence (fullName column : String) :
    dropped fullName ≠ droppedSequence fullName column := by
  intro h
  have htable := SequenceUse.read?_dropTable fullName
  have hsequence := SequenceUse.read?_dropSequence (Name.ofSequence fullName column)
  rw [show (Statement.dropTable fullName).sql .standard = _ from h] at htable
  rw [droppedSequence, hsequence] at htable
  cases htable

/-- What has been executed in the end. -/
theorem executed_drop (s : Server) (table : String) :
    let q := s.tablePrefix ++ table
    let o := (drop table).run s
    (o.result = .ok () ∧ ∃ earlier, o.executed = earlier ++ [dropped q] ∧ dropped q ∉ earlier) ∨
      (∃ f, o.result = .error f) ∧ dropped q ∉ o.executed ∧ (o.executed = [] ∨
        ∃ column, s.KeyNames q column ∧ o.executed = [droppedSequence q column]) := by
  intro q o
  have htakes := takes_drop (s := s) table
  obtain ⟨front, hpath, hfront⟩ := (dropsBy_dropPath s q).front
  rw [show s.dropPath (s.fullName table) = _ from hpath] at htakes
  have hout : dropped q ∉ front.filterMap Event.statement? := by
    rcases hfront with h | ⟨column, -, h⟩
    · simp [h]
    · simp [h, dropped_ne_droppedSequence]
  rcases htakes.ends with ⟨hr, hx⟩ | ⟨hr, hx⟩
  · refine .inl ⟨hr, _, ?_, hout⟩
    rw [Outcome.executed_eq_exchanges, hx, List.filterMap_append]
    rfl
  · have hinit : o.executed <+: front.filterMap Event.statement? := by
      rw [Outcome.executed_eq_exchanges]
      exact hx.filterMap _
    refine .inr ⟨hr, fun hmem => hout (hinit.subset hmem), ?_⟩
    rcases hfront with h | ⟨column, hkey, h⟩
    · rw [h, List.prefix_nil] at hinit
      exact .inl hinit
    · rw [h, List.prefix_cons_iff] at hinit
      rcases hinit with h | ⟨rest, h, hrest⟩
      · exact .inl h
      · rw [List.prefix_nil] at hrest
        exact .inr ⟨column, hkey, hrest ▸ h⟩

/-! ## Tables that may be absent -/

def tableProbe (s : Server) (table : String) : String :=
  (Query.tableExists s.database (s.tablePrefix ++ table)).sql .standard

theorem leaves_isThere (h : s.rejection? (tableProbe s table) = none) :
    (isThere table).Leaves s (.ok !(s.answer (tableProbe s table)).isEmpty)
      [.query (tableProbe s table)] := by
  have hask : (Session.ask (.tableExists s.database (s.fullName table))).Leaves s
      (.ok (s.answer (tableProbe s table))) [.query (tableProbe s table)] :=
    Session.leaves_of_run (Session.run_select_accepted h)
  exact .of_run (Session.run_database s) (.of_run (Session.run_fullName table s)
    (hask.bind (Session.leaves_pure _)))

theorem leaves_dropIfThere_rejected {message : String}
    (h : s.rejection? (tableProbe s table) = some message) :
    (dropIfThere table).Leaves s (.error (.rejected (tableProbe s table) message)) [] := by
  have hask : (Session.ask (.tableExists s.database (s.fullName table))).Leaves s
      (.error (.rejected (tableProbe s table) message)) [] :=
    Session.leaves_of_run (Session.run_select_rejected h)
  have hthere : (isThere table).Leaves s (.error (.rejected (tableProbe s table) message)) [] :=
    .of_run (Session.run_database s) (.of_run (Session.run_fullName table s) hask.bind_error)
  exact hthere.bind_error

theorem leaves_dropIfThere_absent (h : s.rejection? (tableProbe s table) = none)
    (hrows : s.answer (tableProbe s table) = []) :
    (dropIfThere table).Leaves s (.ok false) [.query (tableProbe s table)] := by
  have hthere := leaves_isThere h
  rw [hrows] at hthere
  exact hthere.bind ((Session.leaves_note _ _ _).bind (Session.leaves_pure false))

theorem leaves_dropIfThere_present (h : s.rejection? (tableProbe s table) = none)
    (hrows : s.answer (tableProbe s table) ≠ []) :
    (dropIfThere table).Leaves s (((drop table).run s).result.map fun _ => true)
      (.query (tableProbe s table) :: ((drop table).run s).exchanges) := by
  have hthere := leaves_isThere h
  rw [List.isEmpty_eq_false_iff.mpr hrows] at hthere
  have hdrop : (drop table).Leaves s ((drop table).run s).result ((drop table).run s).exchanges :=
    ⟨rfl, rfl⟩
  exact hthere.bind (hdrop.giving true)

end Tables

/-- Dropping a table passes the texts of exactly one path, up to the first that is rejected, whose
rejection is the failure. The table is dropped exactly if that is the result, and then last; after
a failure at most its sequence has been dropped. Dropping a table that may be absent asks for it
first. -/
theorem drop_follows_one_path (s : Server) (table : String) :
    let q := s.tablePrefix ++ table
    let o := (Tables.drop table).run s
    let there := Tables.tableProbe s table
    let o' := (Tables.dropIfThere table).run s
    (∃! path, Tables.DropsBy s q path) ∧
    (∀ path, Tables.DropsBy s q path →
      ((∀ e ∈ path, e.passes s = true) → o.exchanges = path ∧ o.result = .ok ()) ∧
      (∀ before e after f, path = before ++ e :: after → (∀ b ∈ before, b.passes s = true) →
        e.failure? s = some f → o.exchanges = before ∧ o.result = .error f)) ∧
    (Tables.dropped q ∈ o.executed ↔ o.result = .ok ()) ∧
    (o.result = .ok () →
      ∃ earlier, o.executed = earlier ++ [Tables.dropped q] ∧ Tables.dropped q ∉ earlier) ∧
    (∀ f, o.result = .error f → o.executed = [] ∨
      ∃ column, s.KeyNames q column ∧ o.executed = [Tables.droppedSequence q column]) ∧
    (∀ message, s.rejection? there = some message →
      o'.exchanges = [] ∧ o'.result = .error (.rejected there message)) ∧
    (s.rejection? there = none → s.answer there = [] →
      o'.exchanges = [.query there] ∧ o'.result = .ok false) ∧
    (s.rejection? there = none → s.answer there ≠ [] →
      o'.exchanges = .query there :: o.exchanges ∧ o'.result = o.result.map fun _ => true) := by
  intro q o there o'
  have htakes := Tables.takes_drop (s := s) table
  have hexecuted := Tables.executed_drop s table
  refine ⟨⟨_, Tables.dropsBy_dropPath s q, fun path h => h.eq_dropPath⟩, fun path h => ?_, ?_,
    fun hr => ?_, fun f hr => ?_, fun message h => ?_, fun h hrows => ?_, fun h hrows => ?_⟩
  · obtain rfl := h.eq_dropPath
    refine ⟨htakes.completes, fun before e after f hpath hbefore he => ?_⟩
    rw [show s.dropPath (s.fullName table) = _ from hpath] at htakes
    exact htakes.stops hbefore he
  · rcases hexecuted with ⟨hr, earlier, he, -⟩ | ⟨⟨f, hr⟩, hout, -⟩
    · simp [o, hr, he, q]
    · simp [o, hr, hout, q]
  · rcases hexecuted with ⟨-, h⟩ | ⟨⟨f, hf⟩, -⟩
    · exact h
    · cases hr.symm.trans hf
  · rcases hexecuted with ⟨hok, -⟩ | ⟨-, -, h⟩
    · cases hr.symm.trans hok
    · exact h
  · have hleaves := Tables.leaves_dropIfThere_rejected h
    exact ⟨hleaves.exchanges, hleaves.result⟩
  · have hleaves := Tables.leaves_dropIfThere_absent h hrows
    exact ⟨hleaves.exchanges, hleaves.result⟩
  · have hleaves := Tables.leaves_dropIfThere_present h hrows
    exact ⟨hleaves.exchanges, hleaves.result⟩

/-- A server that does not let go of a table drops its sequence all the same. -/
theorem drop_follows_one_path_busy :
    let s : Server := {
      database := "app", tablePrefix := "p_"
      rejection? := fun sql =>
        if Hazard.read? sql = some (.dropTable "p_order") then some "busy" else none
      answer := fun _ => [Row.ofList [("KEY", .text "no"), ("column_name", .text "id")]] }
    let o := (Tables.drop "order").run s
    let o' := (Tables.dropIfThere "order").run s
    let before := [.query (s.keyLookup "p_order"), .query (s.probe "p_order_id_seq"),
      .statement "DROP SEQUENCE \"p_order_id_seq\"" []]
    let failure := Failure.rejected "DROP TABLE \"p_order\"" "busy"
    Tables.DropsBy s "p_order" (before ++ [.statement "DROP TABLE \"p_order\"" []]) ∧
      o.exchanges = before ∧ o.result = .error failure ∧
      o'.exchanges = .query (Tables.tableProbe s "order") :: before ∧
      o'.result = .error failure := by
  intro s o o' before failure
  have hquery {q : Query} (h : ∀ name, q ≠ .nextOf name) (hq : q.hazard? = none) :
      s.rejection? (q.sql .standard) = none := by
    simp [s, Hazard.read?_query h, hq]
  have hstatement (u : Statement) : s.rejection? (u.sql .standard) =
      if u.hazard? = some (.dropTable "p_order") then some "busy" else none := by
    simp only [s, Hazard.read?_statement]
  have hlookup : s.rejection? (s.keyLookup "p_order") = none := hquery (by simp) rfl
  have hprobe : s.rejection? (s.probe "p_order_id_seq") = none := hquery (by simp) rfl
  have htable : s.rejection? (Tables.tableProbe s "order") = none := hquery (by simp) rfl
  have hsequence : s.rejection? "DROP SEQUENCE \"p_order_id_seq\"" = none :=
    hstatement (.dropSequence "p_order_id_seq")
  have hdrop : s.rejection? "DROP TABLE \"p_order\"" = some "busy" :=
    hstatement (.dropTable "p_order")
  have hkey : s.KeyNames "p_order" "id" := ⟨_, rfl, .byName (by decide) (by decide)⟩
  have hdrops : Tables.DropsBy s "p_order" (before ++ [.statement "DROP TABLE \"p_order\"" []]) := by
    have hname : Name.ofSequence "p_order" "id" = "p_order_id_seq" := by decide
    have hpresent := Tables.DropsBy.present (s := s) (by decide) hkey (List.cons_ne_nil _ _)
    rwa [Tables.droppedSequence, hname] at hpresent
  have hpasses : ∀ e ∈ before, e.passes s = true := by
    simp [before, Event.passes, Event.failure?, Event.text?, Server.failure?, hlookup, hprobe,
      hsequence]
  have hfails : Event.failure? s (.statement "DROP TABLE \"p_order\"" []) = some failure := by
    simp [Event.failure?, Event.text?, Server.failure?, hdrop, failure]
  obtain ⟨-, hpath, -, -, -, -, -, hthere⟩ := drop_follows_one_path s "order"
  obtain ⟨hexchanges, hresult⟩ := (hpath _ hdrops).2 before _ [] failure rfl hpasses hfails
  obtain ⟨hexchanges', hresult'⟩ := hthere htable (List.cons_ne_nil _ _)
  rw [hexchanges] at hexchanges'
  rw [hresult] at hresult'
  exact ⟨hdrops, hexchanges, hresult, hexchanges', hresult'⟩

end SqlSchema
