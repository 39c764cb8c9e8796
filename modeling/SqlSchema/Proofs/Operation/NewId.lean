import SqlSchema.Proofs.Operation.SequencePath
import SqlSchema.Proofs.Session.Leaves

/-!
# The id of a new row

The ways that an insertion can go, each with what passes between session and server and with the
result. The insertion comes first; only if it is accepted and no id is bound, the sequence is
probed for, and read if it is there. On every server exactly one way is open.
-/

namespace SqlSchema

/-! ## Reading a sequence -/

namespace Sequence

def current (name : String) : String := (Query.sequenceValue name .current).sql .standard

/-- The ways to read a number from the column `id` of the first row that a query answers. -/
inductive Reads (s : Server) (sql : String) : List Event → Except Failure Int64 → Prop
  | rejected {message : String} (h : s.rejection? sql = some message) :
    Reads s sql [] (.error (.rejected sql message))
  | missing (h : s.rejection? sql = none)
    (hid : ∀ row, (s.answer sql).head? = some row → row.int? "id" = none) :
    Reads s sql [.query sql] (.error (.unexpectedRow sql "id"))
  | number {row : Row} {n : Int64} (h : s.rejection? sql = none)
    (hrow : (s.answer sql).head? = some row) (hid : row.int? "id" = some n) :
    Reads s sql [.query sql] (.ok n)

/-- The ways to find the value that a sequence handed out last, zero for one that is absent. -/
inductive Finds (s : Server) (name : String) : List Event → Except Failure Int64 → Prop
  | rejected {message : String} (h : s.rejection? (s.probe name) = some message) :
    Finds s name [] (.error (.rejected (s.probe name) message))
  | absent (h : s.rejection? (s.probe name) = none) (hrows : s.answer (s.probe name) = []) :
    Finds s name [.query (s.probe name)] (.ok 0)
  | present {l : List Event} {r : Except Failure Int64} (h : s.rejection? (s.probe name) = none)
    (hrows : s.answer (s.probe name) ≠ []) (hread : Reads s (current name) l r) :
    Finds s name (.query (s.probe name) :: l) r

variable {s : Server} {name sql : String} {l : List Event} {r : Except Failure Int64}

theorem exists_reads (s : Server) (sql : String) : ∃ l r, Reads s sql l r := by
  cases h : s.rejection? sql with
  | some message => exact ⟨_, _, .rejected h⟩
  | none =>
    by_cases hid : ∀ row, (s.answer sql).head? = some row → row.int? "id" = none
    · exact ⟨_, _, .missing h hid⟩
    · simp only [not_forall] at hid
      obtain ⟨row, hrow, hn⟩ := hid
      obtain ⟨n, hn⟩ := Option.ne_none_iff_exists'.mp hn
      exact ⟨_, _, .number h hrow hn⟩

theorem exists_finds (s : Server) (name : String) : ∃ l r, Finds s name l r := by
  cases h : s.rejection? (s.probe name) with
  | some message => exact ⟨_, _, .rejected h⟩
  | none =>
    by_cases hrows : s.answer (s.probe name) = []
    · exact ⟨_, _, .absent h hrows⟩
    · obtain ⟨l, r, hread⟩ := exists_reads s (current name)
      exact ⟨_, _, .present h hrows hread⟩

theorem Reads.leaves (hname : name ≠ "") (h : Reads s (current name) l r) :
    (read name .current).Leaves s r l := by
  have hc : (Query.sequenceValue name .current).checkedSql .standard = .ok (current name) := by
    simp [Query.checkedSql, Statement.checkSequence, hname, Except.map, current]
  rw [read, hc]
  apply Session.Leaves.of_run (a := current name) rfl
  cases h with
  | rejected h => exact (Session.leaves_selectFirst_rejected h).bind_error
  | missing h hid =>
    refine (Session.leaves_selectFirst_accepted h).bind ?_
    have hnone : (s.answer (current name)).head?.bind (·.int? "id") = none :=
      Option.bind_eq_none_iff.mpr hid
    rw [hnone]
    exact Session.leaves_fail _
  | number h hrow hid =>
    refine (Session.leaves_selectFirst_accepted h).bind ?_
    rw [hrow, Option.bind_some, hid]
    exact Session.leaves_pure _

theorem leaves_isThere (h : s.rejection? (s.probe name) = none) :
    (isThere name).Leaves s (.ok (s.hasSequence name)) [.query (s.probe name)] := by
  have hask : (Session.askFirst (.sequenceExists s.database name)).Leaves s
      (.ok (s.answer (s.probe name)).head?) [.query (s.probe name)] :=
    Session.leaves_selectFirst_accepted h
  exact .of_run (Session.run_database s) (hask.bind (Session.leaves_pure _))

theorem leaves_isThere_rejected {message : String}
    (h : s.rejection? (s.probe name) = some message) :
    (isThere name).Leaves s (.error (.rejected (s.probe name) message)) [] := by
  have hask : (Session.askFirst (.sequenceExists s.database name)).Leaves s
      (.error (.rejected (s.probe name) message)) [] := Session.leaves_selectFirst_rejected h
  exact .of_run (Session.run_database s) hask.bind_error

theorem Finds.leaves (hname : name ≠ "") (h : Finds s name l r) :
    (last name).Leaves s r l := by
  rw [last, if_neg hname]
  cases h with
  | rejected h => exact (leaves_isThere_rejected h).bind_error
  | absent h hrows =>
    have hthere := leaves_isThere h
    rw [Server.hasSequence, hrows] at hthere
    exact hthere.bind (Session.leaves_pure 0)
  | present h hrows hread =>
    have hthere := leaves_isThere h
    rw [Server.hasSequence_iff.mpr hrows] at hthere
    exact hthere.bind (hread.leaves hname)

theorem Finds.asks (h : Finds s name l r) : ∃ asked : List String, l = asked.map .query := by
  cases h with
  | rejected h => exact ⟨[], rfl⟩
  | absent h hrows => exact ⟨[_], rfl⟩
  | present h hrows hread =>
    cases hread with
    | rejected _ => exact ⟨[_], rfl⟩
    | missing _ _ => exact ⟨[_, _], rfl⟩
    | number _ _ _ => exact ⟨[_, _], rfl⟩

end Sequence

/-! ## Insertions -/

namespace InsertId

/-- The ways that an insertion can go. -/
inductive Goes (s : Server) (strategy : InsertIdStrategy) (table sql : String)
    (values : List Datum) : Option String → List Event → Except Failure Int64 → Prop
  | rejected {column : Option String} {message : String} (h : s.rejection? sql = some message) :
    Goes s strategy table sql values column [] (.error (.rejected sql message))
  | unnamed (h : s.rejection? sql = none) :
    Goes s strategy table sql values none [.statement sql values] (.ok 0)
  | bound {column : String} {id : Int64} (h : s.rejection? sql = none)
    (hstrategy : strategy = .valuesThenSequence)
    (hid : Insertion.explicitId? sql values column = some id) :
    Goes s strategy table sql values (some column) [.statement sql values] (.ok id)
  | unbound {column : String} {l : List Event} {r : Except Failure Int64}
    (h : s.rejection? sql = none)
    (hid : strategy = .sequenceOnly ∨ Insertion.explicitId? sql values column = none)
    (hfind : Sequence.Finds s (Name.ofSequence (s.tablePrefix ++ table) column) l r) :
    Goes s strategy table sql values (some column) (.statement sql values :: l) r

variable {s : Server} {strategy : InsertIdStrategy} {table sql : String} {values : List Datum}
  {column : Option String} {l : List Event} {r : Except Failure Int64}

theorem boundId?_eq_none {column : String}
    (h : strategy = .sequenceOnly ∨ Insertion.explicitId? sql values column = none) :
    boundId? strategy sql values column = none := by
  rcases h with rfl | h
  · rfl
  · cases strategy with
    | sequenceOnly => rfl
    | valuesThenSequence => exact h

theorem exists_goes (s : Server) (strategy : InsertIdStrategy) (table sql : String)
    (values : List Datum) (column : Option String) :
    ∃ l r, Goes s strategy table sql values column l r := by
  cases h : s.rejection? sql with
  | some message => exact ⟨_, _, .rejected h⟩
  | none =>
    cases column with
    | none => exact ⟨_, _, .unnamed h⟩
    | some column =>
      obtain ⟨l, r, hfind⟩ :=
        Sequence.exists_finds s (Name.ofSequence (s.tablePrefix ++ table) column)
      cases strategy with
      | sequenceOnly => exact ⟨_, _, .unbound h (.inl rfl) hfind⟩
      | valuesThenSequence =>
        cases hid : Insertion.explicitId? sql values column with
        | some id => exact ⟨_, _, .bound h rfl hid⟩
        | none => exact ⟨_, _, .unbound h (.inr hid) hfind⟩

theorem Goes.leaves (h : Goes s strategy table sql values column l r) :
    (insert strategy table sql values column).Leaves s r l := by
  cases h with
  | rejected h => exact (Session.leaves_execute_rejected values h).bind_error
  | unnamed h => exact (Session.leaves_execute_accepted values h).bind (Session.leaves_pure 0)
  | @bound column id h hstrategy hid =>
    subst hstrategy
    refine (Session.leaves_execute_accepted values h).bind ?_
    have hbound : boundId? .valuesThenSequence sql values column = some id := hid
    simp only [hbound]
    exact (Session.leaves_note _ _ _).bind (Session.leaves_pure id)
  | unbound h hid hfind =>
    refine (Session.leaves_execute_accepted values h).bind ?_
    simp only [boundId?_eq_none hid]
    exact .of_run (Session.run_fullName table s) (hfind.leaves (Name.ofSequence_ne_empty _ _))

theorem leaves_iff_goes (s : Server) (strategy : InsertIdStrategy) (table sql : String)
    (values : List Datum) (column : Option String) (l : List Event) (r : Except Failure Int64) :
    (insert strategy table sql values column).Leaves s r l ↔
      Goes s strategy table sql values column l r :=
  Session.leaves_iff_of_ways Goes.leaves (exists_goes s strategy table sql values column) l r

theorem Goes.asks (h : Goes s strategy table sql values column l r)
    (haccepted : s.rejection? sql = none) :
    ∃ asked : List String, l = .statement sql values :: asked.map .query := by
  cases h with
  | rejected h => rw [haccepted] at h; cases h
  | unnamed h => exact ⟨[], rfl⟩
  | bound h hstrategy hid => exact ⟨[], rfl⟩
  | unbound h hid hfind =>
    obtain ⟨asked, rfl⟩ := hfind.asks
    exact ⟨asked, rfl⟩

/-- Where only the sequence counts, another insertion that is accepted goes the same way. -/
theorem Goes.of_sequenceOnly {sql' : String} (values' : List Datum)
    (h : Goes s .sequenceOnly table sql values column l r) (hsql : s.rejection? sql = none)
    (hsql' : s.rejection? sql' = none) : ∃ rest, l = .statement sql values :: rest ∧
      Goes s .sequenceOnly table sql' values' column (.statement sql' values' :: rest) r := by
  cases h with
  | rejected h => rw [hsql] at h; cases h
  | unnamed h => exact ⟨[], rfl, .unnamed hsql'⟩
  | bound h hstrategy hid => cases hstrategy
  | unbound h hid hfind => exact ⟨_, rfl, .unbound hsql' (.inl rfl) hfind⟩

end InsertId

/-- An insertion goes exactly one way. The caller's statement comes once and before all queries, if
it is accepted. Where only the sequence counts, neither the result nor the queries depend on the
text and the values of an accepted statement. -/
theorem insert_goes_one_way (s : Server) (strategy : InsertIdStrategy) (table sql : String)
    (values : List Datum) (column : Option String) :
    let o := (InsertId.insert strategy table sql values column).run s
    (∀ l r, InsertId.Goes s strategy table sql values column l r ↔
      o.exchanges = l ∧ o.result = r) ∧
    (s.rejection? sql = none →
      ∃ asked : List String, o.exchanges = .statement sql values :: asked.map .query) ∧
    (strategy = .sequenceOnly → s.rejection? sql = none →
      ∀ sql' values', s.rejection? sql' = none →
        let o' := (InsertId.insert strategy table sql' values' column).run s
        o'.result = o.result ∧ o'.queries = o.queries) := by
  intro o
  have hiff (l r) : InsertId.Goes s strategy table sql values column l r ↔
      o.exchanges = l ∧ o.result = r := by
    rw [← InsertId.leaves_iff_goes]
    exact ⟨fun h => ⟨h.exchanges, h.result⟩, fun h => ⟨h.2, h.1⟩⟩
  have hgoes := (hiff o.exchanges o.result).mpr ⟨rfl, rfl⟩
  refine ⟨hiff, hgoes.asks, fun hstrategy haccepted sql' values' haccepted' => ?_⟩
  subst hstrategy
  obtain ⟨rest, hrest, hgoes'⟩ := hgoes.of_sequenceOnly values' haccepted haccepted'
  have hleaves := hgoes'.leaves
  refine ⟨hleaves.result, ?_⟩
  rw [Outcome.queries_eq_exchanges, Outcome.queries_eq_exchanges, hleaves.exchanges, hrest]
  rfl

theorem insert_goes_one_way_asking :
    let s : Script := {
      database := "app", tablePrefix := "p_"
      responses := [("", [Row.ofList [("ID", .text " 12 ")], Row.ofList [("id", .int 7)]])] }
    let insert := "insert into t (id) values (?)"
    let o := (InsertId.insert .sequenceOnly "o'rder" insert [.int 99] (some "id")).run s.server
    let o' := (InsertId.insert .sequenceOnly "o'rder" "call f()" [] (some "id")).run s.server
    s.server.rejection? insert = none ∧ s.server.rejection? "call f()" = none ∧
      o.exchanges = [.statement insert [.int 99], .query (s.server.probe "p_o'rder_id_seq"),
        .query "SELECT \"p_o'rder_id_seq\".CURRVAL AS \"id\" FROM DUAL"] ∧
      o.result = .ok 12 ∧ o'.result = .ok 12 ∧ o'.queries = o.queries := by
  intro s insert o o'
  have haccepted (sql : String) : s.server.rejection? sql = none := rfl
  have hanswer (sql : String) : s.server.answer sql =
      [Row.ofList [("ID", .text " 12 ")], Row.ofList [("id", .int 7)]] := by
    have hneedle : Text.contains sql "" = true :=
      (Text.contains_iff sql "").mpr (List.nil_infix)
    simp [s, Script.server, Script.answer, hneedle]
  have hname : Name.ofSequence (s.server.tablePrefix ++ "o'rder") "id" = "p_o'rder_id_seq" := by
    decide
  have hid : (Row.ofList [("ID", .text " 12 ")]).int? "id" = some 12 := by decide
  have hcurrent : Sequence.current "p_o'rder_id_seq" =
      "SELECT \"p_o'rder_id_seq\".CURRVAL AS \"id\" FROM DUAL" := by decide
  have hread := Sequence.Reads.number (haccepted (Sequence.current "p_o'rder_id_seq"))
    (by rw [hanswer]; rfl) hid
  have hfind := Sequence.Finds.present (haccepted (s.server.probe "p_o'rder_id_seq"))
    (by rw [hanswer]; exact List.cons_ne_nil _ _) hread
  rw [← hname] at hfind
  obtain ⟨hiff, -, hsame⟩ :=
    insert_goes_one_way s.server .sequenceOnly "o'rder" insert [.int 99] (some "id")
  obtain ⟨hexchanges, hresult⟩ := (hiff _ _).mp (.unbound (haccepted insert) (.inl rfl) hfind)
  obtain ⟨hresult', hqueries⟩ := hsame rfl (haccepted insert) "call f()" [] (haccepted _)
  rw [hname, hcurrent] at hexchanges
  exact ⟨rfl, rfl, hexchanges, hresult, hresult'.trans hresult, hqueries⟩

end SqlSchema
