import SqlSchema.Proofs.Operation.SequencePath
import SqlSchema.Proofs.Sql.Insertion

/-!
# The id that an insertion binds

An insertion gives each column an entry: a placeholder, which takes the next parameter, or an
expression, which takes none. The id looked up for a column is the parameter at the column's own
place. That is the parameter bound to the column as long as every entry up to it is a
placeholder. Behind an expression the places of columns and parameters differ, and the id may be
the value of another column.
-/

namespace SqlSchema

namespace Insertion

/-- What an insertion gives a column. -/
inductive Entry
  | placeholder
  | expression (sql : String) (plain : '?' ∉ sql.toList)

namespace Entry

def sql : Entry → String
  | placeholder => "?"
  | expression sql _ => sql

def isPlaceholder : Entry → Bool
  | placeholder => true
  | expression _ _ => false

/-- The parameters bound to entries: each placeholder takes the next one. -/
def bind {α : Type} : List Entry → List α → List (Option α)
  | [], _ => []
  | expression _ _ :: r, parameters => none :: bind r parameters
  | placeholder :: r, [] => none :: bind r []
  | placeholder :: r, a :: parameters => some a :: bind r parameters

end Entry

def Layout.text (l : Layout) (table : String) (columns : List String) (entries : List Entry) :
    String :=
  l.head table columns ++ (" (" ++ ", ".intercalate (entries.map Entry.sql) ++ ")")

/-! ## Places of columns and of parameters -/

theorem Entry.bind_getElem? {α : Type} : ∀ {entries : List Entry} (parameters : List α) {k : Nat}
    (hk : k < entries.length), (bind entries parameters)[k]? = some
      (if entries[k].isPlaceholder then parameters[(entries.take k).countP isPlaceholder]? else none)
  | expression sql plain :: r, parameters, 0, _ => rfl
  | placeholder :: r, [], 0, _ => rfl
  | placeholder :: r, a :: parameters, 0, _ => rfl
  | expression sql plain :: r, parameters, k + 1, hk => by
    have ih := bind_getElem? parameters (Nat.lt_of_succ_lt_succ hk)
    rw [List.take_succ_cons, List.countP_cons_of_neg (by simp [isPlaceholder])]
    exact ih
  | placeholder :: r, [], k + 1, hk => by
    have ih := bind_getElem? ([] : List α) (Nat.lt_of_succ_lt_succ hk)
    rw [List.getElem?_nil] at ih ⊢
    exact ih
  | placeholder :: r, a :: parameters, k + 1, hk => by
    have ih := bind_getElem? parameters (Nat.lt_of_succ_lt_succ hk)
    rw [List.take_succ_cons, List.countP_cons_of_pos rfl, List.getElem?_cons_succ]
    exact ih

theorem Entry.countP_take_lt {entries : List Entry} {k : Nat} (hk : k < entries.length)
    (h : entries[k].isPlaceholder = true) :
    (entries.take k).countP isPlaceholder < entries.countP isPlaceholder := by
  have hsplit : entries.countP isPlaceholder =
      (entries.take k).countP isPlaceholder + (entries.drop k).countP isPlaceholder := by
    rw [← List.countP_append, List.take_append_drop]
  have hdrop : 0 < (entries.drop k).countP isPlaceholder := by
    rw [List.countP_pos_iff]
    refine ⟨entries[k], ?_, h⟩
    rw [List.drop_eq_getElem_cons hk]
    exact List.mem_cons_self
  omega

theorem Entry.bind_of_placeholder {α : Type} {entries : List Entry} {parameters : List α}
    (hcount : parameters.length = entries.countP isPlaceholder) {k : Nat} (hk : k < entries.length)
    (h : entries[k].isPlaceholder = true) :
    ∃ a, parameters[(entries.take k).countP isPlaceholder]? = some a ∧
      (bind entries parameters)[k]? = some (some a) := by
  have hlt := countP_take_lt hk h
  have hget := List.getElem?_eq_getElem (hcount ▸ hlt)
  refine ⟨_, hget, ?_⟩
  rw [bind_getElem? parameters hk, if_pos h, hget]

theorem Entry.bind_of_expression {α : Type} {entries : List Entry} (parameters : List α) {k : Nat}
    (hk : k < entries.length) (h : entries[k].isPlaceholder = false) :
    (bind entries parameters)[k]? = some none := by
  rw [bind_getElem? parameters hk, if_neg (by simp [h])]

/-- As long as only placeholders come before, places of columns are places of parameters. -/
theorem Entry.countP_take_eq {entries : List Entry} {k : Nat} (hk : k < entries.length)
    (h : ∀ e ∈ entries.take k, e.isPlaceholder = true) :
    (entries.take k).countP isPlaceholder = k := by
  rw [List.countP_eq_length.mpr h, List.length_take]
  omega

end Insertion

namespace InsertId

variable {s : Server} {sql column : String} {ids : List Int64}

/-- Runs an insertion and asks the sequence of the column, whatever the insertion binds. -/
def throughSequence (table sql : String) (values : List Datum) (column : String) :
    Session Int64 := do
  Session.execute sql values
  Sequence.last (Name.ofSequence (← Session.fullName table) column)

/-- The law of explicit ids. A number bound to the column is the id, and nothing is asked;
otherwise the id comes through the sequence. -/
def GivesBound (s : Server) (table sql : String) (ids : List Int64) (column : String) :
    Option Int64 → Prop
  | some id =>
    let o := (insert .valuesThenSequence table sql (ids.map .int) (some column)).run s
    o.result = .ok id ∧ o.queries = []
  | none =>
    (insert .valuesThenSequence table sql (ids.map .int) (some column)).run s =
      (throughSequence table sql (ids.map .int) column).run s

theorem insert_of_unbound {strategy : InsertIdStrategy} {values : List Datum} (table : String)
    (h : boundId? strategy sql values column = none) :
    insert strategy table sql values (some column) = throughSequence table sql values column := by
  simp only [insert, h, throughSequence]

theorem run_insert_bound {strategy : InsertIdStrategy} {values : List Datum} {id : Int64}
    (table : String) (hs : s.rejection? sql = none)
    (h : boundId? strategy sql values column = some id) :
    ∃ n, (insert strategy table sql values (some column)).run s =
      ⟨.ok id, [.statement sql values, .notice n]⟩ := by
  rw [insert, Session.run_bind_ok (Session.run_execute_accepted hs)]
  simp only [h]
  exact ⟨_, rfl⟩

/-- An id that comes through the sequence was asked for. -/
theorem queries_throughSequence {table : String} {values : List Datum} {id : Int64}
    (h : ((throughSequence table sql values column).run s).result = .ok id) :
    ((throughSequence table sql values column).run s).queries ≠ [] := by
  obtain ⟨r, hlast⟩ := Sequence.takes_last (s := s)
    (Name.ofSequence_ne_empty (s.fullName table) column)
  have htakes : (throughSequence table sql values column).Takes s _ r :=
    (Session.takes_execute sql values).bind (.of_run (Session.run_fullName table s) hlast)
  obtain ⟨-, hpath⟩ := htakes.passes_all h
  rw [Outcome.queries_eq_exchanges, hpath]
  simp [Server.readSequencePath, Event.query?]

/-- The law holds exactly for what is looked up. -/
theorem givesBound_iff {table : String} (hs : s.rejection? sql = none) (bound : Option Int64) :
    GivesBound s table sql ids column bound ↔
      boundId? .valuesThenSequence sql (ids.map .int) column = bound := by
  cases hlook : boundId? .valuesThenSequence sql (ids.map .int) column with
  | none =>
    have hrun := insert_of_unbound table hlook
    cases bound with
    | none => simp [GivesBound, hrun]
    | some id =>
      -- the same number may come from the sequence, but then it was asked for
      simp only [GivesBound, hrun, reduceCtorEq, iff_false, not_and]
      exact queries_throughSequence
  | some found =>
    obtain ⟨n, hrun⟩ := run_insert_bound table hs hlook
    cases bound with
    | none =>
      simp only [GivesBound, hrun, reduceCtorEq, iff_false]
      intro h
      have hresult : ((throughSequence table sql (ids.map .int) column).run s).result = .ok found :=
        h ▸ rfl
      exact queries_throughSequence hresult (h ▸ rfl)
    | some id =>
      simp only [GivesBound, hrun, Option.some.injEq]
      constructor
      · rintro ⟨h, -⟩
        exact Except.ok.inj h
      · rintro rfl
        exact ⟨rfl, rfl⟩

end InsertId

open Insertion

theorem Insertion.asInt?_getElem?_map_int (ids : List Int64) (k : Nat) :
    (ids.map Datum.int)[k]?.bind Datum.asInt? = ids[k]? := by
  rw [List.getElem?_map]
  cases ids[k]? with
  | none => rfl
  | some id => rfl

theorem InsertId.boundId?_of_only {sql column : String} {columns : List String}
    (hread : columns? sql = some columns) (ids : List Int64) {k : Nat} (hk : k < columns.length)
    (honly : ∀ j (hj : j < columns.length),
      Text.sameIgnoringCase columns[j] column = true ↔ j = k) :
    boundId? .valuesThenSequence sql (ids.map .int) column = ids[k]? := by
  have hfirst : ∀ j (hj : j < k), Text.sameIgnoringCase columns[j] column = false := by
    intro j hj
    have := (honly j (by omega)).not.mpr (by omega)
    simpa using this
  rw [← asInt?_getElem?_map_int]
  exact explicitId?_of_first hread hk ((honly k hk).mpr rfl) hfirst _

/-- An insertion that is accepted obeys the law for a column that it does not name. For one that
it names once, with a placeholder, it does so exactly if the parameter at the place of the column
is the one bound to the column, as it is when only placeholders come before; and with an
expression exactly if there are no more parameters than columns before. -/
theorem explicit_id_is_bound_iff (s : Server) (l : Layout) (table target : String)
    (columns : List String) (entries : List Entry) (ids : List Int64) (column : String)
    (ht : '(' ∉ target.toList) (hne : columns ≠ []) (hc : ∀ c ∈ columns, PlainColumn c)
    (hentries : entries.length = columns.length)
    (hids : ids.length = entries.countP Entry.isPlaceholder)
    (haccepted : s.rejection? (l.text target columns entries) = none) :
    let Law := InsertId.GivesBound s table (l.text target columns entries) ids column
    ((∀ c ∈ columns, Text.sameIgnoringCase c column = false) → Law none) ∧
    ∀ k (hk : k < columns.length),
      (∀ j (hj : j < columns.length), Text.sameIgnoringCase columns[j] column = true ↔ j = k) →
      (entries[k].isPlaceholder = true → ∃ id, (Entry.bind entries ids)[k]? = some (some id) ∧
        (Law (some id) ↔ ids[k]? = some id) ∧
        ((∀ e ∈ entries.take k, e.isPlaceholder = true) → Law (some id))) ∧
      (entries[k].isPlaceholder = false → (Entry.bind entries ids)[k]? = some none ∧
        (Law none ↔ entries.countP Entry.isPlaceholder ≤ k)) := by
  intro Law
  have hread : columns? (l.text target columns entries) = some columns :=
    l.columns?_head ht hne hc _
  refine ⟨fun hnone => ?_, fun k hk honly => ?_⟩
  · apply (InsertId.givesBound_iff haccepted none).mpr
    exact explicitId?_of_none hread hnone _
  · have hk' : k < entries.length := by omega
    have hlaw (bound : Option Int64) : Law bound ↔ ids[k]? = bound := by
      rw [← InsertId.boundId?_of_only hread ids hk honly]
      exact InsertId.givesBound_iff haccepted bound
    refine ⟨fun hplaceholder => ?_, fun hexpression => ?_⟩
    · obtain ⟨id, hid, hbind⟩ := Entry.bind_of_placeholder hids hk' hplaceholder
      refine ⟨id, hbind, hlaw _, fun hall => ?_⟩
      rw [hlaw, ← hid, Entry.countP_take_eq hk' hall]
    · refine ⟨Entry.bind_of_expression ids hk' hexpression, ?_⟩
      rw [hlaw, List.getElem?_eq_none_iff, hids]

theorem explicit_id_is_bound_iff_mixed :
    let s : Script := { database := "app", failures := [("DROP", "no")] }
    let l : Layout := { insert := "insert", values := "Values" }
    let columns := ["name", "ID", "made"]
    let entries := [Entry.placeholder, .placeholder, .expression "SYSDATE" (by decide)]
    let sql := l.text "users" columns entries
    s.server.rejection? sql = none ∧ entries.length = columns.length ∧
      [4, 9].length = entries.countP Entry.isPlaceholder ∧
      InsertId.GivesBound s.server "users" sql [4, 9] "id" (some 9) ∧
      InsertId.GivesBound s.server "users" sql [4, 9] "made" none := by
  intro s l columns entries sql
  have haccepted : s.server.rejection? sql = none := by decide
  have hplain : ∀ c ∈ columns, PlainColumn c := by decide
  obtain ⟨-, hid⟩ := explicit_id_is_bound_iff s.server l "users" "users" columns entries [4, 9] "id"
    (by decide) (List.cons_ne_nil _ _) hplain rfl rfl haccepted
  obtain ⟨-, hmade⟩ := explicit_id_is_bound_iff s.server l "users" "users" columns entries [4, 9]
    "made" (by decide) (List.cons_ne_nil _ _) hplain rfl rfl haccepted
  obtain ⟨id, hbound, -, hgives⟩ := (hid 1 (by decide) (by decide)).1 rfl
  obtain ⟨-, hnone⟩ := (hmade 2 (by decide) (by decide)).2 rfl
  obtain rfl : 9 = id := Option.some.inj (Option.some.inj hbound)
  exact ⟨haccepted, rfl, rfl, hgives (by decide), hnone.mpr (by decide)⟩

/-- The column `id` is fed by its sequence, and the insertion binds one number, an age. That
number is what is given for the id. -/
theorem id_of_another_column :
    let s : Script := {
      database := "app"
      responses := [
        ("SEQUENCE_NAME = 'users_id_seq'", [Row.ofList [("SEQUENCE_NAME", .text "users_id_seq")]]),
        ("CURRVAL", [Row.ofList [("id", .int 12)]])] }
    let columns := ["id", "age"]
    let entries := [Entry.expression "\"users_id_seq\".NEXTVAL" (by decide), .placeholder]
    let sql := ({} : Layout).text "users" columns entries
    let o := (InsertId.insert .valuesThenSequence "users" sql [.int 30] (some "id")).run s.server
    sql = "INSERT INTO \"users\" (\"id\", \"age\") VALUES (\"users_id_seq\".NEXTVAL, ?)" ∧
      Entry.bind entries [30] = [none, some 30] ∧ o.result = .ok 30 ∧ o.queries = [] ∧
      ¬ InsertId.GivesBound s.server "users" sql [30] "id" none := by
  intro s columns entries sql o
  have hread : columns? sql = some columns :=
    Layout.columns?_head {} (by decide) (List.cons_ne_nil _ _) (by decide) _
  have hlook : InsertId.boundId? .valuesThenSequence sql [.int 30] "id" = some 30 :=
    explicitId?_of_first hread (i := 0) (by decide) (by decide) (by decide) _
  obtain ⟨n, hrun⟩ := InsertId.run_insert_bound (s := s.server) "users" rfl hlook
  refine ⟨by decide, rfl, ?_, ?_, ?_⟩
  · exact congrArg Outcome.result hrun
  · exact congrArg Outcome.queries hrun
  · rw [InsertId.givesBound_iff rfl]
    exact fun h => Option.some_ne_none _ (hlook.symm.trans h)

end SqlSchema
