import Mathlib.Data.List.Nodup
import SqlSchema.Proofs.Schema.Alteration
import SqlSchema.Proofs.Schema.Declaration
import SqlSchema.Proofs.Sql.Remark

/-!
# Alterations replayed

What the statements of an alteration make of the columns in a catalog. A `MODIFY` sets what its
clauses say and leaves the rest as it was; so does a comment. The columns come to their new
definitions, but a default or a comment that is to go is one that no clause speaks of.
-/

namespace SqlSchema

/-- What a catalog has of a column. Without a default it is NULL, without a comment empty. -/
structure ColumnState where
  type : String
  nullable : Bool
  default : String
  comment : String
  deriving DecidableEq

def Column.state (c : Column) : ColumnState where
  type := c.type.sql
  nullable := c.nullable
  default := (c.default.getD .null).sql
  comment := c.comment.getD ""

namespace ColumnState

variable (st : ColumnState)

def defaultOf? (clause : String) : Option String :=
  ("DEFAULT ".toList.isPrefixOf? clause.toList).map String.ofList

def take (clause : String) : ColumnState :=
  if clause = "NULL" then { st with nullable := true }
  else if clause = "NOT NULL" then { st with nullable := false }
  else (defaultOf? clause).elim st fun sql => { st with default := sql }

/-- Takes in the parts of a declaration behind the name, the type first. -/
def modify : List String → ColumnState
  | [] => st
  | type :: clauses => clauses.foldl take { st with type }

theorem modify_cons (type : String) (clauses : List String) :
    st.modify (type :: clauses) = clauses.foldl take { st with type } := rfl

theorem take_default (sql : String) : st.take ("DEFAULT " ++ sql) = { st with default := sql } := by
  have hnull : "DEFAULT " ++ sql ≠ "NULL" := by
    intro h
    have := congrArg String.toList h
    simp at this
  have hnot : "DEFAULT " ++ sql ≠ "NOT NULL" := by
    intro h
    have := congrArg String.toList h
    simp at this
  have hdefault : defaultOf? ("DEFAULT " ++ sql) = some sql := by
    rw [defaultOf?, String.toList_append]
    simp [List.isPrefixOf?]
  rw [take, if_neg hnull, if_neg hnot, hdefault]
  rfl

/-- A clause that starts with another letter says nothing of what is kept here. -/
theorem take_other {clause : String} {c : Char} (h : clause.toList.head? = some c) (hn : c ≠ 'N')
    (hd : c ≠ 'D') : st.take clause = st := by
  have hnull : clause ≠ "NULL" := by
    rintro rfl
    exact hn (Option.some.inj h).symm
  have hnot : clause ≠ "NOT NULL" := by
    rintro rfl
    exact hn (Option.some.inj h).symm
  have hdefault : defaultOf? clause = none := by
    obtain ⟨rest, hclause⟩ := List.head?_eq_some_iff.mp h
    rw [defaultOf?, hclause]
    simp [List.isPrefixOf?, Ne.symm hd]
  rw [take, if_neg hnull, if_neg hnot, hdefault]
  rfl

theorem foldl_take_option {α : Type} {f : α → String} {c : Char} (hn : c ≠ 'N') (hd : c ≠ 'D')
    (o : Option α) (h : ∀ a, (f a).toList.head? = some c) :
    (o.map f).toList.foldl take st = st := by
  cases o with
  | none => rfl
  | some a => exact st.take_other (h a) hn hd

theorem foldl_take_unique (unique : Bool) :
    (if unique then ["UNIQUE"] else []).foldl take st = st := by
  cases unique with
  | true =>
    have hfirst : "UNIQUE".toList.head? = some 'U' := by decide
    exact st.take_other hfirst (by decide) (by decide)
  | false => rfl

theorem foldl_take_default (o : Option Default) :
    ((o.map fun v => "DEFAULT " ++ v.sql).toList).foldl take st =
      { st with default := o.elim st.default Default.sql } := by
  cases o with
  | none => rfl
  | some v => exact st.take_default v.sql

theorem foldl_take_nulls (nulls : NullClause) (nullable : Bool) :
    (if nulls = .stated then [Dialect.nullClause nullable] else []).foldl take st =
      { st with nullable := if nulls = .stated then nullable else st.nullable } := by
  cases nulls with
  | stated => cases nullable <;> rfl
  | omitted => rfl

theorem modify_clauses {c : Column} (h : c.definition = none) (nulls : NullClause) :
    st.modify (Dialect.standard.clauses c nulls) = { st with
      type := c.type.sql
      default := c.default.elim st.default Default.sql
      nullable := if nulls = .stated then c.nullable else st.nullable } := by
  have hcharset (st : ColumnState) := st.foldl_take_option (c := 'C') (f := Dialect.charsetClause)
    (by decide) (by decide) c.charset (by simp [Dialect.charsetClause])
  have hcheck (st : ColumnState) := st.foldl_take_option (c := 'C')
    (f := fun condition => "CHECK (" ++ condition ++ ")") (by decide) (by decide) c.check (by simp)
  have hcollation (st : ColumnState) := st.foldl_take_option (c := 'C')
    (f := Dialect.standard.collationClause) (by decide) (by decide) c.collation
    (by simp [Dialect.collationClause])
  have hinline : Dialect.standard.inlineComments = false := rfl
  rw [Dialect.clauses, h]
  simp only [hinline, List.append_assoc, List.cons_append, modify_cons, List.foldl_append,
    foldl_take_default, foldl_take_nulls, foldl_take_unique, hcharset, hcheck,
    hcollation]
  rfl

end ColumnState

/-! ## Catalogs -/

/-- The columns of tables by name. -/
abbrev Catalog := String → String → Option ColumnState

namespace Catalog

variable (k : Catalog)

def adjust (table column : String) (f : ColumnState → ColumnState) : Catalog := fun t n =>
  if t = table ∧ n = column then (k t n).map f else k t n

def comment (table column text : String) : Catalog :=
  k.adjust table column fun st => { st with comment := text }

/-- The catalog after a statement that changes or comments on a column. -/
def replay : Statement → Catalog
  | .modifyColumn table c nulls =>
    k.adjust table c.name fun st => st.modify (Dialect.standard.clauses c nulls)
  | .commentOnColumn table column text => k.comment table column text
  | _ => k

theorem adjust_self (table column : String) (f : ColumnState → ColumnState) :
    k.adjust table column f table column = (k table column).map f := by
  rw [adjust, if_pos ⟨rfl, rfl⟩]

variable {k} {β : Type} {table : String} {name : β → String} {f : β → ColumnState → ColumnState}

theorem foldl_adjust_other {t n : String} {l : List β} (h : ¬ (t = table ∧ n ∈ l.map name)) :
    l.foldl (fun k b => k.adjust table (name b) (f b)) k t n = k t n := by
  induction l generalizing k with
  | nil => rfl
  | cons b rest ih =>
    rw [List.map_cons, List.mem_cons] at h
    have hrest : ¬ (t = table ∧ n ∈ rest.map name) := fun hr => h ⟨hr.1, .inr hr.2⟩
    have hb : ¬ (t = table ∧ n = name b) := fun hb => h ⟨hb.1, .inl hb.2⟩
    rw [List.foldl_cons, ih hrest, adjust, if_neg hb]

/-- Of several columns with different names, each is adjusted once. -/
theorem foldl_adjust_mem {l : List β} (hl : (l.map name).Nodup) {b : β} (hb : b ∈ l) :
    l.foldl (fun k b => k.adjust table (name b) (f b)) k table (name b) =
      (k table (name b)).map (f b) := by
  induction l generalizing k with
  | nil => cases hb
  | cons a rest ih =>
    rw [List.map_cons, List.nodup_cons] at hl
    rw [List.foldl_cons]
    rcases List.mem_cons.mp hb with rfl | hb
    · have hother : ¬ (table = table ∧ name b ∈ rest.map name) := fun h => hl.1 h.2
      rw [foldl_adjust_other hother, adjust_self]
    · have hne : ¬ (table = table ∧ name b = name a) :=
        fun h => hl.1 (h.2 ▸ List.mem_map.mpr ⟨b, hb, rfl⟩)
      rw [ih hl.2 hb, adjust, if_neg hne]

end Catalog

/-! ## Texts -/

def WrittenDefault.sql : WrittenDefault → String
  | null => "NULL"
  | integer n => toString n
  | text s => Quoted.literal s

theorem Default.sql_written {v : Default} {w : WrittenDefault} (h : v.written? = some w) :
    w.sql = v.sql := by
  cases v with
  | null => cases h; rfl
  | bool b => cases h; cases b <;> rfl
  | integer n => cases h; rfl
  | string s => cases h; rfl
  | float x => cases h
  | expression sql => cases h

/-- What a declaration read from its tokens makes of its column. -/
def WrittenColumn.alter (w : WrittenColumn) (st : ColumnState) : ColumnState where
  type := w.type
  nullable := w.nullable.getD st.nullable
  default := w.default.elim st.default WrittenDefault.sql
  comment := st.comment

namespace Catalog

/-- The catalog after a text that changes or comments on a column, read from its tokens. -/
def ofTokens? (k : Catalog) : List Token → Option Catalog
  | .word "ALTER" :: .word "TABLE" :: .name table :: .word "MODIFY" :: rest =>
    match WrittenColumn.read? rest with
    | some (w, []) => some (k.adjust table w.name w.alter)
    | _ => none
  | [.word "COMMENT", .word "ON", .word "COLUMN", .name table, .symbol '.', .name column,
      .word "IS", .literal text] => some (k.comment table column text)
  | _ => none

def read? (k : Catalog) (sql : String) : Option Catalog := (Token.ofText? sql).bind k.ofTokens?

variable (k : Catalog)

open Token

theorem alter_written {c : Column} (h : c.Plain) (nulls : NullClause) (st : ColumnState) :
    (c.written nulls).alter st = st.modify (Dialect.standard.clauses c nulls) := by
  rw [ColumnState.modify_clauses _ h.definition]
  have hdefault : (c.default.bind Default.written?).elim st.default WrittenDefault.sql =
      c.default.elim st.default Default.sql := by
    cases hv : c.default with
    | none => rfl
    | some v =>
      obtain ⟨w, hw⟩ := Option.isSome_iff_exists.mp (h.default v hv)
      rw [Option.bind_some, hw, Option.elim_some, Option.elim_some, Default.sql_written hw]
  have hnullable : (if nulls = .stated then some c.nullable else none).getD st.nullable =
      if nulls = .stated then c.nullable else st.nullable := by
    cases nulls <;> rfl
  rw [WrittenColumn.alter, Column.written, hdefault, hnullable]

theorem read?_modifyColumn (table : String) {c : Column} (h : c.Plain) (nulls : NullClause) :
    k.read? ((Statement.modifyColumn table c nulls).sql .standard) =
      some (k.replay (.modifyColumn table c nulls)) := by
  have htable := (closed_phrase ["ALTER", "TABLE"] (by decide)).append_reads (reads_name table)
  have hall : Reads ((Statement.modifyColumn table c nulls).sql .standard) _ :=
    (htable.blank_closed (closed_phrase ["MODIFY"] (by decide))).append_reads
      (reads_declaration h nulls)
  have hdeclaration := WrittenColumn.read?_tokens h nulls (r := []) (by simp [WrittenColumn.Ends])
  rw [List.append_nil] at hdeclaration
  rw [read?, hall.ofText?, Option.bind_some]
  simp only [List.map_cons, List.map_nil, List.cons_append, List.nil_append, ofTokens?,
    hdeclaration, replay]
  congr 2
  funext st
  exact alter_written h nulls st

theorem read?_commentOnColumn (table column text : String) :
    k.read? ((Statement.commentOnColumn table column text).sql .standard) =
      some (k.replay (.commentOnColumn table column text)) := by
  have hall : Reads ((Statement.commentOnColumn table column text).sql .standard) _ :=
    Remark.reads_statement ⟨.column table column, text⟩
  rw [read?, hall.ofText?, Option.bind_some]
  rfl

end Catalog

/-! ## Alterations -/

namespace ColumnChange

variable (c : ColumnChange)

def declare (st : ColumnState) : ColumnState :=
  st.modify (Dialect.standard.clauses c.new (if c.changesNullability then .stated else .omitted))

def remark (st : ColumnState) : ColumnState :=
  (Dialect.comment? c.new).elim st fun text => { st with comment := text }

theorem declare_old (h : c.new.definition = none) : c.declare c.old.state =
    { type := c.new.type.sql
      nullable := c.new.nullable
      default := c.new.default.elim c.old.state.default Default.sql
      comment := c.old.state.comment } := by
  have hnullable : (if (if c.changesNullability then NullClause.stated else .omitted) = .stated then
      c.new.nullable else c.old.nullable) = c.new.nullable := by
    unfold changesNullability
    cases c.old.nullable <;> cases c.new.nullable <;> rfl
  rw [declare, ColumnState.modify_clauses _ h]
  exact congrArg (ColumnState.mk _ · _ _) hnullable

theorem remark_eq (st : ColumnState) : c.remark st = { st with
    comment := if c.new.state.comment = "" then st.comment else c.new.state.comment } := by
  unfold remark Dialect.comment? Column.state
  cases hcomment : c.new.comment with
  | none => simp
  | some text =>
    by_cases h : text = ""
    · simp [Option.filter_some, h]
    · simp [Option.filter_some, h]

theorem default_reaches (h : c.new.default.isSome = true ∨ c.old.state.default = "NULL") :
    c.new.default.elim c.old.state.default Default.sql = c.new.state.default := by
  unfold Column.state at h ⊢
  cases hnew : c.new.default with
  | some v => rfl
  | none =>
    rw [hnew] at h
    rcases h with h | h
    · cases h
    · exact h

end ColumnChange

theorem Catalog.adjust_remark (k : Catalog) (table : String) (c : ColumnChange) :
    k.adjust table c.new.name c.remark =
      (((Dialect.comment? c.new).map (.commentOnColumn table c.new.name)).elim k k.replay) := by
  unfold ColumnChange.remark
  cases Dialect.comment? c.new with
  | none =>
    funext t n
    simp [adjust]
  | some text => rfl

theorem Catalog.foldl_replay {a : Alteration} {l : List Statement} (h : a.statements = .ok l)
    (k : Catalog) : l.foldl replay k =
      a.changed.foldl (fun k c => k.adjust a.name c.new.name c.remark)
        (a.changed.foldl (fun k c => k.adjust a.name c.new.name c.declare) k) := by
  unfold Alteration.statements at h
  split at h
  · cases h
  · cases h
    rw [List.foldl_append, List.foldl_map, List.foldl_filterMap]
    simp only [adjust_remark]
    congr 1
    funext k c
    cases (Dialect.comment? c.new) <;> rfl

theorem Catalog.read?_of_mem_statements {a : Alteration} {l : List Statement}
    (h : a.statements = .ok l) (hplain : ∀ c ∈ a.changed, c.new.Plain) {u : Statement}
    (hu : u ∈ l) (k : Catalog) : k.read? (u.sql .standard) = some (k.replay u) := by
  obtain ⟨c, hc, rfl | ⟨comment, rfl⟩⟩ := Alteration.of_mem_statements h hu
  · exact read?_modifyColumn k a.name (hplain c hc) _
  · exact read?_commentOnColumn k a.name c.new.name comment

theorem Catalog.foldlM_read? {l : List Statement}
    (h : ∀ u ∈ l, ∀ k : Catalog, k.read? (u.sql .standard) = some (k.replay u)) (k : Catalog) :
    (l.map (Statement.sql .standard)).foldlM read? k = some (l.foldl replay k) := by
  induction l generalizing k with
  | nil => rfl
  | cons u rest ih =>
    rw [List.map_cons, List.foldlM_cons, h u List.mem_cons_self k]
    exact ih (fun v hv => h v (List.mem_cons_of_mem u hv)) (k.replay u)

/-- An alteration of different columns brings each of them to the type and the nullability of its
new definition, to its default if it has one or there was none before, and to its comment if it
has one; else the comment stays. No other column changes. Read from the tokens of their texts
the statements do the same, as far as these contain no SQL taken as it is. -/
theorem alteration_reaches_new {a : Alteration} {l : List Statement} (h : a.statements = .ok l)
    (hdefinition : ∀ c ∈ a.changed, c.new.definition = none)
    (hnames : (a.changed.map fun c => c.new.name).Nodup) {start : Catalog}
    (hstart : ∀ c ∈ a.changed, start a.name c.old.name = some c.old.state) :
    let after := l.foldl Catalog.replay start
    (∀ c ∈ a.changed, ∃ st, after a.name c.new.name = some st ∧
      st.type = c.new.state.type ∧ st.nullable = c.new.state.nullable ∧
      (c.new.default.isSome ∨ c.old.state.default = "NULL" → st.default = c.new.state.default) ∧
      st.comment = if c.new.state.comment = "" then c.old.state.comment else c.new.state.comment) ∧
    (∀ table column, ¬ (table = a.name ∧ column ∈ a.changed.map fun c => c.new.name) →
      after table column = start table column) ∧
    ((∀ c ∈ a.changed, c.new.Plain) →
      (l.map (Statement.sql .standard)).foldlM Catalog.read? start = some after) := by
  intro after
  have hafter : after = _ := Catalog.foldl_replay h start
  refine ⟨fun c hc => ?_, fun table column hother => ?_, fun hplain => ?_⟩
  · have hplace := ((Alteration.statements_ok_iff a).mp ⟨l, h⟩).names c hc
    have hold : start a.name c.new.name = some c.old.state := hplace ▸ hstart c hc
    -- all columns are declared before any is commented on, but each is met once in both rounds
    have hstate : after a.name c.new.name = some (c.remark (c.declare c.old.state)) := by
      rw [hafter, Catalog.foldl_adjust_mem hnames hc, Catalog.foldl_adjust_mem hnames hc, hold]
      rfl
    rw [c.remark_eq, c.declare_old (hdefinition c hc)] at hstate
    exact ⟨_, hstate, rfl, rfl, c.default_reaches, rfl⟩
  · rw [hafter, Catalog.foldl_adjust_other hother, Catalog.foldl_adjust_other hother]
  · exact Catalog.foldlM_read? (fun u hu => Catalog.read?_of_mem_statements h hplain hu) start

theorem alteration_reaches_new_adverse :
    let price : Column := {
      name := "price", type := .integer, default := some (.integer 1), comment := some "net" }
    let gross : Column := { price with
      type := .bigInt, nullable := true, default := some (.string "' NULL"), comment := some "" }
    let note : Column := { name := "NOT NULL", type := .varchar none, nullable := true }
    let remark : Column := { note with nullable := false, unique := true, comment := some "it's" }
    let a : Alteration := { name := "t", changed := [⟨price, gross⟩, ⟨note, remark⟩] }
    let start : Catalog := fun table column =>
      if table = "t" ∧ column = "price" then some price.state
      else if table = "t" ∧ column = "NOT NULL" then some note.state else none
    ∃ l, a.statements = .ok l ∧
      (a.changed.map fun c => c.new.name).Nodup ∧
      (∀ c ∈ a.changed, c.new.definition = none ∧ start a.name c.old.name = some c.old.state) ∧
      (∃ st, l.foldl Catalog.replay start "t" "price" = some st ∧ st.type = "BIGINT" ∧
        st.nullable = true ∧ st.default = Quoted.literal "' NULL" ∧ st.comment = "net") ∧
      (l.map (Statement.sql .standard)).foldlM Catalog.read? start =
        some (l.foldl Catalog.replay start) := by
  intro price gross note remark a start
  have hdefinition : ∀ c ∈ a.changed, c.new.definition = none := by
    intro c hc
    rcases List.mem_pair.mp hc with rfl | rfl <;> rfl
  have hstart : ∀ c ∈ a.changed, start a.name c.old.name = some c.old.state := by
    intro c hc
    rcases List.mem_pair.mp hc with rfl | rfl <;> rfl
  have hplain : ∀ c ∈ a.changed, c.new.Plain := by
    intro c hc
    rcases List.mem_pair.mp hc with rfl | rfl
    · exact ⟨rfl, rfl, rfl, by simp [gross, Default.written?]⟩
    · exact ⟨rfl, rfl, rfl, by simp [remark, note]⟩
  have hnames : (a.changed.map fun c => c.new.name).Nodup := by decide
  obtain ⟨hcolumns, -, hread⟩ := alteration_reaches_new (a := a) rfl hdefinition hnames hstart
  refine ⟨_, rfl, hnames, fun c hc => ⟨hdefinition c hc, hstart c hc⟩, ?_, hread hplain⟩
  obtain ⟨st, hst, htype, hnullable, hdefault, hcomment⟩ := hcolumns ⟨price, gross⟩ (by simp [a])
  exact ⟨st, hst, htype, hnullable, hdefault (.inl rfl), hcomment⟩

/-- A default and a comment that are to go stay as they were. -/
theorem alteration_keeps_removed :
    let old : Column := {
      name := "a", type := .integer, default := some (.integer 1), comment := some "x" }
    let new : Column := { name := "a", type := .integer, comment := some "" }
    let a : Alteration := { name := "t", changed := [⟨old, new⟩] }
    let start : Catalog := fun table column =>
      if table = "t" ∧ column = "a" then some old.state else none
    ∃ l, a.statements = .ok l ∧
      l.map (Statement.sql .standard) = ["ALTER TABLE \"t\" MODIFY \"a\" INT"] ∧
      l.foldl Catalog.replay start "t" "a" = some old.state ∧
      old.state.default ≠ new.state.default ∧ old.state.comment ≠ new.state.comment := by
  intro old new a start
  refine ⟨_, rfl, ?_, ?_, ?_, ?_⟩
  · decide
  · decide
  · decide
  · decide

end SqlSchema
