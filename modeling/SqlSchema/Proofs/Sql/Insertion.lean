import Mathlib.Data.List.TakeDrop
import SqlSchema.Proofs.Sql.Quoted
import SqlSchema.Proofs.Text.Parts
import SqlSchema.Operation.InsertId

/-!
# Reading the columns of an insertion

An insertion into a quoted table with quoted columns may be set in many ways: its keywords in
any case, blanks around its parts. However it is set, its columns are read back in order. The
table may hold any character but the parenthesis that opens the columns; a column may hold any
but its quote, the comma between columns and the parenthesis that closes them.
-/

namespace SqlSchema.Insertion

/-- A way to set the head of an insertion: how its keywords are spelled and the blanks before
its parts. Only the blanks before `INTO` and before the table must be there. -/
structure Layout where
  insert : String := "INSERT"
  into : String := "INTO"
  values : String := "VALUES"
  beforeInsert : String := ""
  beforeInto : String := " "
  beforeTable : String := " "
  beforeColumns : String := " "
  beforeValues : String := " "
  insert_upper : Text.asciiUpper insert = "INSERT" := by decide
  into_upper : Text.asciiUpper into = "INTO" := by decide
  values_upper : Text.asciiUpper values = "VALUES" := by decide
  beforeInsert_blank : Text.AllBlank beforeInsert := by decide
  beforeInto_blank : Text.AllBlank beforeInto := by decide
  beforeTable_blank : Text.AllBlank beforeTable := by decide
  beforeColumns_blank : Text.AllBlank beforeColumns := by decide
  beforeValues_blank : Text.AllBlank beforeValues := by decide
  beforeInto_ne : beforeInto ≠ "" := by decide
  beforeTable_ne : beforeTable ≠ "" := by decide

def Layout.head (l : Layout) (table : String) (columns : List String) : String :=
  l.beforeInsert ++ l.insert ++ l.beforeInto ++ l.into ++ l.beforeTable ++
    Dialect.standard.quoteName table ++ l.beforeColumns ++ "(" ++
    Dialect.standard.nameList columns ++ ")" ++ l.beforeValues ++ l.values

/-- A name that can stand among the columns and be told apart. -/
def PlainColumn (name : String) : Prop :=
  '"' ∉ name.toList ∧ ',' ∉ name.toList ∧ ')' ∉ name.toList

instance (name : String) : Decidable (PlainColumn name) :=
  inferInstanceAs (Decidable (_ ∧ _ ∧ _))

variable {table : String} {columns : List String}

/-! ## One column -/

theorem columnName_enclose {lead : List Char} (hlead : ∀ c ∈ lead, Text.isBlank c = true)
    {name : String} (h : '"' ∉ name.toList) :
    columnName (lead ++ Quoted.enclose '"' name.toList) = name := by
  have hblanks : Text.trimWhile Text.isBlank (lead ++ Quoted.enclose '"' name.toList) =
      Quoted.enclose '"' name.toList := by
    rw [← List.append_nil (lead ++ _)]
    apply Text.trimWhile_between hlead (by simp)
    · intro c hc
      simp [Quoted.enclose] at hc
      subst hc
      decide
    · intro c hc
      simp [Quoted.enclose, List.getLast?_cons] at hc
      subst hc
      decide
  have hquotes : Text.trimWhile (· = '"') (Quoted.enclose '"' name.toList) = name.toList := by
    rw [Quoted.enclose, Quoted.double_eq_self h]
    apply Text.trimWhile_between (a := ['"']) (b := ['"']) (by simp) (by simp)
    · intro c hc
      have : c ∈ name.toList := List.mem_of_mem_head? hc
      simpa using fun e : c = '"' => h (e ▸ this)
    · intro c hc
      have : c ∈ name.toList := List.mem_of_getLast? hc
      simpa using fun e : c = '"' => h (e ▸ this)
  rw [columnName, hblanks, hquotes, String.ofList_toList]

/-! ## The list of columns -/

theorem not_mem_lead {c : Char} {lead : List Char} (hlead : ∀ c ∈ lead, Text.isBlank c = true)
    (hc : Text.isBlank c = false) : c ∉ lead := by
  intro h
  rw [hlead c h] at hc
  cases hc

theorem PlainColumn.comma_not_mem {name : String} (h : PlainColumn name) {lead : List Char}
    (hlead : ∀ c ∈ lead, Text.isBlank c = true) :
    ',' ∉ lead ++ Quoted.enclose '"' name.toList := by
  rw [List.mem_append, Quoted.mem_enclose (by decide), not_or]
  exact ⟨not_mem_lead hlead (by decide), h.2.1⟩

/-- Columns between commas are read back one by one. What is read may begin with blanks, as it
does behind a comma. -/
theorem map_columnName_splitOn (lead : List Char) (hlead : ∀ c ∈ lead, Text.isBlank c = true) :
    ∀ {columns : List String}, columns ≠ [] → (∀ c ∈ columns, PlainColumn c) →
      (Text.splitOn ',' (lead ++ (Dialect.standard.nameList columns).toList)).map columnName = columns
  | [], hne, _ => absurd rfl hne
  | [a], _, h => by
    have ha := h a List.mem_cons_self
    have hlist : (Dialect.standard.nameList [a]).toList = Quoted.enclose '"' a.toList :=
      Dialect.standard.toList_nameList_singleton a
    rw [hlist, Text.splitOn_of_not_mem (ha.comma_not_mem hlead), List.map_singleton,
      columnName_enclose hlead ha.1]
  | a :: b :: r, _, h => by
    have ha := h a List.mem_cons_self
    have hspace : ∀ c ∈ [' '], Text.isBlank c = true := by
      intro c hc
      rw [List.mem_singleton.mp hc]
      decide
    have ih := map_columnName_splitOn [' '] hspace (List.cons_ne_nil b r)
      fun c hc => h c (List.mem_cons_of_mem a hc)
    have hlist : (Dialect.standard.nameList (a :: b :: r)).toList =
        Quoted.enclose '"' a.toList ++ ',' :: ' ' :: (Dialect.standard.nameList (b :: r)).toList :=
      Dialect.standard.toList_nameList_cons_cons a b r
    rw [hlist, ← List.append_assoc,
      Text.splitOn_append (ha.comma_not_mem hlead), List.map_cons, columnName_enclose hlead ha.1]
    exact congrArg (a :: ·) ih

theorem not_mem_nameList {c : Char} (hq : c ≠ '"') (hcomma : c ≠ ',') (hblank : c ≠ ' ') :
    ∀ {columns : List String}, (∀ a ∈ columns, c ∉ a.toList) →
      c ∉ (Dialect.standard.nameList columns).toList
  | [], _ => by simp [Dialect.nameList]
  | [a], h => by
    have ha := h a List.mem_cons_self
    have hstandard : c ≠ Dialect.standard.quoteChar := hq
    rwa [Dialect.toList_nameList_singleton, Quoted.mem_enclose hstandard]
  | a :: b :: r, h => by
    have ha := h a List.mem_cons_self
    have ih := not_mem_nameList hq hcomma hblank fun d hd => h d (List.mem_cons_of_mem a hd)
    have hstandard : c ≠ Dialect.standard.quoteChar := hq
    rw [Dialect.toList_nameList_cons_cons, List.mem_append, Quoted.mem_enclose hstandard]
    simp [ha, hcomma, hblank, ih]

/-! ## The head -/

theorem upTo?_append {stop : Char} {a : List Char} (h : stop ∉ a) (r : List Char) :
    upTo? stop (a ++ stop :: r) = some (a, r) := by
  have ha : ∀ c ∈ a, decide (c ≠ stop) = true := by
    intro c hc
    simpa using fun e : c = stop => h (e ▸ hc)
  rw [upTo?, List.span_eq_takeWhile_dropWhile, List.takeWhile_append_of_pos ha,
    List.dropWhile_append_of_pos ha]
  simp

theorem toUpper_of_asciiUpper {w word : String} (h : Text.asciiUpper w = word) :
    w.toList.map Char.toUpper = word.toList := by
  rw [← h, Text.asciiUpper, String.toList_ofList]

def Layout.target (l : Layout) (table : String) : List Char :=
  l.beforeTable.toList ++ (Quoted.enclose '"' table.toList ++ l.beforeColumns.toList)

theorem Layout.target_opens (l : Layout) (table : String) :
    ((l.target table).head?.any Text.isBlank && decide (2 ≤ (l.target table).length)) = true := by
  have hblank := l.beforeTable_blank
  have hne := l.beforeTable_ne
  unfold Text.AllBlank at hblank
  unfold target
  cases hl : l.beforeTable.toList with
  | nil => exact absurd (String.toList_eq_nil_iff.mp hl) hne
  | cons c r =>
    rw [hl] at hblank
    simp [hblank c List.mem_cons_self, Quoted.enclose]
    omega

theorem Layout.not_mem_target (l : Layout) (h : '(' ∉ table.toList) : '(' ∉ l.target table := by
  have hblank : Text.isBlank '(' = false := by decide
  simp only [target, List.mem_append, not_or, Quoted.mem_enclose (c := '(') (q := '"') (by decide)]
  exact ⟨not_mem_lead l.beforeTable_blank hblank, h, not_mem_lead l.beforeColumns_blank hblank⟩

theorem Layout.toList_head (l : Layout) (table : String) (columns : List String) (rest : String) :
    (l.head table columns ++ rest).toList =
      l.beforeInsert.toList ++ (l.insert.toList ++ (l.beforeInto.toList ++ (l.into.toList ++
        (l.target table ++ '(' :: ((Dialect.standard.nameList columns).toList ++
          ')' :: (l.beforeValues.toList ++ (l.values.toList ++ rest.toList))))))) := by
  simp [head, target, Dialect.quoteName, Dialect.standard]

theorem Layout.columnText?_head (l : Layout) (ht : '(' ∉ table.toList)
    (hc : ∀ c ∈ columns, PlainColumn c) (rest : String) :
    columnText? (l.head table columns ++ rest).toList =
      some (Dialect.standard.nameList columns).toList := by
  have hinsert := toUpper_of_asciiUpper l.insert_upper
  have hinto := toUpper_of_asciiUpper l.into_upper
  have hvalues := toUpper_of_asciiUpper l.values_upper
  have hclose : ')' ∉ (Dialect.standard.nameList columns).toList :=
    not_mem_nameList (by decide) (by decide) (by decide) fun c h => (hc c h).2.2
  rw [l.toList_head]
  simp only [columnText?,
    Text.skipBlanks_append l.beforeInsert_blank
      (Text.isBlank_head?_of_upper hinsert (by decide) _),
    Text.stripWord?_append hinsert,
    Text.stripBlanks?_append l.beforeInto_blank l.beforeInto_ne
      (Text.isBlank_head?_of_upper hinto (by decide) _),
    Text.stripWord?_append hinto, upTo?_append (l.not_mem_target ht), l.target_opens,
    upTo?_append hclose,
    Text.skipBlanks_append l.beforeValues_blank
      (Text.isBlank_head?_of_upper hvalues (by decide) _),
    Text.stripWord?_append hvalues, Option.bind_eq_bind, Option.bind_some]
  rfl

theorem Layout.columns?_head (l : Layout) (ht : '(' ∉ table.toList) (hne : columns ≠ [])
    (hc : ∀ c ∈ columns, PlainColumn c) (rest : String) :
    columns? (l.head table columns ++ rest) = some columns := by
  have hread := map_columnName_splitOn [] (by simp) hne hc
  rw [columns?, l.columnText?_head ht hc rest, Option.map_some]
  exact congrArg some hread

/-! ## The value of a column -/

theorem explicitId?_of_columns {sql : String} (h : columns? sql = some columns)
    (values : List Datum) (column : String) : explicitId? sql values column =
      (columns.findIdx? fun c => Text.sameIgnoringCase c column).bind fun i =>
        values[i]?.bind Datum.asInt? := by
  simp only [explicitId?, h, Option.bind_eq_bind, Option.bind_some]

theorem explicitId?_of_first {sql : String} (h : columns? sql = some columns) {column : String}
    {i : Nat} (hi : i < columns.length)
    (hname : Text.sameIgnoringCase columns[i] column = true)
    (hfirst : ∀ j (hj : j < i), Text.sameIgnoringCase columns[j] column = false)
    (values : List Datum) : explicitId? sql values column = values[i]?.bind Datum.asInt? := by
  have hindex : (columns.findIdx? fun c => Text.sameIgnoringCase c column) = some i := by
    rw [List.findIdx?_eq_some_iff_getElem]
    refine ⟨hi, hname, fun j hj => ?_⟩
    simpa using hfirst j hj
  rw [explicitId?_of_columns h, hindex, Option.bind_some]

theorem explicitId?_of_none {sql : String} (h : columns? sql = some columns) {column : String}
    (hnone : ∀ c ∈ columns, Text.sameIgnoringCase c column = false) (values : List Datum) :
    explicitId? sql values column = none := by
  rw [explicitId?_of_columns h, List.findIdx?_eq_none_iff.mpr hnone, Option.bind_none]

/-- However the head of an insertion is set, its columns are read back in order, and the value
of a column is the one at the place of the first column of that name. -/
theorem columns_read_back (l : Layout) (table : String) (columns : List String) (rest : String)
    (ht : '(' ∉ table.toList) (hne : columns ≠ []) (hc : ∀ c ∈ columns, PlainColumn c) :
    let sql := l.head table columns ++ rest
    columns? sql = some columns ∧
      ∀ (values : List Datum) (column : String),
        (∀ i (hi : i < columns.length), Text.sameIgnoringCase columns[i] column = true →
          (∀ j (hj : j < i), Text.sameIgnoringCase columns[j] column = false) →
          explicitId? sql values column = values[i]?.bind Datum.asInt?) ∧
        ((∀ c ∈ columns, Text.sameIgnoringCase c column = false) →
          explicitId? sql values column = none) := by
  intro sql
  have hread : columns? sql = some columns := l.columns?_head ht hne hc rest
  refine ⟨hread, fun values column => ⟨?_, ?_⟩⟩
  · intro i hi hname hfirst
    exact explicitId?_of_first hread hi hname hfirst values
  · intro hnone
    exact explicitId?_of_none hread hnone values

theorem columns_read_back_adverse :
    let l : Layout := {
      insert := "iNsErT", into := "Into", values := "values", beforeInsert := " \n",
      beforeInto := "\t", beforeTable := "\u00a0 ", beforeColumns := "", beforeValues := "\n " }
    let table := "t\") values"
    let columns := [" a ", "b(\n", "B(\n"]
    let sql := l.head table columns ++ " (?, ?)"
    '(' ∉ table.toList ∧ (∀ c ∈ columns, PlainColumn c) ∧ columns? sql = some columns ∧
      explicitId? sql [.int 7, .text " 9 "] "B(\n" = some 9 ∧
      explicitId? sql [.int 7, .text " 9 "] "a" = none := by
  intro l table columns sql
  have ht : '(' ∉ table.toList := by decide
  have hc : ∀ c ∈ columns, PlainColumn c := by decide
  obtain ⟨hread, hvalue⟩ :=
    columns_read_back l table columns " (?, ?)" ht (List.cons_ne_nil _ _) hc
  refine ⟨ht, hc, hread, ?_, ?_⟩
  · exact (hvalue [.int 7, .text " 9 "] "B(\n").1 1 (by decide) (by decide) (by decide)
  · exact (hvalue [.int 7, .text " 9 "] "a").2 (by decide)

end SqlSchema.Insertion
