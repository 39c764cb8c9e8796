import SqlSchema.Proofs.Schema.Declaration

/-!
# The text of a table gives the table back

The statements that create a table and its indexes are read back as what the table
defines, whatever characters its names and texts hold: no name can end its quotes early.
-/

namespace SqlSchema

def Index.written (i : Index) (table : String) : WrittenIndex where
  name := i.name
  table := table
  unique := i.unique
  columns := i.columns

/-- What the statements of a table say. There is a key when some column is part of it. -/
def Table.written (t : Table) : WrittenTable where
  name := t.name
  columns := t.columns.map (·.written .stated)
  primaryKey :=
    if t.columns.any (·.primaryKey) then some ((t.columns.filter (·.primaryKey)).map (·.name))
    else none
  indexes := t.indexes.map (·.written t.name)

/-! ## Tokens -/

def Token.ofNames (names : List String) : List Token :=
  [Token.symbol ','].intercalate (names.map fun s => [Token.name s])

def Table.keyTokens (key : List String) : List (List Token) :=
  if key.isEmpty then []
  else [[.word "PRIMARY", .word "KEY", .symbol '('] ++ Token.ofNames key ++ [.symbol ')']]

def Table.partTokens (t : Table) : List (List Token) :=
  t.columns.map (·.tokens .stated) ++ keyTokens t.primaryKey

def Table.tokens (t : Table) : List Token :=
  [.word "CREATE", .word "TABLE", .name t.name, .symbol '('] ++
    [Token.symbol ','].intercalate t.partTokens ++ [.symbol ')']

def Index.tokens (i : Index) (table : String) : List Token :=
  .word "CREATE" :: (if i.unique then [.word "UNIQUE"] else []) ++
    [.word "INDEX", .name i.name, .word "ON", .name table, .symbol '('] ++
    Token.ofNames i.columns ++ [.symbol ')']

namespace Token

theorem closed_comma : Closed ", " [symbol ','] := by
  have h : Closed (String.ofList [','] ++ " ") [symbol ','] :=
    (closed_symbol rfl).append closed_blank
  exact h

theorem closed_open : Closed " (" [symbol '('] := by
  have h : Closed (" " ++ String.ofList ['(']) [symbol '('] :=
    closed_blank.append (closed_symbol rfl)
  exact h

theorem closed_close : Closed ")" [symbol ')'] := closed_symbol rfl

theorem apart_close : Apart ")".toList := by simp [Apart]; decide

theorem apart_open : Apart " (".toList := by simp [Apart]; decide

theorem reads_commas {ss : List String} {tss : List (List Token)} (h : List.Forall₂ Reads ss tss) :
    Reads (", ".intercalate ss) ([symbol ','].intercalate tss) :=
  reads_intercalate closed_comma (by decide) (by simp [Apart]; decide) h

theorem reads_nameList (names : List String) :
    Reads (Dialect.standard.nameList names) (ofNames names) := by
  apply reads_commas
  induction names with
  | nil => exact .nil
  | cons s names ih => exact .cons (reads_name s) ih

theorem forall₂_reads_key (key : List String) : List.Forall₂ Reads
    (if key.isEmpty then [] else ["PRIMARY KEY (" ++ Dialect.standard.nameList key ++ ")"])
    (Table.keyTokens key) := by
  have hs : phrase ["PRIMARY", "KEY"] ++ String.ofList ['('] = "PRIMARY KEY (" := rfl
  have ho : Closed "PRIMARY KEY (" [.word "PRIMARY", .word "KEY", .symbol '('] := by
    rw [← hs]
    exact (closed_phrase _ (by decide)).append (closed_symbol rfl)
  have hk := ((ho.append_reads (reads_nameList key)).append_closed (by decide) apart_close
    closed_close).reads
  unfold Table.keyTokens
  split
  · exact .nil
  · exact .cons hk .nil

theorem forall₂_reads_columns {columns : List Column} (h : ∀ c ∈ columns, c.Plain) :
    List.Forall₂ Reads (columns.map fun c => Dialect.standard.declaration c .stated)
      (columns.map (·.tokens .stated)) := by
  induction columns with
  | nil => exact .nil
  | cons c columns ih =>
    exact .cons (reads_declaration (h c List.mem_cons_self) .stated)
      (ih fun d hd => h d (List.mem_cons_of_mem _ hd))

theorem reads_createTable {t : Table} (h : ∀ c ∈ t.columns, c.Plain) :
    Reads ((Statement.createTable t).sql .standard) t.tokens := by
  have hn : Reads ("CREATE TABLE " ++ Dialect.standard.quoteName t.name)
      [.word "CREATE", .word "TABLE", .name t.name] :=
    (closed_phrase ["CREATE", "TABLE"] (by decide)).append_reads (reads_name t.name)
  have ho := hn.append_closed (by decide) apart_open closed_open
  have hp := reads_commas
    (List.rel_append (forall₂_reads_columns h) (forall₂_reads_key t.primaryKey))
  exact ((ho.append_reads hp).append_closed (by decide) apart_close closed_close).reads

theorem reads_createIndex (i : Index) (table : String) :
    Reads ((Statement.createIndex table i).sql .standard) (i.tokens table) := by
  have hu : Closed (if i.unique then "UNIQUE " else "")
      (if i.unique then [.word "UNIQUE"] else []) := by
    split
    · exact closed_phrase ["UNIQUE"] (by decide)
    · exact closed_phrase [] (by decide)
  have hi := ((closed_phrase ["CREATE"] (by decide)).append hu).append
    (closed_phrase ["INDEX"] (by decide))
  have hon : Closed " ON " [.word "ON"] :=
    closed_blank.append (closed_phrase ["ON"] (by decide))
  have hn := ((hi.append_reads (reads_name i.name)).append_closed (by decide)
    (by simp [Apart]; decide) hon).append_reads (reads_name table)
  have ho := (hn.append_closed (by decide) apart_open closed_open).append_reads
    (reads_nameList i.columns)
  have : Reads ((Statement.createIndex table i).sql .standard) _ :=
    (ho.append_closed (by decide) apart_close closed_close).reads
  simpa [Index.tokens] using this

end Token

/-! ## Reading -/

theorem Token.ofNames_cons_cons (s u : String) (names : List String) :
    ofNames (s :: u :: names) = .name s :: .symbol ',' :: ofNames (u :: names) := by
  simp [ofNames]

theorem Token.names?_ofNames : ∀ (names : List String) (r : List Token),
    names? (ofNames names ++ .symbol ')' :: r) = some (names, r)
  | [], r => by simp [ofNames, names?]
  | [s], r => by simp [ofNames, names?]
  | s :: u :: names, r => by
    rw [ofNames_cons_cons, List.cons_append, List.cons_append, names?,
      names?_ofNames (u :: names) r]
    rfl

namespace WrittenTable

theorem parts?_last {ts : List Token} {c : WrittenColumn}
    (h : WrittenColumn.read? ts = some (c, [.symbol ')'])) : parts? ts = some ([c], none) := by
  rw [parts?.eq_def]
  split
  · simp [WrittenColumn.read?] at h
  · split <;> simp_all

theorem parts?_more {ts r : List Token} {c : WrittenColumn}
    (h : WrittenColumn.read? ts = some (c, .symbol ',' :: r)) :
    parts? ts = (parts? r).map fun (columns, key) => (c :: columns, key) := by
  rw [parts?.eq_def]
  split
  · simp [WrittenColumn.read?] at h
  · split <;> simp_all

theorem parts?_key (key : List String) :
    parts? (.word "PRIMARY" :: .word "KEY" :: .symbol '(' ::
      (Token.ofNames key ++ [Token.symbol ')', Token.symbol ')'])) = some ([], some key) := by
  have := Token.names?_ofNames key [.symbol ')']
  rw [parts?.eq_def]
  simp [this]

/-- The columns and the key of a table that has any are read back. -/
theorem parts?_tokens (key : List String) : ∀ {columns : List Column}, (∀ c ∈ columns, c.Plain) →
    ¬ (columns = [] ∧ key = []) →
    parts? ([Token.symbol ','].intercalate
        (columns.map (·.tokens .stated) ++ Table.keyTokens key) ++ [.symbol ')']) =
      some (columns.map (·.written .stated), if key.isEmpty then none else some key)
  | [], _, hne => by
    have hk : key ≠ [] := fun he => hne ⟨rfl, he⟩
    simpa [Table.keyTokens, hk] using parts?_key key
  | c :: columns, h, _ => by
    have hc := h c List.mem_cons_self
    have hcs : ∀ d ∈ columns, d.Plain := fun d hd => h d (List.mem_cons_of_mem _ hd)
    by_cases hlast : columns = [] ∧ key = []
    · obtain ⟨rfl, rfl⟩ := hlast
      have hr := WrittenColumn.read?_tokens hc .stated (r := [.symbol ')'])
        (by simp [WrittenColumn.Ends])
      simp [Table.keyTokens, parts?_last hr]
    · have ih := parts?_tokens key hcs hlast
      have hrest : columns.map (·.tokens .stated) ++ Table.keyTokens key ≠ [] := by
        intro he
        apply hlast
        rw [List.append_eq_nil_iff, List.map_eq_nil_iff, Table.keyTokens] at he
        refine ⟨he.1, ?_⟩
        by_contra hk
        rw [if_neg (by simpa using hk)] at he
        cases he.2
      rw [List.map_cons, List.cons_append, List.intercalate_cons_of_ne_nil hrest,
        List.append_assoc, List.append_assoc, List.singleton_append]
      rw [parts?_more (WrittenColumn.read?_tokens hc .stated (by simp [WrittenColumn.Ends])), ih]
      rfl

theorem ofTokens?_parts {name : String} {r : List Token} {columns : List WrittenColumn}
    {key : Option (List String)} (h : parts? r = some (columns, key)) :
    ofTokens? (.word "CREATE" :: .word "TABLE" :: .name name :: .symbol '(' :: r) =
      some { name, columns, primaryKey := key } := by
  unfold ofTokens?
  split
  · rename_i he
    simp only [List.cons.injEq] at he
    obtain ⟨-, -, -, -, rfl⟩ := he
    rw [parts?.eq_def] at h
    simp [WrittenColumn.read?] at h
  · simp_all
  · simp_all

theorem ofTokens?_tokens {t : Table} (h : ∀ c ∈ t.columns, c.Plain) :
    ofTokens? t.tokens = some { t.written with indexes := [] } := by
  have hkey : (if t.primaryKey.isEmpty then none else some t.primaryKey) =
      t.written.primaryKey := by
    unfold Table.written Table.primaryKey
    by_cases hany : t.columns.any (·.primaryKey) = true
    · have : t.columns.filter (·.primaryKey) ≠ [] := by
        obtain ⟨c, hc, hk⟩ := List.any_eq_true.mp hany
        exact List.ne_nil_of_mem (List.mem_filter.mpr ⟨hc, hk⟩)
      simp [hany, this]
    · have : t.columns.filter (·.primaryKey) = [] := by
        simpa [List.filter_eq_nil_iff] using hany
      simp [hany, this]
  by_cases hempty : t.columns = [] ∧ t.primaryKey = []
  · obtain ⟨hc, hk⟩ := hempty
    simp [Table.tokens, Table.partTokens, Table.written, Table.keyTokens, hc, hk, ofTokens?]
  · have hp := parts?_tokens t.primaryKey h hempty
    have hs : t.tokens = .word "CREATE" :: .word "TABLE" :: .name t.name :: .symbol '(' ::
        ([Token.symbol ','].intercalate
          (t.columns.map (·.tokens .stated) ++ Table.keyTokens t.primaryKey) ++ [.symbol ')']) := by
      simp [Table.tokens, Table.partTokens]
    rw [hs, ofTokens?_parts hp, hkey]
    rfl

end WrittenTable

theorem WrittenIndex.ofTokens?_tokens (i : Index) (table : String) :
    ofTokens? (i.tokens table) = some (i.written table) := by
  have hn := Token.names?_ofNames i.columns []
  unfold Index.tokens Index.written
  cases hu : i.unique with
  | true => simp [ofTokens?, onColumns?, hn]
  | false => simp [ofTokens?, onColumns?, hn]

theorem WrittenIndex.mapM_tokens (table : String) (indexes : List Index) :
    ((indexes.map (Statement.createIndex table)).map (Statement.sql .standard)).mapM
        (fun sql => (Token.ofText? sql).bind ofTokens?) =
      some (indexes.map (·.written table)) := by
  induction indexes with
  | nil => rfl
  | cons i indexes ih =>
    rw [List.map_cons, List.map_cons, List.mapM_cons, ih,
      (Token.reads_createIndex i table).ofText?, Option.bind_some, ofTokens?_tokens]
    rfl

/-- The statements of a table whose columns take over no SQL text are read back as what the
table defines: its name, its columns with their clauses in order, its key, which is there
when a column is marked, and its indexes in order. -/
theorem written_of_statements (t : Table) (h : ∀ c ∈ t.columns, c.Plain) :
    WrittenTable.read? (t.statements.map (Statement.sql .standard)) = some t.written := by
  have ht := (Token.reads_createTable h).ofText?
  have hi := WrittenIndex.mapM_tokens t.name t.indexes
  rw [Table.statements, List.map_cons, WrittenTable.read?, ht]
  simp only [Option.bind_eq_bind, Option.bind_some, WrittenTable.ofTokens?_tokens h, hi]
  rfl

/-- A table whose names and texts are made of what the syntax is made of. -/
def Table.adverse : Table where
  name := "t\" (\"id\" INT); --"
  columns := [
    { name := "a\", \"b", type := .varchar (some 20), default := some (.string "it's, ')"),
      unique := true, collation := some "x\"y" },
    { name := "", type := .integer, primaryKey := true, default := some (.integer (-7)) },
    { name := "\"", type := .timestampTz, nullable := true, primaryKey := true },
    { name := "PRIMARY KEY (", type := .boolean, default := some (.bool true) }]
  indexes := [
    { name := "i\"", columns := ["", ")\""], unique := true },
    { name := "' ON", columns := [] }]

theorem written_of_statements_adverse :
    (∀ c ∈ Table.adverse.columns, c.Plain) ∧
    WrittenTable.read? (Table.adverse.statements.map (Statement.sql .standard)) = some
      { name := "t\" (\"id\" INT); --"
        columns := [
          { name := "a\", \"b", type := "VARCHAR2(20)", default := some (.text "it's, ')"),
            nullable := some false, unique := true, collation := some "x\"y" },
          { name := "", type := "INT", default := some (.integer (-7)),
            nullable := some false },
          { name := "\"", type := "TIMESTAMP WITH TIME ZONE", nullable := some true },
          { name := "PRIMARY KEY (", type := "TINYINT", default := some (.integer 1),
            nullable := some false }]
        primaryKey := some ["", "\""]
        indexes := [
          { name := "i\"", table := "t\" (\"id\" INT); --", unique := true,
            columns := ["", ")\""] },
          { name := "' ON", table := "t\" (\"id\" INT); --", unique := false,
            columns := [] }] } := by
  have h : ∀ c ∈ Table.adverse.columns, c.Plain := by
    intro c hc
    simp only [Table.adverse, List.mem_cons, List.not_mem_nil, or_false] at hc
    rcases hc with rfl | rfl | rfl | rfl <;>
      exact ⟨rfl, rfl, rfl, by simp [Default.written?]⟩
  exact ⟨h, (written_of_statements Table.adverse h).trans (by decide)⟩

end SqlSchema
