import SqlSchema.Dialect.Query
import SqlSchema.Proofs.Sql.Token

/-!
# What a text does with a sequence

The texts that create, bind, look for, read or drop a sequence, read from their tokens alone:
the name is that in the quotes, whether these are the quotes of a name or of a literal. The
texts of the dialect are read back as what they are for.
-/

namespace SqlSchema

inductive SequenceUse
  | create (name : String)
  | bind (table column name : String)
  | probe (owner name : String)
  | value (name : String) (which : SequenceValue)
  | drop (name : String)
  deriving DecidableEq

namespace SequenceUse

def ofTokens? : List Token → Option SequenceUse
  | .word "CREATE" :: .word "SEQUENCE" :: .name name :: _ => some (create name)
  | [.word "DROP", .word "SEQUENCE", .name name] => some (drop name)
  | [.word "ALTER", .word "TABLE", .name table, .word "MODIFY", .name column, .word "DEFAULT",
      .name name, .symbol '.', .word "NEXTVAL"] => some (bind table column name)
  | [.word "SELECT", .symbol '*', .word "FROM", .word "ALL_SEQUENCES", .word "WHERE",
      .word "SEQUENCE_OWNER", .symbol '=', .literal owner, .word "AND", .word "SEQUENCE_NAME",
      .symbol '=', .literal name] => some (probe owner name)
  | .word "SELECT" :: .name name :: .symbol '.' :: .word "NEXTVAL" :: _ => some (value name .next)
  | .word "SELECT" :: .name name :: .symbol '.' :: .word "CURRVAL" :: _ =>
    some (value name .current)
  | _ => none

def read? (sql : String) : Option SequenceUse := (Token.ofText? sql).bind ofTokens?

open Token

theorem reads_member {w s : String} (hw : isWord w = true) (hs : String.ofList ['.'] ++ w = s) :
    Reads s [symbol '.', word w] := by
  rw [← hs]
  exact (closed_symbol rfl).append_reads (reads_word hw)

theorem read?_of_reads {sql : String} {ts : List Token} (h : Reads sql ts) :
    read? sql = ofTokens? ts := by
  rw [read?, h.ofText?, Option.bind_some]

/-- Other texts are told apart by their first tokens, whatever follows. -/
theorem read?_eq_none {a sql : String} {ts : List Token} (h : Closed a ts)
    (hts : ∀ us, ofTokens? (ts ++ us) = none) (hsql : a.toList <+: sql.toList) :
    read? sql = none := by
  obtain ⟨rest, hrest⟩ := hsql
  rw [read?, Token.ofText?, ← hrest, h rest]
  cases Token.read? rest with
  | none => rfl
  | some us => exact hts us

theorem prefix_foldl {a : String} : ∀ {b : String} (l : List String), a.toList <+: b.toList →
    a.toList <+: (l.foldl (· ++ ·) b).toList
  | _, [], h => h
  | b, c :: l, h => by
    refine prefix_foldl l ?_
    rw [String.toList_append]
    exact h.trans (List.prefix_append _ _)

theorem read?_createSequence (name : String) (first step : Int64) :
    read? ((Statement.createSequence name first step).sql .standard) = some (create name) := by
  have hname := (closed_phrase ["CREATE", "SEQUENCE"] (by decide)).append_reads (reads_name name)
  have hstart := (hname.blank_closed (closed_phrase ["START", "WITH"] (by decide))).append_reads
    (reads_int first.toInt)
  have hstep := (hstart.blank_closed (closed_phrase ["INCREMENT", "BY"] (by decide))).append_reads
    (reads_int step.toInt)
  have hall : Reads ((Statement.createSequence name first step).sql .standard) _ := hstep
  rw [read?_of_reads hall]
  rfl

theorem read?_dropSequence (name : String) :
    read? ((Statement.dropSequence name).sql .standard) = some (drop name) := by
  have hname := (closed_phrase ["DROP", "SEQUENCE"] (by decide)).append_reads (reads_name name)
  have hall : Reads ((Statement.dropSequence name).sql .standard) _ := hname
  rw [read?_of_reads hall]
  rfl

theorem reads_next : Reads ".NEXTVAL" [symbol '.', word "NEXTVAL"] :=
  reads_member (by decide) rfl

theorem apart_member (s : String) : Apart ("." ++ s).toList := by
  simp [Apart]
  decide

theorem read?_bindSequence (table column name : String) :
    read? ((Statement.bindSequence table column name).sql .standard) =
      some (bind table column name) := by
  have htable := (closed_phrase ["ALTER", "TABLE"] (by decide)).append_reads (reads_name table)
  have hcolumn := (htable.blank_closed (closed_phrase ["MODIFY"] (by decide))).append_reads
    (reads_name column)
  have hname := (hcolumn.blank_closed (closed_phrase ["DEFAULT"] (by decide))).append_reads
    (reads_name name)
  have hall : Reads ((Statement.bindSequence table column name).sql .standard) _ :=
    hname.append_reads (by decide) (apart_member "NEXTVAL") reads_next
  rw [read?_of_reads hall]
  rfl

theorem sql_sequenceExists (owner name : String) :
    (Query.sequenceExists owner name).sql .standard =
      "SELECT * FROM ALL_SEQUENCES WHERE SEQUENCE_OWNER = " ++ Quoted.literal (Text.upper owner) ++
        (" " ++ "AND SEQUENCE_NAME = ") ++ Quoted.literal name := by
  have hs : " AND SEQUENCE_NAME = " = " " ++ "AND SEQUENCE_NAME = " := rfl
  simp only [Query.sql, Query.parts, Query.Part.sql, Query.Part.upper, List.map_cons, List.map_nil,
    String.join_cons, String.join_nil, String.append_empty, hs, String.append_assoc]

theorem closed_is {words : List String} {s : String} (h : ∀ w ∈ words, isWord w = true)
    (hs : phrase words ++ (String.ofList ['='] ++ " ") = s) :
    Closed s (words.map word ++ [symbol '=']) := by
  rw [← hs]
  exact (closed_phrase words h).append ((closed_symbol rfl).append closed_blank)

theorem closed_probe : Closed "SELECT * FROM ALL_SEQUENCES WHERE SEQUENCE_OWNER = "
    ([word "SELECT", symbol '*'] ++
      (["FROM", "ALL_SEQUENCES", "WHERE", "SEQUENCE_OWNER"].map word ++ [symbol '='])) := by
  have hs : phrase ["SELECT"] ++ (String.ofList ['*'] ++ " ") ++
      "FROM ALL_SEQUENCES WHERE SEQUENCE_OWNER = " =
      "SELECT * FROM ALL_SEQUENCES WHERE SEQUENCE_OWNER = " := rfl
  have hstar : Closed (phrase ["SELECT"] ++ (String.ofList ['*'] ++ " ")) [word "SELECT", symbol '*'] :=
    (closed_phrase ["SELECT"] (by decide)).append ((closed_symbol rfl).append closed_blank)
  rw [← hs]
  exact hstar.append (closed_is (by decide) rfl)

theorem read?_sequenceExists (owner name : String) :
    read? ((Query.sequenceExists owner name).sql .standard) =
      some (probe (Text.upper owner) name) := by
  have hand : Closed "AND SEQUENCE_NAME = " (["AND", "SEQUENCE_NAME"].map word ++ [symbol '=']) :=
    closed_is (by decide) rfl
  have howner := closed_probe.append_reads (reads_literal (Text.upper owner))
  have hall := (howner.blank_closed hand).append_reads (reads_literal name)
  rw [sql_sequenceExists, read?_of_reads hall]
  rfl

theorem sql_sequenceValue (name : String) (which : SequenceValue) :
    (Query.sequenceValue name which).sql .standard =
      "SELECT " ++ Quoted.quote '"' name ++ ("." ++ which.column) ++
        (" " ++ (phrase ["AS"] ++ Quoted.quote '"' "id")) ++ (" " ++ "FROM DUAL") := by
  have hs : " AS \"id\" FROM DUAL" =
      " " ++ (phrase ["AS"] ++ Quoted.quote '"' "id") ++ (" " ++ "FROM DUAL") := rfl
  simp only [Query.sql, Query.parts, Query.Part.sql, Dialect.quoteName, Dialect.standard,
    List.map_cons, List.map_nil, String.join_cons, String.join_nil, String.append_empty, hs,
    String.append_assoc]

theorem reads_sequenceValue (name : String) (which : SequenceValue) :
    Reads ((Query.sequenceValue name which).sql .standard)
      [word "SELECT", Token.name name, symbol '.', word which.column, word "AS", Token.name "id",
        word "FROM", word "DUAL"] := by
  have hselect : Closed "SELECT " [word "SELECT"] := closed_phrase ["SELECT"] (by decide)
  have hmember : Reads ("." ++ which.column) [symbol '.', word which.column] := by
    cases which <;> exact reads_member (by decide) rfl
  have hid := (closed_phrase ["AS"] (by decide)).append_reads (reads_name "id")
  have hfrom : Reads "FROM DUAL" (["FROM"].map word ++ [word "DUAL"]) :=
    reads_phrase (by decide) (by decide) rfl
  have hname := (hselect.append_reads (reads_name name)).append_reads (by simp)
    (apart_member which.column) hmember
  rw [sql_sequenceValue]
  exact (hname.blank_reads hid).blank_reads hfrom

theorem read?_sequenceValue (name : String) (which : SequenceValue) :
    read? ((Query.sequenceValue name which).sql .standard) = some (value name which) := by
  rw [read?_of_reads (reads_sequenceValue name which)]
  cases which <;> rfl

/-! ## Texts that do nothing with a sequence -/

theorem read?_createTable (t : Table) : read? ((Statement.createTable t).sql .standard) = none := by
  have hp : (phrase ["CREATE", "TABLE"]).toList <+: "CREATE TABLE ".toList := by decide
  refine read?_eq_none (closed_phrase ["CREATE", "TABLE"] (by decide)) (fun us => rfl) ?_
  exact prefix_foldl [_, _, _, _] hp

theorem read?_createIndex (table : String) (i : Index) :
    read? ((Statement.createIndex table i).sql .standard) = none := by
  have hs : (Statement.createIndex table i).sql .standard =
      [Dialect.standard.quoteName i.name, " ON ", Dialect.standard.quoteName table, " (",
        Dialect.standard.nameList i.columns, ")"].foldl (· ++ ·)
          ("CREATE " ++ (if i.unique then "UNIQUE " else "") ++ "INDEX ") := rfl
  rw [hs]
  cases i.unique with
  | true =>
    have hp : (phrase ["CREATE", "UNIQUE"]).toList <+:
        ("CREATE " ++ (if true then "UNIQUE " else "") ++ "INDEX ").toList := by decide
    exact read?_eq_none (closed_phrase ["CREATE", "UNIQUE"] (by decide)) (fun us => rfl)
      (prefix_foldl _ hp)
  | false =>
    have hp : (phrase ["CREATE", "INDEX"]).toList <+:
        ("CREATE " ++ (if false then "UNIQUE " else "") ++ "INDEX ").toList := by decide
    exact read?_eq_none (closed_phrase ["CREATE", "INDEX"] (by decide)) (fun us => rfl)
      (prefix_foldl _ hp)

theorem read?_comment {u : Statement} (h : (∃ table text, u = .commentOnTable table text) ∨
    ∃ table column text, u = .commentOnColumn table column text) :
    read? (u.sql .standard) = none := by
  have hp : (phrase ["COMMENT", "ON"]).toList <+: "COMMENT ON TABLE ".toList := by decide
  have hq : (phrase ["COMMENT", "ON"]).toList <+: "COMMENT ON COLUMN ".toList := by decide
  refine read?_eq_none (closed_phrase ["COMMENT", "ON"] (by decide)) (fun us => rfl) ?_
  rcases h with ⟨table, text, rfl⟩ | ⟨table, column, text, rfl⟩
  · exact prefix_foldl [_, _, _] hp
  · exact prefix_foldl [_, _, _, _, _] hq

theorem read?_dropTable (table : String) :
    read? ((Statement.dropTable table).sql .standard) = none := by
  have hp : (phrase ["DROP", "TABLE"]).toList <+: "DROP TABLE ".toList := by decide
  refine read?_eq_none (closed_phrase ["DROP", "TABLE"] (by decide)) (fun us => rfl) ?_
  exact prefix_foldl [_] hp

theorem read?_primaryKey (owner table : String) :
    read? ((Query.primaryKey owner table).sql .standard) = none := by
  have hcols : Reads (phrase ["SELECT"] ++ "cols") [word "SELECT", word "cols"] :=
    (closed_phrase ["SELECT"] (by decide)).append_reads (reads_word (by decide))
  have hdot : Closed (phrase ["SELECT"] ++ "cols" ++ String.ofList ['.'])
      [word "SELECT", word "cols", symbol '.'] :=
    hcols.append_closed (by decide) (apart_member "") (closed_symbol rfl)
  have hs : phrase ["SELECT"] ++ "cols" ++ String.ofList ['.'] ++
      "COLUMN_NAME FROM all_constraints cons, all_cons_columns cols " =
      "SELECT cols.COLUMN_NAME FROM all_constraints cons, all_cons_columns cols " := rfl
  refine read?_eq_none hdot (fun us => rfl) ?_
  unfold Query.sql Query.parts
  simp only [List.map_cons, String.join_cons, Query.Part.sql, ← hs]
  exact prefix_foldl [_, _, _, _] List.prefix_rfl

end SequenceUse

end SqlSchema
