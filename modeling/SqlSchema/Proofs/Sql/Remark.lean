import SqlSchema.Proofs.Sql.SequenceUse

/-!
# Remarks

A remark is a text on a table or on a column. The statement for it is read back from its tokens
alone, so that no character of a name or of a text is taken for an end of it.
-/

namespace SqlSchema

/-- What a comment is on. -/
inductive Commented
  | table (table : String)
  | column (table column : String)
  deriving DecidableEq

structure Remark where
  subject : Commented
  text : String
  deriving DecidableEq

namespace Remark

def statement : Remark → Statement
  | ⟨.table table, text⟩ => .commentOnTable table text
  | ⟨.column table column, text⟩ => .commentOnColumn table column text

def ofTokens? : List Token → Option Remark
  | [.word "COMMENT", .word "ON", .word "TABLE", .name table, .word "IS", .literal text] =>
    some ⟨.table table, text⟩
  | [.word "COMMENT", .word "ON", .word "COLUMN", .name table, .symbol '.', .name column,
      .word "IS", .literal text] => some ⟨.column table column, text⟩
  | _ => none

def read? (sql : String) : Option Remark := (Token.ofText? sql).bind ofTokens?

open Token

def tokens : Remark → List Token
  | ⟨.table table, text⟩ =>
    [word "COMMENT", word "ON", word "TABLE", name table, word "IS", literal text]
  | ⟨.column table column, text⟩ =>
    [word "COMMENT", word "ON", word "COLUMN", name table, symbol '.', name column, word "IS",
      literal text]

theorem reads_statement (r : Remark) : Reads (r.statement.sql .standard) r.tokens := by
  obtain ⟨subject, text⟩ := r
  cases subject with
  | table table =>
    have htable := (closed_phrase ["COMMENT", "ON", "TABLE"] (by decide)).append_reads
      (reads_name table)
    exact (htable.blank_closed (closed_phrase ["IS"] (by decide))).append_reads (reads_literal text)
  | column table column =>
    have htable := (closed_phrase ["COMMENT", "ON", "COLUMN"] (by decide)).append_reads
      (reads_name table)
    have hdot := htable.append_closed (by decide) (SequenceUse.apart_member "")
      (closed_symbol (c := '.') rfl)
    have hcolumn := hdot.append_reads (reads_name column)
    exact (hcolumn.blank_closed (closed_phrase ["IS"] (by decide))).append_reads
      (reads_literal text)

theorem read?_statement (r : Remark) : read? (r.statement.sql .standard) = some r := by
  rw [read?, r.reads_statement.ofText?, Option.bind_some]
  obtain ⟨subject, text⟩ := r
  cases subject <;> rfl

end Remark

end SqlSchema
