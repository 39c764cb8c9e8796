import SqlSchema.Schema.Alteration
import SqlSchema.Sql.Datum

/-!
# The dialect

How names, types and the parts of a column are written. Dialects of the family
differ in the character that quotes names and in whether a column declaration may
carry its comment.
-/

namespace SqlSchema

/-! ## Names of schema objects -/

namespace Name

def maxLength : Nat := 30

def fit (name : String) : String := String.ofList (name.toList.take maxLength)

/-- The name of the sequence that feeds `column` of `table`. The table is named with
its prefix. -/
def ofSequence (table column : String) : String := fit (table ++ "_" ++ column ++ "_seq")

@[simp] theorem toList_fit (name : String) : (fit name).toList = name.toList.take maxLength := by
  simp [fit]

theorem length_fit_le (name : String) : (fit name).toList.length ≤ maxLength := by
  rw [toList_fit, List.length_take]
  exact Nat.min_le_left _ _

end Name

/-! ## Names, types and declarations in SQL -/

structure Dialect where
  name : String
  quoteChar : Char := '"'
  inlineComments : Bool := false

inductive DialectError
  | unsupported (table operation : String)
  | invalidName (reason : String)
  deriving DecidableEq

def DialectError.message : DialectError → String
  | unsupported table operation =>
    "Unsupported operation on table '" ++ table ++ "': " ++ operation
  | invalidName reason => "Invalid identifier: " ++ reason

/-- Whether a column declaration says if nulls are allowed. A change that leaves this as
it is must not repeat it. -/
inductive NullClause
  | stated
  | omitted
  deriving DecidableEq

def Default.sql : Default → String
  | null => "NULL"
  | bool b => if b then "1" else "0"
  | integer n => toString n.toInt
  | float x => Decimal.Layout.sql.render x
  | string s => Quoted.literal s
  | expression sql => sql

/-- The SQL of a column type. A length that is not given is the longest the type takes. -/
def ColumnType.sql : ColumnType → String
  | integer => "INT"
  | bigInt => "BIGINT"
  | smallInt => "SMALLINT"
  | boolean => "TINYINT"
  | varchar length => "VARCHAR2(" ++ toString (length.getD 4000).toNat ++ ")"
  | char length => "CHAR(" ++ toString (length.getD 2000).toNat ++ ")"
  | clob => "CLOB"
  | blob => "BLOB"
  | date => "DATE"
  | time => "DATE"
  | timestamp => "TIMESTAMP"
  | timestampTz => "TIMESTAMP WITH TIME ZONE"

namespace Dialect

/-- The dialect of the server: names in double quotes, comments in statements of their
own. -/
def standard : Dialect where
  name := "yashan"

/-- A name in quotes. Every name is quoted, reserved or not. -/
def quoteName (d : Dialect) (name : String) : String := Quoted.quote d.quoteChar name

def nameList (d : Dialect) (names : List String) : String :=
  ", ".intercalate (names.map d.quoteName)

def charsetClause (charset : String) : String := "CHARACTER SET " ++ charset

def collationClause (d : Dialect) (collation : String) : String :=
  "COLLATE " ++ d.quoteName collation

def commentClause (comment : String) : String := "COMMENT " ++ Quoted.literal comment

def nullClause (nullable : Bool) : String := if nullable then "NULL" else "NOT NULL"

/-- A comment worth writing: one that is there and not empty. -/
def comment? (c : Column) : Option String := c.comment.filter (· ≠ "")

def clauses (d : Dialect) (c : Column) (nulls : NullClause) : List String :=
  match c.definition with
  | some definition => [definition]
  | none =>
    [c.type.sql] ++
    (c.charset.map charsetClause).toList ++
    (c.default.map fun v => "DEFAULT " ++ v.sql).toList ++
    (if nulls = .stated then [nullClause c.nullable] else []) ++
    (if c.unique then ["UNIQUE"] else []) ++
    (c.check.map fun condition => "CHECK (" ++ condition ++ ")").toList ++
    (c.collation.map d.collationClause).toList ++
    (if d.inlineComments then ((comment? c).map commentClause).toList else [])

def declaration (d : Dialect) (c : Column) (nulls : NullClause) : String :=
  " ".intercalate (d.quoteName c.name :: d.clauses c nulls)

end Dialect

end SqlSchema
