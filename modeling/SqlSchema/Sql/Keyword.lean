import SqlSchema.Text.Basic

/-!
# Reserved words

The reserved words of the dialect, in upper case and in order, the test for one by
binary search, and the set of them all.
-/

namespace SqlSchema

structure WordSet where
  words : List String := []
  increasing : words.Pairwise (· < ·) := by exact .nil

namespace WordSet

def insertWord (x : String) : List String → List String
  | [] => [x]
  | w :: r =>
    if x < w then x :: w :: r
    else if x = w then w :: r
    else w :: insertWord x r

theorem mem_insertWord {x y : String} {l : List String} :
    y ∈ insertWord x l ↔ y = x ∨ y ∈ l := by
  induction l with
  | nil => simp [insertWord]
  | cons w r ih =>
    unfold insertWord
    split
    · rw [List.mem_cons]
    · split
      · rename_i heq
        simp [heq]
      · rw [List.mem_cons, ih, List.mem_cons, or_left_comm]

theorem increasing_insertWord (x : String) {l : List String} (h : l.Pairwise (· < ·)) :
    (insertWord x l).Pairwise (· < ·) := by
  induction l with
  | nil => simp [insertWord]
  | cons w r ih =>
    obtain ⟨hw, hr⟩ := List.pairwise_cons.mp h
    unfold insertWord
    split
    · rename_i hlt
      refine List.pairwise_cons.mpr ⟨fun v hv => ?_, h⟩
      rcases List.mem_cons.mp hv with rfl | hv
      · exact hlt
      · exact String.lt_trans hlt (hw v hv)
    · split
      · exact h
      · rename_i hnlt hne
        have hlt : w < x := Std.lt_of_le_of_ne (String.not_lt.mp hnlt) (Ne.symm hne)
        refine List.pairwise_cons.mpr ⟨fun v hv => ?_, ih hr⟩
        rcases mem_insertWord.mp hv with rfl | hv
        · exact hlt
        · exact hw v hv

def insert (s : WordSet) (x : String) : WordSet :=
  ⟨insertWord x s.words, increasing_insertWord x s.increasing⟩

/-- The words of an array, in whatever order they stand and however often. -/
def ofArray (words : Array String) : WordSet := words.foldl insert {}

instance : Membership String WordSet := ⟨fun s x => x ∈ s.words⟩

instance (x : String) (s : WordSet) : Decidable (x ∈ s) :=
  inferInstanceAs (Decidable (x ∈ s.words))

end WordSet

namespace Keyword

/-- The reserved words, in increasing order. -/
def all : Array String := #[
  "ACCESS", "ADD", "ALL", "ALTER", "AND", "ANY", "AS", "ASC", "AUDIT", "BEGIN", "BETWEEN", "BY",
  "CASE", "CHAR", "CHECK", "CLUSTER", "COLUMN", "COMMENT", "COMMIT", "COMPRESS", "CONNECT",
  "CONSTRAINT", "CREATE", "CROSS", "CURRENT", "DATE", "DECIMAL", "DEFAULT", "DELETE", "DESC",
  "DISTINCT", "DROP", "ELSE", "END", "EXCLUSIVE", "EXISTS", "FILE", "FLOAT", "FOR", "FOREIGN",
  "FROM", "FULL", "GRANT", "GROUP", "HAVING", "IDENTIFIED", "IMMEDIATE", "IN", "INCREMENT",
  "INDEX", "INITIAL", "INNER", "INSERT", "INTEGER", "INTERSECT", "INTO", "IS", "JOIN", "KEY",
  "LEFT", "LEVEL", "LIKE", "LIMIT", "LOCK", "LONG", "MAXEXTENTS", "MINUS", "MLSLABEL", "MODE",
  "MODIFY", "NATURAL", "NOAUDIT", "NOCOMPRESS", "NOT", "NOWAIT", "NULL", "NUMBER", "OF",
  "OFFLINE", "OFFSET", "ON", "ONLINE", "OPTION", "OR", "ORDER", "OUTER", "PCTFREE", "PRIMARY",
  "PRIOR", "PRIVILEGES", "PUBLIC", "RAW", "REFERENCES", "RENAME", "RESOURCE", "REVOKE", "RIGHT",
  "ROLLBACK", "ROW", "ROWID", "ROWNUM", "ROWS", "SAVEPOINT", "SELECT", "SEQUENCE", "SESSION",
  "SET", "SHARE", "SIZE", "SMALLINT", "START", "SUCCESSFUL", "SYNONYM", "SYSDATE", "TABLE",
  "THEN", "TO", "TRIGGER", "TRUNCATE", "UID", "UNION", "UNIQUE", "UPDATE", "USER", "USING",
  "VALIDATE", "VALUES", "VARCHAR", "VARCHAR2", "VIEW", "WHEN", "WHENEVER", "WHERE", "WITH"]

/-- Whether `x` stands in an increasing array between `low` and `high`, by halving. -/
def search (words : Array String) (x : String) (low high : Nat) : Bool :=
  if h : low < high ∧ high ≤ words.size then
    let middle := (low + high) / 2
    if x = words[middle] then true
    else if x < words[middle] then search words x low middle
    else search words x (middle + 1) high
  else false
termination_by high - low

/-- Whether an identifier is a reserved word, in any case. Quotes are not removed. -/
def isReserved (identifier : String) : Bool :=
  search all (Text.asciiUpper identifier) 0 all.size

def set : WordSet := .ofArray all

end Keyword

end SqlSchema
