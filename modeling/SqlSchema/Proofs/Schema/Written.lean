import SqlSchema.Dialect.Statement
import SqlSchema.Proofs.Sql.Token

/-!
# Definitions as they are written

What the text of a `CREATE TABLE` and of the indexes behind it says, read from its tokens
alone. The reader knows nothing of how the text was written: a column is a name, a type
and clauses in any order up to the next comma or parenthesis outside of them.
-/

namespace SqlSchema

inductive WrittenDefault
  | null
  | integer (n : Int)
  | text (s : String)
  deriving DecidableEq

/-- A column declaration. Whether nulls are allowed need not be said. -/
structure WrittenColumn where
  name : String
  type : String
  default : Option WrittenDefault := none
  nullable : Option Bool := none
  unique : Bool := false
  collation : Option String := none
  deriving DecidableEq

structure WrittenIndex where
  name : String
  table : String
  unique : Bool
  columns : List String
  deriving DecidableEq

/-- A table with the names in its `PRIMARY KEY` clause, if it has one. -/
structure WrittenTable where
  name : String
  columns : List WrittenColumn
  primaryKey : Option (List String)
  indexes : List WrittenIndex := []
  deriving DecidableEq

/-- Names with commas between them, up to a closing parenthesis, and what follows it. -/
def Token.names? : List Token → Option (List String × List Token)
  | .symbol ')' :: r => some ([], r)
  | .name s :: .symbol ')' :: r => some ([s], r)
  | .name s :: .symbol ',' :: r => (names? r).map fun (names, rest) => (s :: names, rest)
  | _ => none

namespace WrittenColumn

/-- A type: one word, alone, with a length in parentheses or with a time zone. -/
def type? : List Token → Option (String × List Token)
  | .word w :: .symbol '(' :: .word n :: .symbol ')' :: r => some (w ++ "(" ++ n ++ ")", r)
  | .word w :: .word "WITH" :: .word "TIME" :: .word "ZONE" :: r => some (w ++ " WITH TIME ZONE", r)
  | .word w :: r => some (w, r)
  | _ => none

/-- Takes clauses into a declaration, up to a token that starts none. -/
def clauses? (c : WrittenColumn) : List Token → Option (WrittenColumn × List Token)
  | .word "DEFAULT" :: .word "NULL" :: r => clauses? { c with default := some .null } r
  | .word "DEFAULT" :: .symbol '-' :: .word n :: r =>
    match Text.natural? n.toList with
    | some n => clauses? { c with default := some (.integer (-n)) } r
    | none => none
  | .word "DEFAULT" :: .word n :: r =>
    match Text.natural? n.toList with
    | some n => clauses? { c with default := some (.integer n) } r
    | none => none
  | .word "DEFAULT" :: .literal s :: r => clauses? { c with default := some (.text s) } r
  | .word "NULL" :: r => clauses? { c with nullable := some true } r
  | .word "NOT" :: .word "NULL" :: r => clauses? { c with nullable := some false } r
  | .word "UNIQUE" :: r => clauses? { c with unique := true } r
  | .word "COLLATE" :: .name s :: r => clauses? { c with collation := some s } r
  | ts => some (c, ts)

def read? : List Token → Option (WrittenColumn × List Token)
  | .name name :: r =>
    match type? r with
    | some (type, r) => clauses? { name, type } r
    | none => none
  | _ => none

theorem length_type?_le {ts rest : List Token} {s : String} (h : type? ts = some (s, rest)) :
    rest.length ≤ ts.length := by
  unfold type? at h
  split at h <;> simp at h <;> obtain ⟨-, rfl⟩ := h <;> simp <;> omega

theorem length_clauses?_le {c d : WrittenColumn} {ts rest : List Token}
    (h : clauses? c ts = some (d, rest)) : rest.length ≤ ts.length := by
  fun_induction clauses? c ts with
  | case3 => cases h
  | case5 => cases h
  | case11 => cases h; exact Nat.le_refl _
  | _ =>
    -- a clause and what follows it, which is no longer by induction
    rename_i ih
    have := ih h
    simp only [List.length_cons]
    omega

theorem length_read?_lt {c : WrittenColumn} {ts rest : List Token}
    (h : read? ts = some (c, rest)) : rest.length < ts.length := by
  unfold read? at h
  split at h
  · split at h
    · rename_i ht
      have h₁ := length_type?_le ht
      have h₂ := length_clauses?_le h
      simp only [List.length_cons]
      omega
    · cases h
  · cases h

end WrittenColumn

namespace WrittenTable

/-- The columns and the key of a table, up to the end of the statement. -/
def parts? (ts : List Token) : Option (List WrittenColumn × Option (List String)) :=
  match ts with
  | .word "PRIMARY" :: .word "KEY" :: .symbol '(' :: r =>
    match Token.names? r with
    | some (key, [.symbol ')']) => some ([], some key)
    | _ => none
  | ts =>
    match _h : WrittenColumn.read? ts with
    | some (c, [.symbol ')']) => some ([c], none)
    | some (c, .symbol ',' :: r) => (parts? r).map fun (columns, key) => (c :: columns, key)
    | _ => none
termination_by ts.length
decreasing_by
  have := WrittenColumn.length_read?_lt _h
  simp only [List.length_cons] at this
  omega

def ofTokens? : List Token → Option WrittenTable
  | [.word "CREATE", .word "TABLE", .name name, .symbol '(', .symbol ')'] =>
    some { name, columns := [], primaryKey := none }
  | .word "CREATE" :: .word "TABLE" :: .name name :: .symbol '(' :: r =>
    (parts? r).map fun (columns, primaryKey) => { name, columns, primaryKey }
  | _ => none

end WrittenTable

namespace WrittenIndex

def onColumns? (unique : Bool) : List Token → Option WrittenIndex
  | .name name :: .word "ON" :: .name table :: .symbol '(' :: r =>
    match Token.names? r with
    | some (columns, []) => some { name, table, unique, columns }
    | _ => none
  | _ => none

def ofTokens? : List Token → Option WrittenIndex
  | .word "CREATE" :: .word "UNIQUE" :: .word "INDEX" :: r => onColumns? true r
  | .word "CREATE" :: .word "INDEX" :: r => onColumns? false r
  | _ => none

end WrittenIndex

/-- A table from the texts of its statements: itself, then each of its indexes. -/
def WrittenTable.read? : List String → Option WrittenTable
  | [] => none
  | sql :: rest => do
    let table ← WrittenTable.ofTokens? (← Token.ofText? sql)
    let indexes ← rest.mapM fun sql => (Token.ofText? sql).bind WrittenIndex.ofTokens?
    return { table with indexes }

end SqlSchema
