import SqlSchema.Schema.Column

/-!
# Tables

Tables with their indexes and comments, and the comments of columns as a map in the
order of the column names.
-/

namespace SqlSchema

structure Index where
  name : String
  columns : List String
  unique : Bool := false
  deriving DecidableEq

/-- Comments by column, in increasing order of the names. -/
structure ColumnComments where
  entries : List (String × String) := []
  increasing : entries.Pairwise (fun a b => a.1 < b.1) := by exact .nil

namespace ColumnComments

/-- Puts an entry into its place, over an earlier one of the same name. -/
def insertEntry (name comment : String) : List (String × String) → List (String × String)
  | [] => [(name, comment)]
  | e :: r =>
    if name < e.1 then (name, comment) :: e :: r
    else if name = e.1 then (name, comment) :: r
    else e :: insertEntry name comment r

theorem fst_mem_insertEntry {name comment : String} {e : String × String} :
    ∀ {l : List (String × String)}, e ∈ insertEntry name comment l → e.1 = name ∨ e ∈ l
  | [], h => by simp_all [insertEntry]
  | a :: r, h => by
    unfold insertEntry at h
    split at h
    · rcases List.mem_cons.mp h with rfl | h
      · exact .inl rfl
      · exact .inr h
    · split at h
      · rcases List.mem_cons.mp h with rfl | h
        · exact .inl rfl
        · exact .inr (List.mem_cons_of_mem _ h)
      · rcases List.mem_cons.mp h with rfl | h
        · exact .inr List.mem_cons_self
        · exact (fst_mem_insertEntry h).imp_right (List.mem_cons_of_mem _)

theorem increasing_insertEntry (name comment : String) :
    ∀ {l : List (String × String)}, l.Pairwise (fun a b => a.1 < b.1) →
      (insertEntry name comment l).Pairwise (fun a b => a.1 < b.1)
  | [], _ => by simp [insertEntry]
  | a :: r, h => by
    have ha := (List.pairwise_cons.mp h).1
    have hr := (List.pairwise_cons.mp h).2
    unfold insertEntry
    split
    · rename_i hlt
      refine List.pairwise_cons.mpr ⟨fun b hb => ?_, h⟩
      rcases List.mem_cons.mp hb with rfl | hb
      · exact hlt
      · exact String.lt_trans hlt (ha b hb)
    · split
      · rename_i heq
        exact List.pairwise_cons.mpr ⟨fun b hb => heq ▸ ha b hb, hr⟩
      · rename_i hnlt hne
        have hlt : a.1 < name := Std.lt_of_le_of_ne (String.not_lt.mp hnlt) (Ne.symm hne)
        refine List.pairwise_cons.mpr ⟨fun b hb => ?_, increasing_insertEntry name comment hr⟩
        rcases fst_mem_insertEntry hb with hb | hb
        · exact hb ▸ hlt
        · exact ha b hb

def insert (m : ColumnComments) (name comment : String) : ColumnComments :=
  ⟨insertEntry name comment m.entries, increasing_insertEntry name comment m.increasing⟩

def empty : ColumnComments := {}

/-- The map of a list of entries, a later one over an earlier one. -/
def ofList (entries : List (String × String)) : ColumnComments :=
  entries.foldl (fun m e => m.insert e.1 e.2) empty

def get? (m : ColumnComments) (name : String) : Option String := m.entries.lookup name

end ColumnComments

/-- The definition of a table, named without the connection's table prefix. The comments
in `columnComments` stand above those of the columns themselves. -/
structure Table where
  name : String
  columns : List Column := []
  comment : Option String := none
  columnComments : ColumnComments := .empty
  indexes : List Index := []

namespace Table

/-- The column fed by a sequence. If several are marked, the first counts and the others
are plain columns. -/
def autoIncrementColumn? (t : Table) : Option Column := t.columns.find? (·.autoIncrement)

def primaryKey (t : Table) : List String := (t.columns.filter (·.primaryKey)).map (·.name)

inductive Edit
  | column (c : Column)
  | comment (text : String)
  | commentColumn (column text : String)
  | index (i : Index)

def edit (t : Table) : Edit → Table
  | .column c => { t with columns := t.columns ++ [c] }
  | .comment text => { t with comment := some text }
  | .commentColumn column text => { t with columnComments := t.columnComments.insert column text }
  | .index i => { t with indexes := t.indexes ++ [i] }

def build (name : String) (edits : List Edit) : Table := edits.foldl edit { name }

end Table

end SqlSchema
