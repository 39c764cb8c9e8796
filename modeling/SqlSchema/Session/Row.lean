import SqlSchema.Sql.Datum
import SqlSchema.Text.Case

/-!
# Rows

A row of a result: named values in order. Columns are found without regard to ASCII
case, since the catalog answers in upper case and is asked in lower case. No two
columns of a row have the same name in this sense.
-/

namespace SqlSchema

/-- Two columns whose names differ by more than ASCII case. -/
def DistinctNames (a b : String × Datum) : Prop := Text.sameIgnoringCase a.1 b.1 = false

structure Row where
  columns : List (String × Datum) := []
  distinct : columns.Pairwise DistinctNames := by exact .nil

namespace Row

def setIn (name : String) (value : Datum) : List (String × Datum) → List (String × Datum)
  | [] => [(name, value)]
  | c :: r =>
    if Text.sameIgnoringCase c.1 name then (c.1, value) :: r else c :: setIn name value r

theorem fst_mem_setIn {name : String} {value : Datum} {c : String × Datum} :
    ∀ {l : List (String × Datum)}, c ∈ setIn name value l →
      c.1 = name ∨ ∃ b ∈ l, c.1 = b.1
  | [], h => by simp_all [setIn]
  | a :: r, h => by
    unfold setIn at h
    split at h
    · rcases List.mem_cons.mp h with rfl | h
      · exact .inr ⟨a, List.mem_cons_self, rfl⟩
      · exact .inr ⟨c, List.mem_cons_of_mem _ h, rfl⟩
    · rcases List.mem_cons.mp h with rfl | h
      · exact .inr ⟨c, List.mem_cons_self, rfl⟩
      · rcases fst_mem_setIn h with h | ⟨b, hb, e⟩
        · exact .inl h
        · exact .inr ⟨b, List.mem_cons_of_mem _ hb, e⟩

theorem distinct_setIn (name : String) (value : Datum) :
    ∀ {l : List (String × Datum)}, l.Pairwise DistinctNames →
      (setIn name value l).Pairwise DistinctNames
  | [], _ => by simp [setIn]
  | a :: r, h => by
    have ha := (List.pairwise_cons.mp h).1
    have hr := (List.pairwise_cons.mp h).2
    unfold setIn
    split
    · exact List.pairwise_cons.mpr ⟨fun b hb => ha b hb, hr⟩
    · rename_i hne
      refine List.pairwise_cons.mpr ⟨fun c hc => ?_, distinct_setIn name value hr⟩
      rcases fst_mem_setIn hc with e | ⟨b, hb, e⟩
      · simpa [DistinctNames, e] using hne
      · simpa [DistinctNames, e] using ha b hb

/-- Sets a column. An earlier column of the name keeps its place and its spelling. -/
def set (row : Row) (name : String) (value : Datum) : Row :=
  ⟨setIn name value row.columns, distinct_setIn name value row.distinct⟩

def ofList (columns : List (String × Datum)) : Row :=
  columns.foldl (fun row c => row.set c.1 c.2) {}

def get? (row : Row) (name : String) : Option Datum :=
  (row.columns.find? fun c => Text.sameIgnoringCase c.1 name).map (·.2)

def text? (row : Row) (name : String) : Option String := (row.get? name).bind Datum.asText?

def int? (row : Row) (name : String) : Option Int64 := (row.get? name).bind Datum.asInt?

def first? (row : Row) : Option Datum := row.columns.head?.map (·.2)

def size (row : Row) : Nat := row.columns.length

def isEmpty (row : Row) : Bool := row.columns.isEmpty

def toJson (row : Row) : Json := .object (row.columns.map fun c => (c.1, c.2.toJson))

end Row

/-! ## Names read off the rows of the catalog -/

namespace Listing

/-- The texts in a column, row by row. Rows without one contribute nothing. -/
def texts (column : String) (rows : List Row) : List String :=
  rows.filterMap (·.text? column)

def columnNames (rows : List Row) : List String :=
  (texts "COLUMN_NAME" rows).map Text.lower

end Listing

end SqlSchema
