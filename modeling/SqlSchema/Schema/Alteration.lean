import SqlSchema.Schema.Table

/-!
# Alterations

What someone wants changed about a table. The dialect can carry out changes of
columns in place and of comments; the rest can be asked for and is refused.
-/

namespace SqlSchema

structure ColumnChange where
  old : Column
  new : Column

def ColumnChange.changesNullability (c : ColumnChange) : Bool := c.old.nullable != c.new.nullable

structure Alteration where
  name : String
  changed : List ColumnChange := []
  added : List Column := []
  removed : List String := []
  renamed : List (String × String) := []
  newName : Option String := none
  comment : Option String := none

namespace Alteration

/-- A change to the structure of a table, which the dialect cannot carry out. -/
inductive Structural
  | addColumn (column : String)
  | dropColumn (column : String)
  | renameColumn (old new : String)
  | renameTable (name : String)
  deriving DecidableEq

def Structural.describe : Structural → String
  | addColumn c => "add column '" ++ c ++ "'"
  | dropColumn c => "drop column '" ++ c ++ "'"
  | renameColumn old new => "rename column '" ++ old ++ "' to '" ++ new ++ "'"
  | renameTable name => "rename table to '" ++ name ++ "'"

/-- The first structural change: an added column, a removed one, a renamed one, a new
table name, a changed column that is also renamed. -/
def structural? (a : Alteration) : Option Structural :=
  (a.added.head?.map fun c => .addColumn c.name)
    <|> (a.removed.head?.map .dropColumn)
    <|> (a.renamed.head?.map fun r => .renameColumn r.1 r.2)
    <|> (a.newName.map .renameTable)
    <|> ((a.changed.find? fun c => c.old.name != c.new.name).map fun c =>
      .renameColumn c.old.name c.new.name)

inductive Edit
  | change (old new : Column)
  | add (column : Column)
  | remove (column : String)
  | rename (old new : String)
  | comment (text : String)

def edit (a : Alteration) : Edit → Alteration
  | .change old new => { a with changed := a.changed ++ [⟨old, new⟩] }
  | .add column => { a with added := a.added ++ [column] }
  | .remove column => { a with removed := a.removed ++ [column] }
  | .rename old new => { a with renamed := a.renamed ++ [(old, new)] }
  | .comment text => { a with comment := some text }

def build (name : String) (edits : List Edit) : Alteration := edits.foldl edit { name }

end Alteration

end SqlSchema
