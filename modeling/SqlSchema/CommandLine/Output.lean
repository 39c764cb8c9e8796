import SqlSchema.Session.Script

/-!
# Output

What the program writes, in order: the text that was asked for, with the notices of the
work between.
-/

namespace SqlSchema.CommandLine

inductive Piece
  | printed (text : String)
  | noted (n : Notice)

namespace Piece

def text : Piece → String
  | printed text => text
  | noted n => n.line

/-- The text of a piece that is no notice. -/
def printed? : Piece → Option String
  | printed text => some text
  | noted _ => none

def isShown (detailed : Bool) : Piece → Bool
  | printed _ => true
  | noted n => n.isShown detailed

def ofEvent : Event → List Piece
  | .statement sql params =>
    [noted ⟨.detail, "Executing SQL (dry run)", [("sql", sql), ("params", toString params.length)]⟩,
      printed (Script.shownStatement sql params)]
  | .query sql => [noted ⟨.detail, "Querying (dry run)", [("sql", sql)]⟩]
  | .notice n => [noted n]

end Piece

def wholeText (output : List Piece) : String := String.join (output.map Piece.text)

def printedText (output : List Piece) : String := String.join (output.filterMap Piece.printed?)

theorem printedText_ofEvent (events : List Event) :
    printedText (events.flatMap Piece.ofEvent) = Script.transcript events := by
  unfold printedText Script.transcript
  induction events with
  | nil => rfl
  | cons e r ih =>
    cases e <;> simp [Piece.ofEvent, Piece.printed?, Script.shown, List.filterMap_cons, ih]

/-- What is shown to a reader who asks for no details differs in notices only. -/
theorem printedText_filter (detailed : Bool) (output : List Piece) :
    printedText (output.filter (·.isShown detailed)) = printedText output := by
  unfold printedText
  congr 1
  induction output with
  | nil => rfl
  | cons p r ih =>
    cases p with
    | printed text => rw [List.filter_cons_of_pos rfl, List.filterMap_cons, List.filterMap_cons, ih]
    | noted n =>
      rw [List.filter_cons]
      split <;> simp [List.filterMap_cons, Piece.printed?, ih]

end SqlSchema.CommandLine
