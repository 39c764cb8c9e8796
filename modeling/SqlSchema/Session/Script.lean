import SqlSchema.Session.Basic

/-!
# Scripted servers

A server that runs nothing: it accepts every text that contains none of the needles
it is told to reject, and answers a query with the rows of the first needle the query
contains, or with none.
-/

namespace SqlSchema

structure Script where
  database : String
  tablePrefix : String := ""
  responses : List (String × List Row) := []
  failures : List (String × String) := []

namespace Script

/-- The message of the first rejected needle that a text contains. -/
def rejection? (s : Script) (sql : String) : Option String :=
  (s.failures.find? fun f => Text.contains sql f.1).map (·.2)

def answer (s : Script) (sql : String) : List Row :=
  ((s.responses.find? fun r => Text.contains sql r.1).map (·.2)).getD []

def server (s : Script) : Server where
  database := s.database
  tablePrefix := s.tablePrefix
  rejection? := s.rejection?
  answer := s.answer

/-- A statement as a dry run shows it: its text, its parameters as a remark, and a
semicolon. -/
def shownStatement (sql : String) (params : List Datum) : String :=
  let remark :=
    if params.isEmpty then ""
    else " -- params: " ++ ", ".intercalate (params.map Datum.literal)
  sql ++ remark ++ ";\n"

def shown : Event → String
  | .statement sql params => shownStatement sql params
  | _ => ""

def transcript (events : List Event) : String := String.join (events.map shown)

end Script

end SqlSchema
