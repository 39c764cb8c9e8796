import SqlSchema.Dialect.Query
import SqlSchema.Session.Message
import SqlSchema.Session.Row

/-!
# Sessions

An operation on a schema, as a function of the server it talks to. It leaves a result
and, in order, the statements and queries that the server accepted and the notices of the
work. A failure ends the operation and keeps what came before it.
-/

namespace SqlSchema

/-- A server as an operation sees it: the owner of the schema, the prefix of its table
names, the message with which a text is rejected, and the rows that answer a query. -/
structure Server where
  database : String
  tablePrefix : String
  rejection? : String → Option String
  answer : String → List Row

def Server.fullName (s : Server) (table : String) : String := s.tablePrefix ++ table

/-- What happens in an operation: the server accepts a text, or a notice is given. -/
inductive Event
  | statement (sql : String) (params : List Datum)
  | query (sql : String)
  | notice (n : Notice)

def Event.statement? : Event → Option String
  | statement sql _ => some sql
  | _ => none

def Event.query? : Event → Option String
  | query sql => some sql
  | _ => none

structure Outcome (α : Type) where
  result : Except Failure α
  events : List Event

namespace Outcome

def executed {α : Type} (o : Outcome α) : List String := o.events.filterMap Event.statement?

def queries {α : Type} (o : Outcome α) : List String := o.events.filterMap Event.query?

end Outcome

def Session (α : Type) : Type := Server → Outcome α

namespace Session

def run {α : Type} (m : Session α) (s : Server) : Outcome α := m s

def give {α : Type} (a : α) : Session α := fun _ => ⟨.ok a, []⟩

def fail {α : Type} (e : Failure) : Session α := fun _ => ⟨.error e, []⟩

/-- Runs one operation and, unless it failed, another after it. -/
def andThen {α β : Type} (m : Session α) (f : α → Session β) : Session β := fun s =>
  match m s with
  | ⟨.error e, events⟩ => ⟨.error e, events⟩
  | ⟨.ok a, events⟩ =>
    let next := f a s
    ⟨next.result, events ++ next.events⟩

instance : Monad Session where
  pure := give
  bind := andThen

def note (level : Level) (message : String) (values : List (String × String)) : Session Unit :=
  fun _ => ⟨.ok (), [.notice { level, message, values }]⟩

def server : Session Server := fun s => ⟨.ok s, []⟩

def fullName (table : String) : Session String := fun s => ⟨.ok (s.fullName table), []⟩

def database : Session String := fun s => ⟨.ok s.database, []⟩

/-- Goes on with a text that the dialect wrote, or fails because it refused. -/
def ofDialect {α : Type} : Except DialectError α → Session α
  | .ok a => give a
  | .error e => fail (.refused e)

def execute (sql : String) (params : List Datum) : Session Unit := fun s =>
  match s.rejection? sql with
  | some message => ⟨.error (.rejected sql message), []⟩
  | none => ⟨.ok (), [.statement sql params]⟩

def select (sql : String) : Session (List Row) := fun s =>
  match s.rejection? sql with
  | some message => ⟨.error (.rejected sql message), []⟩
  | none => ⟨.ok (s.answer sql), [.query sql]⟩

def selectFirst (sql : String) : Session (Option Row) := do
  return (← select sql).head?

def perform (statement : Statement) : Session Unit := do
  execute (← ofDialect (statement.checkedSql .standard)) []

/-- Executes statements in order. The first one rejected ends it. -/
def performAll : List Statement → Session Unit
  | [] => pure ()
  | statement :: rest => do
    perform statement
    performAll rest

def ask (query : Query) : Session (List Row) := do
  select (← ofDialect (query.checkedSql .standard))

def askFirst (query : Query) : Session (Option Row) := do
  return (← ask query).head?

/-- Runs an operation and gives its failure, if any, as its result. -/
def attempt {α : Type} (m : Session α) : Session (Except Failure α) := fun s =>
  let o := m s
  ⟨.ok o.result, o.events⟩

end Session

end SqlSchema
