import SqlSchema.CommandLine.Output
import SqlSchema.CommandLine.Request
import SqlSchema.Operation.Tables
import SqlSchema.Schema.Codec
import SqlSchema.Settings

/-!
# Running a request

What the program prints and how it ends, as a function of its arguments, variables and
files. Without a server every operation is a dry run: its statements are printed and
not executed.
-/

namespace SqlSchema.CommandLine

/-- What surrounds the program: its variables, and its files, each with its content or
the reason why it cannot be read. -/
structure Surroundings where
  lookup : String → Option String
  file : String → Except String String

inductive Trouble
  | failure (f : Failure)
  | unreadable (reason : String)
  | malformed (fault : Json.Fault)
  | loading (path : String) (f : Failure)
  | noDriver
  | noTable

namespace Trouble

def chain : Trouble → List String
  | failure f => f.message :: f.cause?.toList
  | unreadable reason => [reason]
  | malformed fault => [fault.message]
  | loading path f => ("loading " ++ path) :: f.message :: f.cause?.toList
  | noDriver => ["--execute requires yashan-ddl to be built with the `odbc` feature"]
  | noTable => ["--table is required for this catalog query"]

def isMalformed : Trouble → Bool
  | failure f => f.isMalformed
  | malformed _ => true
  | loading _ f => f.isMalformed
  | _ => false

/-- A cause behind a margin, further lines of it as far in as the first. -/
def indented (margin : String) (width : Nat) (cause : String) : String :=
  let newline := "\n" ++ String.ofList (List.replicate width ' ')
  margin ++ newline.intercalate ((Text.splitOn '\n' cause.toList).map String.ofList)

def numbered (n : Nat) : List String → List String
  | [] => []
  | cause :: r => indented ("    " ++ toString n ++ ": ") 7 cause :: numbered (n + 1) r

/-- What is said about the trouble: what went wrong, and the causes below it, numbered if
there are several. -/
def report (t : Trouble) : String :=
  match t.chain with
  | [] => ""
  | [head] => "Error: " ++ head ++ "\n"
  | [head, cause] => "Error: " ++ head ++ "\n\nCaused by:\n" ++ indented "    " 4 cause ++ "\n"
  | head :: causes =>
    "Error: " ++ head ++ "\n\nCaused by:\n" ++ "\n".intercalate (numbered 0 causes) ++ "\n"

end Trouble

inductive Ending
  | notUnderstood
  | done (output : List Piece)
  | failed (output : List Piece) (t : Trouble)

def Ending.mapOutput (f : List Piece → List Piece) : Ending → Ending
  | notUnderstood => notUnderstood
  | done output => done (f output)
  | failed output t => failed (f output) t

/-- The settings of a request: from the file it names or else from variables, with the table
prefix that it gives. -/
def settings (r : Request) (s : Surroundings) : Except Trouble Settings := do
  let base ← match r.settingsFile with
    | some path => Except.mapError (.loading path) (Settings.ofFile (s.file path))
    | none => Except.mapError .failure (Settings.ofVariables s.lookup)
  return { base with tablePrefix := r.tablePrefix.getD base.tablePrefix }

def Command.needsServer : Command → Bool
  | .paginate _ => false
  | .dataSource => false
  | _ => true

def definition {α : Type} (read : Json.Decoder α) (s : Surroundings) (path : String) :
    Except Trouble α :=
  match s.file path with
  | .error reason => .error (.unreadable reason)
  | .ok text => Except.mapError .malformed ((Json.ofString? text).bind read)

def dryServer (settings : Settings) : Server :=
  ({ database := settings.database, tablePrefix := settings.tablePrefix } : Script).server

def dryRun {α : Type} (m : Session α) (settings : Settings) : Ending :=
  let outcome := m.run (dryServer settings)
  let output := outcome.events.flatMap Piece.ofEvent
  match outcome.result with
  | .ok _ => .done output
  | .error f => .failed output (.failure f)

/-- The query that lists a kind of object. Some kinds are listed for a table. -/
def catalogQuery (kind : CatalogKind) (table : Option String) (settings : Settings) :
    Except Trouble Query :=
  let forTable (query : String → Query) : Except Trouble Query :=
    match table with
    | some t => .ok (query ((dryServer settings).fullName t))
    | none => .error .noTable
  match kind with
  | .tables => .ok .tables
  | .views => .ok .views
  | .sequences => .ok (.sequences settings.database)
  | .columns => forTable fun t => .columns t settings.database
  | .indexes => forTable .indexes
  | .foreignKeys => forTable .foreignKeys
  | .constraints => forTable .constraints
  | .databases => .ok .databases

def createTable (t : Table) : Session Unit := do
  Tables.create t
  Session.note .progress "Table created" [("table", t.name)]

def alterTable (a : Alteration) : Session Unit := do
  Tables.alter a
  Session.note .progress "Table altered" [("table", a.name)]

def dropTable (table : String) (ifExists : Bool) : Session Unit := do
  if ifExists then
    unless ← Tables.dropIfThere table do
      Session.note .progress "Table does not exist" [("table", table)]
  else Tables.drop table

def Command.run (command : Command) (settings : Settings) (s : Surroundings) : Ending :=
  match command with
  | .create path =>
    match definition Table.ofJson s path with
    | .ok table => dryRun (createTable table) settings
    | .error t => .failed [] t
  | .alter path =>
    match definition Alteration.ofJson s path with
    | .ok alteration => dryRun (alterTable alteration) settings
    | .error t => .failed [] t
  | .drop table ifExists => dryRun (dropTable table ifExists) settings
  | .paginate page => .done [.printed (page.sql ++ "\n")]
  | .catalog kind table =>
    match catalogQuery kind table settings with
    | .ok query => .done [.printed (query.sql .standard ++ ";\n")]
    | .error t => .failed [] t
  | .dataSource => .done [.printed (settings.dataSource ++ "\n")]

def dryRunNotice : Notice :=
  ⟨.progress, "Dry run mode - SQL will be printed but not executed.", []⟩

/-- Runs a request. No driver for a server is built in. -/
def Request.run (r : Request) (s : Surroundings) : Ending :=
  match settings r s with
  | .error t => .failed [] t
  | .ok settings =>
    let ending := r.command.run settings s
    if !r.command.needsServer then ending
    else if r.execute then .failed [] .noDriver
    else ending.mapOutput fun output => (.noted dryRunNotice :: output).filter (·.isShown r.detailed)

def programName : String := "yashan-ddl"

def helpText (settingsFile : Option String) : Option String → String
  | none => (topGrammar settingsFile).help programName
  | some command => (grammarOf command).help (programName ++ " " ++ command)

def run (args : List String) (s : Surroundings) : Ending :=
  match asked? args s.lookup with
  | none => .notUnderstood
  | some (.help command) => .done [.printed (helpText (s.lookup "YASHAN_CONFIG") command)]
  | some .version => .done [.printed (programName ++ " 0.1.0\n")]
  | some (.run request) => request.run s

def Ending.exitCode : Ending → UInt32
  | .notUnderstood => 2
  | .done _ => 0
  | .failed _ _ => 1

def Request.files (r : Request) : List String :=
  r.settingsFile.toList ++
  match r.command with
  | .create path => [path]
  | .alter path => [path]
  | _ => []

end SqlSchema.CommandLine
