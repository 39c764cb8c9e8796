import SqlSchema.CommandLine.Scan
import SqlSchema.Sql.Page

/-!
# Requests

What the program can be asked to do, and how that is read off its arguments.
-/

namespace SqlSchema.CommandLine

inductive CatalogKind
  | tables
  | views
  | sequences
  | columns
  | indexes
  | foreignKeys
  | constraints
  | databases
  deriving DecidableEq

def CatalogKind.named : List (String × CatalogKind) :=
  [("tables", .tables), ("views", .views), ("sequences", .sequences), ("columns", .columns),
    ("indexes", .indexes), ("foreign-keys", .foreignKeys), ("constraints", .constraints),
    ("databases", .databases)]

def CatalogKind.ofName? (name : String) : Option CatalogKind := named.lookup name

inductive Command
  | create (file : String)
  | alter (file : String)
  | drop (table : String) (ifExists : Bool)
  | paginate (page : Page)
  | catalog (kind : CatalogKind) (table : Option String)
  | dataSource

structure Request where
  settingsFile : Option String
  tablePrefix : Option String
  execute : Bool
  detailed : Bool
  command : Command

/-- What the arguments ask for. Help is about the program or one of its commands. -/
inductive Asked
  | run (request : Request)
  | help (command : Option String)
  | version

def isPath (s : String) : Bool := s ≠ ""

def rows? (s : String) : Option UInt64 :=
  (Text.unsignedBelow? UInt64.size s.toList).map UInt64.ofNat

/-! ## Grammars -/

def helpFlag : Flag where
  long := "help"
  short := some 'h'
  inquiry := true
  help := "Print help"

def commandTable : List (String × String) :=
  [("create", "Create a table from a JSON table definition"),
    ("alter", "Alter a table from a JSON table diff"),
    ("drop", "Drop a table and its auto-increment sequence"),
    ("paginate", "Rewrite a SELECT for ROWNUM pagination"),
    ("catalog", "Show (or with --execute, run) a catalog query"),
    ("dsn", "Print the ODBC data source string"),
    ("help", "Print this message or the help of the given subcommand(s)")]

def fileFlag (help : String) : Flag where
  long := "file"
  short := some 'f'
  value := some "FILE"
  accepts := isPath
  required := true
  help := help

def rowsFlag (long name help : String) (short : Char) : Flag where
  long := long
  short := some short
  value := some name
  accepts s := (rows? s).isSome
  help := help

def grammarOf (name : String) : Grammar where
  about := (commandTable.lookup name).getD ""
  flags := match name with
    | "create" => [fileFlag "Table definition file", helpFlag]
    | "alter" => [fileFlag "Table diff file", helpFlag]
    | "drop" => [
      { long := "table", short := some 't', value := some "TABLE", required := true,
        help := "Table name, without prefix" },
      { long := "if-exists", help := "Do nothing if the table does not exist" },
      helpFlag]
    | "paginate" => [
      rowsFlag "limit" "LIMIT" "Maximum number of rows" 'l',
      rowsFlag "offset" "OFFSET" "Rows to skip" 'o',
      helpFlag]
    | "catalog" => [
      { long := "table", short := some 't', value := some "TABLE",
        help := "Table name, for table-scoped queries" },
      helpFlag]
    | "help" => []
    | _ => [helpFlag]
  operands := match name with
    | "paginate" => [{ label := "<QUERY>", help := "The query" }]
    | "catalog" => [
      { label := "<KIND>", accepts s := (CatalogKind.ofName? s).isSome,
        help := "What to list [possible values: " ++
          ", ".intercalate (CatalogKind.named.map (·.1)) ++ "]" }]
    | "help" => [{ label := "[COMMAND]...", help := "Print help for the subcommand(s)" }]
    | _ => []

/-- What stands in front of the command. Help shows the file that the variable
`YASHAN_CONFIG` names. -/
def topGrammar (settingsFile : Option String) : Grammar where
  about := "Schema management for YashanDB: sequences, auto-increment emulation, comments " ++
    "and catalog inspection"
  flags := [
    { long := "config", short := some 'c', value := some "CONFIG", accepts := isPath,
      help := "JSON connection configuration (DB_* environment variables otherwise) " ++
        "[env: YASHAN_CONFIG=" ++ settingsFile.getD "" ++ "]" },
    { long := "prefix", value := some "PREFIX",
      help := "Table prefix, overriding the configuration" },
    { long := "execute", help := "Run statements against the server instead of printing them" },
    { long := "verbose", short := some 'v', help := "Enable verbose output" },
    helpFlag,
    { long := "version", short := some 'V', inquiry := true, help := "Print version" }]
  commands := commandTable

/-! ## Reading a request -/

def command? (name : String) (f : Found) : Option Command :=
  match name with
  | "create" => (f.value? "file").map .create
  | "alter" => (f.value? "file").map .alter
  | "drop" => (f.value? "table").map fun table => .drop table (f.has "if-exists")
  | "paginate" => f.operands.head?.map fun query =>
    .paginate { query, limit := (f.value? "limit").bind rows?, offset := (f.value? "offset").bind rows? }
  | "catalog" => (f.operands.head?.bind CatalogKind.ofName?).map fun kind =>
    .catalog kind (f.value? "table")
  | "dsn" => some .dataSource
  | _ => none

/-- The command that help is asked about: at most one, and one that there is. -/
def helpTopic? : List String → Option Asked
  | [] => some (.help none)
  | [name] => if (commandTable.lookup name).isSome then some (.help name) else none
  | _ => none

/-- What the arguments after a command's name ask for. The variable `YASHAN_CONFIG` names
the file of settings when the arguments do not. -/
def request? (top : Found) (settingsFile : Option String) (name : String) (rest : List String) :
    Option Asked :=
  match scan? (grammarOf name) {} rest with
  | none => none
  | some (.inquiry _) => some (.help name)
  | some (.found found) => do
    let command ← command? name found
    let settingsFile := top.value? "config" <|> settingsFile
    if settingsFile.all isPath then
      some (.run {
        settingsFile
        tablePrefix := top.value? "prefix"
        execute := top.has "execute"
        detailed := top.has "verbose"
        command })
    else none

def asked? (args : List String) (lookup : String → Option String) : Option Asked :=
  let settingsFile := lookup "YASHAN_CONFIG"
  match scan? (topGrammar settingsFile) {} args with
  | none => none
  | some (.inquiry long) => some (if long = "version" then .version else .help none)
  | some (.found top) =>
    match top.command with
    | none => none
    | some ("help", rest) => helpTopic? rest
    | some (name, rest) => request? top settingsFile name rest

end SqlSchema.CommandLine
