import SqlSchema.Json.Reader
import SqlSchema.Session.Message
import SqlSchema.Text.Shown

/-!
# Connection settings

The settings of a connection, from variables or from JSON, and the strings by which a
driver connects.
-/

namespace SqlSchema

structure Settings where
  driver : String := "yashan"
  host : String := "127.0.0.1"
  portNumber : UInt16 := 1688
  database : String := "test"
  username : String := "test"
  password : String := "test"
  charset : String := "UTF8"
  tablePrefix : String := ""

namespace Settings

/-- The port number that a text writes, blanks around it aside. -/
def portNumber? (s : String) : Option UInt16 :=
  (Text.unsignedBelow? UInt16.size (Text.trimWhile Text.isBlank s.toList)).map UInt16.ofNat

/-- The settings that variables give; the default for each one that is not set. -/
def ofVariables (lookup : String → Option String) : Except Failure Settings := do
  let default : Settings := {}
  let portNumber ← match lookup "DB_PORT" with
    | none => .ok default.portNumber
    | some text =>
      match portNumber? text with
      | some n => .ok n
      | none => .error (.settings ("invalid DB_PORT '" ++ text ++ "'"))
  return {
    driver := default.driver
    host := (lookup "DB_HOST").getD default.host
    portNumber
    database := (lookup "DB_DATABASE").getD default.database
    username := (lookup "DB_USERNAME").getD default.username
    password := (lookup "DB_PASSWORD").getD default.password
    charset := (lookup "DB_CHARSET").getD default.charset
    tablePrefix := (lookup "DB_PREFIX").getD default.tablePrefix }

def fieldNames : List String :=
  ["driver", "host", "port", "database", "username", "password", "charset", "prefix"]

def ofJson : Json.Decoder Settings := fun v => do
  let default : Settings := {}
  let fields ← Json.asRecord fieldNames v
  return {
    driver := ← fields.defaulting "driver" Json.asText default.driver
    host := ← fields.defaulting "host" Json.asText default.host
    portNumber := ← fields.defaulting "port" Json.asUInt16 default.portNumber
    database := ← fields.defaulting "database" Json.asText default.database
    username := ← fields.defaulting "username" Json.asText default.username
    password := ← fields.defaulting "password" Json.asText default.password
    charset := ← fields.defaulting "charset" Json.asText default.charset
    tablePrefix := ← fields.defaulting "prefix" Json.asText default.tablePrefix }

def ofFile (content : Except String String) : Except Failure Settings := do
  let text ← Except.mapError .file content
  Except.mapError .json ((Json.ofString? text).bind ofJson)

def toJson (s : Settings) : Json := .object [
  ("driver", .text s.driver),
  ("host", .text s.host),
  ("port", .int s.portNumber.toNat),
  ("database", .text s.database),
  ("username", .text s.username),
  ("password", .text s.password),
  ("charset", .text s.charset),
  ("prefix", .text s.tablePrefix)]

/-- The data source: where to connect, without credentials. -/
def dataSource (s : Settings) : String :=
  "DRIVER=YashanDB;SERVER=" ++ s.host ++ ";PORT=" ++ toString s.portNumber.toNat ++ ";DATABASE=" ++
    s.database

def connectionString (s : Settings) : String :=
  s.dataSource ++ ";UID=" ++ s.username ++ ";PWD=" ++ s.password ++ ";CHARSET=" ++ s.charset

/-- The settings shown in full but for the password. -/
def shown (s : Settings) : String :=
  let fields := [
    "driver: " ++ Text.shown s.driver,
    "host: " ++ Text.shown s.host,
    "port: " ++ toString s.portNumber.toNat,
    "database: " ++ Text.shown s.database,
    "username: " ++ Text.shown s.username,
    "password: " ++ Text.shown "***",
    "charset: " ++ Text.shown s.charset,
    "prefix: " ++ Text.shown s.tablePrefix]
  "ConnectionConfig \x7b " ++ ", ".intercalate fields ++ " \x7d"

end Settings

end SqlSchema
