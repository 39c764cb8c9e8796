import SqlSchema.Json.Decode
import SqlSchema.Schema.Alteration

/-!
# Definitions in JSON

The JSON form of the types that describe tables and their alterations. Writing gives
a full object with every field in order; reading accepts whatever the typed readers
of records and variants accept.
-/

namespace SqlSchema

/-! ## Column types and defaults -/

def ColumnType.ofJson : Json.Decoder ColumnType := fun v => do
  let (name, content) ← Json.asVariant v
  match name with
  | "integer" => Json.carriesNothing .integer content
  | "big_int" => Json.carriesNothing .bigInt content
  | "small_int" => Json.carriesNothing .smallInt content
  | "boolean" => Json.carriesNothing .boolean content
  | "varchar" => Json.carries (fun n => (Json.asOptional Json.asUInt32 n).map .varchar) content
  | "char" => Json.carries (fun n => (Json.asOptional Json.asUInt32 n).map .char) content
  | "clob" => Json.carriesNothing .clob content
  | "blob" => Json.carriesNothing .blob content
  | "date" => Json.carriesNothing .date content
  | "time" => Json.carriesNothing .time content
  | "timestamp" => Json.carriesNothing .timestamp content
  | "timestamp_tz" => Json.carriesNothing .timestampTz content
  | _ => throw (.unknownVariant name)

def ColumnType.lengthJson (length : Option UInt32) : Json :=
  length.elim .null fun n => .int n.toNat

def ColumnType.toJson : ColumnType → Json
  | integer => .text "integer"
  | bigInt => .text "big_int"
  | smallInt => .text "small_int"
  | boolean => .text "boolean"
  | varchar length => .object [("varchar", lengthJson length)]
  | char length => .object [("char", lengthJson length)]
  | clob => .text "clob"
  | blob => .text "blob"
  | date => .text "date"
  | time => .text "time"
  | timestamp => .text "timestamp"
  | timestampTz => .text "timestamp_tz"

def Default.ofJson : Json.Decoder Default := fun v => do
  let (name, content) ← Json.asVariant v
  match name with
  | "null" => Json.carriesNothing .null content
  | "bool" => Json.carries (fun b => (Json.asBool b).map .bool) content
  | "integer" => Json.carries (fun n => (Json.asInt64 n).map .integer) content
  | "float" => Json.carries (fun x => (Json.asFloat x).map .float) content
  | "string" => Json.carries (fun s => (Json.asText s).map .string) content
  | "expression" => Json.carries (fun s => (Json.asText s).map .expression) content
  | _ => throw (.unknownVariant name)

def Default.toJson : Default → Json
  | null => .text "null"
  | bool b => .object [("bool", .bool b)]
  | integer n => .object [("integer", .int n.toInt)]
  | float x => .object [("float", .float x)]
  | string s => .object [("string", .text s)]
  | expression sql => .object [("expression", .text sql)]

/-! ## Columns -/

def Column.fieldNames : List String :=
  ["name", "sql_type", "nullable", "default", "unique", "check", "comment", "auto_increment",
    "auto_increment_start", "primary_key", "charset", "collation", "definition"]

/-- Reads a column. Only its name and type must be given. -/
def Column.ofJson : Json.Decoder Column := fun v => do
  let fields ← Json.asRecord fieldNames v
  let flag (name : String) := fields.defaulting name Json.asBool false
  let text (name : String) := fields.defaulting name (Json.asOptional Json.asText) none
  return {
    name := ← fields.required "name" Json.asText
    type := ← fields.required "sql_type" ColumnType.ofJson
    nullable := ← flag "nullable"
    default := ← fields.defaulting "default" (Json.asOptional Default.ofJson) none
    unique := ← flag "unique"
    check := ← text "check"
    comment := ← text "comment"
    autoIncrement := ← flag "auto_increment"
    autoIncrementStart := ←
      fields.defaulting "auto_increment_start" (Json.asOptional Json.asInt64) none
    primaryKey := ← flag "primary_key"
    charset := ← text "charset"
    collation := ← text "collation"
    definition := ← text "definition" }

def Column.toJson (c : Column) : Json := .object [
  ("name", .text c.name),
  ("sql_type", c.type.toJson),
  ("nullable", .bool c.nullable),
  ("default", c.default.elim .null Default.toJson),
  ("unique", .bool c.unique),
  ("check", Json.ofText? c.check),
  ("comment", Json.ofText? c.comment),
  ("auto_increment", .bool c.autoIncrement),
  ("auto_increment_start", c.autoIncrementStart.elim .null fun n => .int n.toInt),
  ("primary_key", .bool c.primaryKey),
  ("charset", Json.ofText? c.charset),
  ("collation", Json.ofText? c.collation),
  ("definition", Json.ofText? c.definition)]

/-! ## Tables -/

def Index.ofJson : Json.Decoder Index := fun v => do
  let fields ← Json.asRecord ["name", "columns", "unique"] v
  return {
    name := ← fields.required "name" Json.asText
    columns := ← fields.required "columns" (Json.asListOf Json.asText)
    unique := ← fields.defaulting "unique" Json.asBool false }

def Index.toJson (i : Index) : Json := .object [
  ("name", .text i.name),
  ("columns", .array (i.columns.map .text)),
  ("unique", .bool i.unique)]

/-- Reads the comments of columns from the members of an object, the last one of a name
counting. -/
def ColumnComments.ofJson : Json.Decoder ColumnComments
  | .object members =>
    (members.mapM fun (m : String × Json) => (Json.asText m.2).map fun s => (m.1, s)).map ofList
  | _ => .error (.expected "an object")

def ColumnComments.toJson (m : ColumnComments) : Json :=
  .object (m.entries.map fun e => (e.1, .text e.2))

def Table.fieldNames : List String :=
  ["name", "columns", "comment", "column_comments", "indexes"]

/-- Reads a table. Only its name must be given. -/
def Table.ofJson : Json.Decoder Table := fun v => do
  let fields ← Json.asRecord fieldNames v
  return {
    name := ← fields.required "name" Json.asText
    columns := ← fields.defaulting "columns" (Json.asListOf Column.ofJson) []
    comment := ← fields.defaulting "comment" (Json.asOptional Json.asText) none
    columnComments := ← fields.defaulting "column_comments" ColumnComments.ofJson .empty
    indexes := ← fields.defaulting "indexes" (Json.asListOf Index.ofJson) [] }

def Table.toJson (t : Table) : Json := .object [
  ("name", .text t.name),
  ("columns", .array (t.columns.map Column.toJson)),
  ("comment", Json.ofText? t.comment),
  ("column_comments", t.columnComments.toJson),
  ("indexes", .array (t.indexes.map Index.toJson))]

/-! ## Alterations -/

def ColumnChange.ofJson : Json.Decoder ColumnChange := fun v => do
  let fields ← Json.asRecord ["old_column", "new_column"] v
  return {
    old := ← fields.required "old_column" Column.ofJson
    new := ← fields.required "new_column" Column.ofJson }

def ColumnChange.toJson (c : ColumnChange) : Json :=
  .object [("old_column", c.old.toJson), ("new_column", c.new.toJson)]

def Alteration.fieldNames : List String :=
  ["name", "changed_columns", "added_columns", "removed_columns", "renamed_columns", "new_name",
    "comment"]

def Alteration.ofJson : Json.Decoder Alteration := fun v => do
  let fields ← Json.asRecord fieldNames v
  return {
    name := ← fields.required "name" Json.asText
    changed := ← fields.defaulting "changed_columns" (Json.asListOf ColumnChange.ofJson) []
    added := ← fields.defaulting "added_columns" (Json.asListOf Column.ofJson) []
    removed := ← fields.defaulting "removed_columns" (Json.asListOf Json.asText) []
    renamed := ← fields.defaulting "renamed_columns" (Json.asListOf Json.asTextPair) []
    newName := ← fields.defaulting "new_name" (Json.asOptional Json.asText) none
    comment := ← fields.defaulting "comment" (Json.asOptional Json.asText) none }

def Alteration.toJson (a : Alteration) : Json := .object [
  ("name", .text a.name),
  ("changed_columns", .array (a.changed.map ColumnChange.toJson)),
  ("added_columns", .array (a.added.map Column.toJson)),
  ("removed_columns", .array (a.removed.map .text)),
  ("renamed_columns", .array (a.renamed.map fun r => .array [.text r.1, .text r.2])),
  ("new_name", Json.ofText? a.newName),
  ("comment", Json.ofText? a.comment)]

end SqlSchema
