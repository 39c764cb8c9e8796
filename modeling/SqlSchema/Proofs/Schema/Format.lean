import SqlSchema.Proofs.Json.Record
import SqlSchema.Schema.Codec
import SqlSchema.Sql.Datum
import SqlSchema.Sql.Page

/-!
# The typed format loses nothing

What each type may be written as in JSON, and that reading gives the value back. A type with
variants has one form for each value; a type with fields is a record, in which the fields that
are records themselves, or lists of them, may again be written in any of their ways.
-/

namespace SqlSchema

/-- The writer is one of the ways to write a value, and from each of them it is read back. -/
structure Json.Faithful {α : Type} (read : Json.Decoder α) (write : α → Json)
    (Writes : α → Json → Prop) : Prop where
  writes : ∀ a, Writes a (write a)
  reads : ∀ a j, Writes a j → read j = .ok a

/-- The only way to write a value is the writer. -/
theorem Json.faithful_of_reads {α : Type} {read : Json.Decoder α} {write : α → Json}
    (h : ∀ a, read (write a) = .ok a) : Json.Faithful read write fun a j => j = write a :=
  ⟨fun _ => rfl, fun a _ hj => hj ▸ h a⟩

/-! ## Numbers -/

namespace Json

theorem asInt64_int (n : Int64) : asInt64 (.int n.toInt) = .ok n := by
  have hbounds : Int64.minValue.toInt ≤ n.toInt ∧ n.toInt ≤ Int64.maxValue.toInt :=
    ⟨n.minValue_le_toInt, n.toInt_le⟩
  rw [asInt64, asIntWithin, if_pos hbounds]
  exact congrArg Except.ok n.ofInt_toInt

theorem asNatBelow_int {n size : Nat} (h : n < size) : asNatBelow size (.int n) = .ok n := by
  rw [asNatBelow, if_pos ⟨Int.natCast_nonneg n, Int.ofNat_lt.mpr h⟩, Int.toNat_natCast]

theorem asUInt64_int (n : UInt64) : asUInt64 (.int n.toNat) = .ok n := by
  rw [asUInt64, asNatBelow_int n.toNat_lt_size]
  exact congrArg Except.ok n.ofNat_toNat

theorem asUInt32_int (n : UInt32) : asUInt32 (.int n.toNat) = .ok n := by
  rw [asUInt32, asNatBelow_int n.toNat_lt_size]
  exact congrArg Except.ok n.ofNat_toNat

theorem asUInt8_int (n : UInt8) : asUInt8 (.int n.toNat) = .ok n := by
  rw [asUInt8, asNatBelow_int n.toNat_lt_size]
  exact congrArg Except.ok n.ofNat_toNat

end Json

/-! ## Variants -/

theorem ColumnType.ofJson_toJson (t : ColumnType) : ofJson t.toJson = .ok t := by
  have hlength (n : Option UInt32) : Json.asOptional Json.asUInt32 (lengthJson n) = .ok n :=
    Json.asOptional_elim Json.asUInt32_int (by simp) n
  cases t with
  | varchar n =>
    have h : ofJson (varchar n).toJson =
        (Json.asOptional Json.asUInt32 (lengthJson n)).map .varchar := rfl
    rw [h, hlength]
    rfl
  | char n =>
    have h : ofJson (char n).toJson =
        (Json.asOptional Json.asUInt32 (lengthJson n)).map .char := rfl
    rw [h, hlength]
    rfl
  | _ => rfl

theorem Default.ofJson_toJson (v : Default) : ofJson v.toJson = .ok v := by
  cases v with
  | integer n =>
    have h : ofJson (integer n).toJson = (Json.asInt64 (.int n.toInt)).map .integer := rfl
    rw [h, Json.asInt64_int]
    rfl
  | _ => rfl

theorem Default.toJson_ne_null (v : Default) : v.toJson ≠ .null := by
  cases v <;> simp [toJson]

theorem Datum.ofJson_toJson (v : Datum) : ofJson v.toJson = .ok v := by
  cases v with
  | int n =>
    have hbounds : int64Bounds.1 ≤ n.toInt ∧ n.toInt ≤ int64Bounds.2 :=
      ⟨n.minValue_le_toInt, n.toInt_le⟩
    rw [toJson, ofJson, if_pos hbounds, n.ofInt_toInt]
  | blob bytes =>
    have hbytes : Json.WritesList (fun (b : UInt8) j => j = .int b.toNat) bytes
        (.array (bytes.map fun b => .int b.toNat)) := Json.writesList_map (by simp) bytes
    rw [toJson, ofJson, Json.asListOf_of_writes hbytes fun b _ hj => hj ▸ Json.asUInt8_int b]
    rfl
  | _ => rfl

/-! ## Records -/

namespace Column

def forms (c : Column) : List Json.FieldForm := [
  .text "name" c.name,
  ⟨"sql_type", (· = c.type.toJson), False⟩,
  .flag "nullable" c.nullable,
  ⟨"default", (· = c.default.elim .null Default.toJson), c.default = none⟩,
  .flag "unique" c.unique,
  .text? "check" c.check,
  .text? "comment" c.comment,
  .flag "auto_increment" c.autoIncrement,
  ⟨"auto_increment_start", (· = c.autoIncrementStart.elim .null fun n => .int n.toInt),
    c.autoIncrementStart = none⟩,
  .flag "primary_key" c.primaryKey,
  .text? "charset" c.charset,
  .text? "collation" c.collation,
  .text? "definition" c.definition]

def Writes (c : Column) : Json → Prop := Json.WritesRecord c.forms

theorem ofJson_of_writes {c : Column} {j : Json} (h : c.Writes j) : ofJson j = .ok c := by
  have hnames : fieldNames.Nodup := by decide
  obtain ⟨slots, hslots, hold⟩ := Json.WritesRecord.asRecord h hnames
  have hslots : Json.asRecord fieldNames j = .ok slots := hslots
  simp only [forms, List.forall_mem_cons] at hold
  obtain ⟨hname, htype, hnullable, hdefault, hunique, hcheck, hcomment, hautoIncrement, hstart,
    hprimaryKey, hcharset, hcollation, hdefinition, -⟩ := hold
  have htype := Json.Fields.required_of_holds htype fun _ hj => hj ▸ c.type.ofJson_toJson
  have hdefault := Json.Fields.defaulting_of_holds hdefault fun _ hj =>
    hj ▸ Json.asOptional_elim Default.ofJson_toJson Default.toJson_ne_null c.default
  have hstart := Json.Fields.defaulting_of_holds hstart fun _ hj =>
    hj ▸ Json.asOptional_elim Json.asInt64_int (by simp) c.autoIncrementStart
  rw [ofJson, hslots]
  simp only [bind, Except.bind, pure, Except.pure, Json.Fields.read_text hname, htype,
    Json.Fields.read_flag hnullable, hdefault, Json.Fields.read_flag hunique,
    Json.Fields.read_text? hcheck, Json.Fields.read_text? hcomment,
    Json.Fields.read_flag hautoIncrement, hstart, Json.Fields.read_flag hprimaryKey,
    Json.Fields.read_text? hcharset, Json.Fields.read_text? hcollation,
    Json.Fields.read_text? hdefinition]

theorem writes_toJson (c : Column) : c.Writes c.toJson := by
  have hkept : Json.Kept c.forms _ := .keep rfl <| .keep rfl <| .keep rfl <| .keep rfl <|
    .keep rfl <| .keep rfl <| .keep rfl <| .keep rfl <| .keep rfl <| .keep rfl <| .keep rfl <|
    .keep rfl <| .keep rfl .nil
  exact hkept.writes

end Column

/-- A text as an item of a list. -/
def Json.WritesText (s : String) (j : Json) : Prop := j = .text s

theorem Json.writesText_text (s : String) : WritesText s (.text s) := rfl

theorem Json.WritesText.asText {s : String} {j : Json} (h : WritesText s j) :
    Json.asText j = .ok s := by
  rw [h]
  rfl

namespace Index

def forms (i : Index) : List Json.FieldForm := [
  .text "name" i.name,
  ⟨"columns", Json.WritesList Json.WritesText i.columns, False⟩,
  .flag "unique" i.unique]

def Writes (i : Index) : Json → Prop := Json.WritesRecord i.forms

theorem ofJson_of_writes {i : Index} {j : Json} (h : i.Writes j) : ofJson j = .ok i := by
  have hnames : ["name", "columns", "unique"].Nodup := by decide
  obtain ⟨slots, hslots, hold⟩ := Json.WritesRecord.asRecord h hnames
  have hslots : Json.asRecord ["name", "columns", "unique"] j = .ok slots := hslots
  simp only [forms, List.forall_mem_cons] at hold
  obtain ⟨hname, hcolumns, hunique, -⟩ := hold
  have hcolumns := Json.Fields.required_of_holds hcolumns fun _ hj =>
    Json.asListOf_of_writes hj fun _ _ => Json.WritesText.asText
  rw [ofJson, hslots]
  simp only [bind, Except.bind, pure, Except.pure, Json.Fields.read_text hname, hcolumns,
    Json.Fields.read_flag hunique]

theorem writes_toJson (i : Index) : i.Writes i.toJson := by
  have hcolumns := Json.writesList_map Json.writesText_text i.columns
  have hkept : Json.Kept i.forms _ := .keep rfl <| .keep hcolumns <| .keep rfl .nil
  exact hkept.writes

end Index

namespace ColumnComments

/-- An entry behind all others is put last. -/
theorem insertEntry_last {name comment : String} {l : List (String × String)}
    (h : ∀ e ∈ l, e.1 < name) : insertEntry name comment l = l ++ [(name, comment)] := by
  induction l with
  | nil => rfl
  | cons e rest ih =>
    have he := h e List.mem_cons_self
    have hrest := ih fun b hb => h b (List.mem_cons_of_mem e hb)
    have hne : name ≠ e.1 := by
      rintro rfl
      exact String.lt_irrefl _ he
    rw [insertEntry, if_neg (String.lt_asymm he), if_neg hne, hrest, List.cons_append]

theorem entries_foldl {l : List (String × String)} : ∀ {m : ColumnComments},
    (m.entries ++ l).Pairwise (fun a b => a.1 < b.1) →
    (l.foldl (fun m e => m.insert e.1 e.2) m).entries = m.entries ++ l := by
  induction l with
  | nil =>
    intro m _
    rw [List.foldl_nil, List.append_nil]
  | cons e rest ih =>
    intro m h
    have hbefore : ∀ b ∈ m.entries, b.1 < e.1 := fun b hb =>
      (List.pairwise_append.mp h).2.2 b hb e List.mem_cons_self
    have hentries : (m.insert e.1 e.2).entries = m.entries ++ [e] := insertEntry_last hbefore
    have hall : (m.entries ++ [e]) ++ rest = m.entries ++ e :: rest := by simp
    rw [List.foldl_cons, ih (by rwa [hentries, hall]), hentries, hall]

theorem ofList_entries (m : ColumnComments) : ofList m.entries = m := by
  have hentries : (ofList m.entries).entries = m.entries := entries_foldl m.increasing
  cases m with
  | mk entries increasing =>
    cases h : ofList entries with
    | mk others _ =>
      rw [h] at hentries
      obtain rfl : others = entries := hentries
      rfl

theorem ofJson_toJson (m : ColumnComments) : ofJson m.toJson = .ok m := by
  have hmembers (l : List (String × String)) :
      (l.map fun e => (e.1, Json.text e.2)).mapM
        (fun (m : String × Json) => (Json.asText m.2).map fun s => (m.1, s)) =
        (.ok l : Except Json.Fault _) := by
    induction l with
    | nil => rfl
    | cons e rest ih =>
      rw [List.map_cons, List.mapM_cons, ih]
      rfl
  rw [toJson, ofJson, hmembers]
  exact congrArg Except.ok m.ofList_entries

end ColumnComments

namespace Table

def forms (t : Table) : List Json.FieldForm := [
  .text "name" t.name,
  .list "columns" Column.Writes t.columns,
  .text? "comment" t.comment,
  ⟨"column_comments", (· = t.columnComments.toJson), t.columnComments = .empty⟩,
  .list "indexes" Index.Writes t.indexes]

def Writes (t : Table) : Json → Prop := Json.WritesRecord t.forms

theorem ofJson_of_writes {t : Table} {j : Json} (h : t.Writes j) : ofJson j = .ok t := by
  have hnames : fieldNames.Nodup := by decide
  obtain ⟨slots, hslots, hold⟩ := Json.WritesRecord.asRecord h hnames
  have hslots : Json.asRecord fieldNames j = .ok slots := hslots
  simp only [forms, List.forall_mem_cons] at hold
  obtain ⟨hname, hcolumns, hcomment, hcomments, hindexes, -⟩ := hold
  have hcomments := Json.Fields.defaulting_of_holds hcomments fun _ hj =>
    hj ▸ t.columnComments.ofJson_toJson
  rw [ofJson, hslots]
  simp only [bind, Except.bind, pure, Except.pure, Json.Fields.read_text hname,
    Json.Fields.read_list hcolumns fun _ _ => Column.ofJson_of_writes,
    Json.Fields.read_text? hcomment, hcomments,
    Json.Fields.read_list hindexes fun _ _ => Index.ofJson_of_writes]

theorem writes_toJson (t : Table) : t.Writes t.toJson := by
  have hcolumns := Json.writesList_map Column.writes_toJson t.columns
  have hindexes := Json.writesList_map Index.writes_toJson t.indexes
  have hkept : Json.Kept t.forms _ := .keep rfl <| .keep hcolumns <| .keep rfl <| .keep rfl <|
    .keep hindexes .nil
  exact hkept.writes

end Table

namespace ColumnChange

def forms (c : ColumnChange) : List Json.FieldForm := [
  ⟨"old_column", c.old.Writes, False⟩,
  ⟨"new_column", c.new.Writes, False⟩]

def Writes (c : ColumnChange) : Json → Prop := Json.WritesRecord c.forms

theorem ofJson_of_writes {c : ColumnChange} {j : Json} (h : c.Writes j) : ofJson j = .ok c := by
  have hnames : ["old_column", "new_column"].Nodup := by decide
  obtain ⟨slots, hslots, hold⟩ := Json.WritesRecord.asRecord h hnames
  have hslots : Json.asRecord ["old_column", "new_column"] j = .ok slots := hslots
  simp only [forms, List.forall_mem_cons] at hold
  obtain ⟨hold, hnew, -⟩ := hold
  rw [ofJson, hslots]
  simp only [bind, Except.bind, pure, Except.pure,
    Json.Fields.required_of_holds hold fun _ => Column.ofJson_of_writes,
    Json.Fields.required_of_holds hnew fun _ => Column.ofJson_of_writes]

theorem writes_toJson (c : ColumnChange) : c.Writes c.toJson := by
  have hkept : Json.Kept c.forms _ :=
    .keep c.old.writes_toJson <| .keep c.new.writes_toJson .nil
  exact hkept.writes

end ColumnChange

namespace Alteration

def WritesRename (r : String × String) (j : Json) : Prop := j = .array [.text r.1, .text r.2]

theorem writesRename_array (r : String × String) :
    WritesRename r (.array [.text r.1, .text r.2]) := rfl

theorem WritesRename.asTextPair {r : String × String} {j : Json} (h : WritesRename r j) :
    Json.asTextPair j = .ok r := by
  rw [h]
  rfl

def forms (a : Alteration) : List Json.FieldForm := [
  .text "name" a.name,
  .list "changed_columns" ColumnChange.Writes a.changed,
  .list "added_columns" Column.Writes a.added,
  .list "removed_columns" Json.WritesText a.removed,
  .list "renamed_columns" WritesRename a.renamed,
  .text? "new_name" a.newName,
  .text? "comment" a.comment]

def Writes (a : Alteration) : Json → Prop := Json.WritesRecord a.forms

theorem ofJson_of_writes {a : Alteration} {j : Json} (h : a.Writes j) : ofJson j = .ok a := by
  have hnames : fieldNames.Nodup := by decide
  obtain ⟨slots, hslots, hold⟩ := Json.WritesRecord.asRecord h hnames
  have hslots : Json.asRecord fieldNames j = .ok slots := hslots
  simp only [forms, List.forall_mem_cons] at hold
  obtain ⟨hname, hchanged, hadded, hremoved, hrenamed, hnewName, hcomment, -⟩ := hold
  rw [ofJson, hslots]
  simp only [bind, Except.bind, pure, Except.pure, Json.Fields.read_text hname,
    Json.Fields.read_list hchanged fun _ _ => ColumnChange.ofJson_of_writes,
    Json.Fields.read_list hadded fun _ _ => Column.ofJson_of_writes,
    Json.Fields.read_list hremoved fun _ _ => Json.WritesText.asText,
    Json.Fields.read_list hrenamed fun _ _ => WritesRename.asTextPair,
    Json.Fields.read_text? hnewName, Json.Fields.read_text? hcomment]

theorem writes_toJson (a : Alteration) : a.Writes a.toJson := by
  have hchanged := Json.writesList_map ColumnChange.writes_toJson a.changed
  have hadded := Json.writesList_map Column.writes_toJson a.added
  have hremoved := Json.writesList_map Json.writesText_text a.removed
  have hrenamed := Json.writesList_map writesRename_array a.renamed
  have hkept : Json.Kept a.forms _ := .keep rfl <| .keep hchanged <| .keep hadded <|
    .keep hremoved <| .keep hrenamed <| .keep rfl <| .keep rfl .nil
  exact hkept.writes

end Alteration

namespace Page

def forms (p : Page) : List Json.FieldForm := [
  .text "query" p.query,
  ⟨"limit", (· = p.limit.elim .null fun n => .int n.toNat), p.limit = none⟩,
  ⟨"offset", (· = p.offset.elim .null fun n => .int n.toNat), p.offset = none⟩]

def Writes (p : Page) : Json → Prop := Json.WritesRecord p.forms

theorem ofJson_of_writes {p : Page} {j : Json} (h : p.Writes j) : ofJson j = .ok p := by
  have hnames : ["query", "limit", "offset"].Nodup := by decide
  obtain ⟨slots, hslots, hold⟩ := Json.WritesRecord.asRecord h hnames
  have hslots : Json.asRecord ["query", "limit", "offset"] j = .ok slots := hslots
  simp only [forms, List.forall_mem_cons] at hold
  obtain ⟨hquery, hlimit, hoffset, -⟩ := hold
  have hnumber (n : Option UInt64) :
      Json.asOptional Json.asUInt64 (n.elim .null fun n => .int n.toNat) = .ok n :=
    Json.asOptional_elim Json.asUInt64_int (by simp) n
  rw [ofJson, hslots]
  simp only [bind, Except.bind, pure, Except.pure, Json.Fields.read_text hquery,
    Json.Fields.optional_of_holds hlimit fun _ hj => hj ▸ hnumber p.limit,
    Json.Fields.optional_of_holds hoffset fun _ hj => hj ▸ hnumber p.offset]

theorem writes_toJson (p : Page) : p.Writes p.toJson := by
  have hkept : Json.Kept p.forms _ := .keep rfl <| .keep rfl <| .keep rfl .nil
  exact hkept.writes

end Page

/-- Every type of the format is written in one of its ways and read back from each of them. A
record may be written with its members in any order and others among them, without optional
fields that have their defaults, or as the array of its fields; so may the records within it. -/
theorem typed_format_faithful :
    Json.Faithful ColumnType.ofJson ColumnType.toJson (fun a j => j = a.toJson) ∧
    Json.Faithful Default.ofJson Default.toJson (fun a j => j = a.toJson) ∧
    Json.Faithful Datum.ofJson Datum.toJson (fun a j => j = a.toJson) ∧
    Json.Faithful Column.ofJson Column.toJson Column.Writes ∧
    Json.Faithful Index.ofJson Index.toJson Index.Writes ∧
    Json.Faithful Table.ofJson Table.toJson Table.Writes ∧
    Json.Faithful ColumnChange.ofJson ColumnChange.toJson ColumnChange.Writes ∧
    Json.Faithful Alteration.ofJson Alteration.toJson Alteration.Writes ∧
    Json.Faithful Page.ofJson Page.toJson Page.Writes :=
  ⟨Json.faithful_of_reads ColumnType.ofJson_toJson, Json.faithful_of_reads Default.ofJson_toJson,
    Json.faithful_of_reads Datum.ofJson_toJson,
    ⟨Column.writes_toJson, fun _ _ => Column.ofJson_of_writes⟩,
    ⟨Index.writes_toJson, fun _ _ => Index.ofJson_of_writes⟩,
    ⟨Table.writes_toJson, fun _ _ => Table.ofJson_of_writes⟩,
    ⟨ColumnChange.writes_toJson, fun _ _ => ColumnChange.ofJson_of_writes⟩,
    ⟨Alteration.writes_toJson, fun _ _ => Alteration.ofJson_of_writes⟩,
    ⟨Page.writes_toJson, fun _ _ => Page.ofJson_of_writes⟩⟩

example : Column.ofJson (.object [
    ("sql_type", .object [("varchar", .null)]), ("size", .int 3), ("default", .text "null"),
    ("name", .text "a")]) =
      .ok { name := "a", type := .varchar none, default := some .null } := rfl

end SqlSchema
