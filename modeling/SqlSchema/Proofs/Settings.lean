import Mathlib.Data.List.Basic
import SqlSchema.Proofs.Text.Integer
import SqlSchema.Proofs.Text.Parts
import SqlSchema.Settings

/-!
# What a connection string sets

A connection string is a list of attributes with semicolons between them, and the values of the
settings stand in it as they are. Each semicolon in a value ends that value and adds a piece, so
the string says what the settings say exactly if no value holds one; any other character may
stand in a value, the equals sign too.
-/

namespace SqlSchema.Settings

/-! ## Reading a connection string -/

/-- What one piece of a connection string sets: the key before its first equals sign, and the
value behind it. A piece without that sign has no value. -/
def ofPiece (piece : List Char) : String × Option String :=
  match piece.dropWhile (· ≠ '=') with
  | [] => (String.ofList piece, none)
  | _ :: value => (String.ofList (piece.takeWhile (· ≠ '=')), some (String.ofList value))

def attributes (s : String) : List (String × Option String) :=
  (Text.splitOn ';' s.toList).map ofPiece

/-- The keys of a connection string with the values of the settings. -/
def assignments (s : Settings) : List (String × String) := [
  ("DRIVER", "YashanDB"),
  ("SERVER", s.host),
  ("PORT", toString s.portNumber.toNat),
  ("DATABASE", s.database),
  ("UID", s.username),
  ("PWD", s.password),
  ("CHARSET", s.charset)]

def ownAttributes (s : Settings) : List (String × Option String) :=
  s.assignments.map fun a => (a.1, some a.2)

def texts (s : Settings) : List String := [s.host, s.database, s.username, s.password, s.charset]

def semicolons (s : Settings) : Nat := (s.texts.flatMap String.toList).count ';'

def Separable (s : Settings) : Prop := ∀ v ∈ s.texts, ';' ∉ v.toList

instance (s : Settings) : Decidable s.Separable :=
  inferInstanceAs (Decidable (∀ v ∈ s.texts, ';' ∉ v.toList))

/-- Whether two settings put the same values into a connection string. -/
structure SameConnection (s t : Settings) : Prop where
  host : s.host = t.host
  portNumber : s.portNumber = t.portNumber
  database : s.database = t.database
  username : s.username = t.username
  password : s.password = t.password
  charset : s.charset = t.charset

variable {s t : Settings}

/-! ## Pieces -/

def piece (a : String × String) : List Char := a.1.toList ++ '=' :: a.2.toList

theorem toList_connectionString (s : Settings) :
    s.connectionString.toList = [';'].intercalate (s.assignments.map piece) := by
  have hdriver : "DRIVER=YashanDB;SERVER=".toList =
      "DRIVER".toList ++ '=' :: ("YashanDB".toList ++ ';' :: ("SERVER".toList ++ ['='])) := rfl
  have hport : ";PORT=".toList = ';' :: ("PORT".toList ++ ['=']) := rfl
  have hdatabase : ";DATABASE=".toList = ';' :: ("DATABASE".toList ++ ['=']) := rfl
  have huser : ";UID=".toList = ';' :: ("UID".toList ++ ['=']) := rfl
  have hpassword : ";PWD=".toList = ';' :: ("PWD".toList ++ ['=']) := rfl
  have hcharset : ";CHARSET=".toList = ';' :: ("CHARSET".toList ++ ['=']) := rfl
  unfold connectionString dataSource
  simp only [assignments, piece, String.toList_append, hdriver, hport, hdatabase, huser, hpassword,
    hcharset, List.map_cons, List.map_nil, List.intercalate_cons_cons, List.intercalate_singleton,
    List.append_assoc, List.cons_append, List.nil_append]

theorem ofPiece_piece {a : String × String} (h : '=' ∉ a.1.toList) :
    ofPiece (piece a) = (a.1, some a.2) := by
  have hkey : ∀ c ∈ a.1.toList, decide (c ≠ '=') = true := by
    intro c hc
    simpa using fun e : c = '=' => h (e ▸ hc)
  have hend : ∀ c ∈ ('=' :: a.2.toList).head?, decide (c ≠ '=') = false := by simp
  rw [ofPiece, piece, Text.dropWhile_append_of_head? hkey hend,
    Text.takeWhile_append_of_head? hkey hend]
  simp

theorem key_plain (s : Settings) : ∀ a ∈ s.assignments, '=' ∉ a.1.toList ∧ ';' ∉ a.1.toList := by
  simp only [assignments, List.forall_mem_cons]
  decide

theorem semicolon_not_mem_toString (n : Nat) : ';' ∉ (toString n).toList := by
  intro h
  have := Text.isDigit_of_mem_toString h
  cases this

theorem separable_iff : s.Separable ↔ ∀ a ∈ s.assignments, ';' ∉ a.2.toList := by
  have hport := semicolon_not_mem_toString s.portNumber.toNat
  have hdriver : ';' ∉ "YashanDB".toList := by decide
  simp only [Separable, texts, assignments, List.forall_mem_cons, hport, hdriver, not_false_eq_true,
    true_and]
  simp

theorem assignments_ne_nil (s : Settings) : s.assignments ≠ [] := List.cons_ne_nil _ _

/-- Each value is split on its own, together with its key. -/
theorem attributes_connectionString (s : Settings) : attributes s.connectionString =
    s.assignments.flatMap fun a => (Text.splitOn ';' (piece a)).map ofPiece := by
  have hne : s.assignments.map piece ≠ [] := by
    simpa using s.assignments_ne_nil
  rw [attributes, toList_connectionString, Text.splitOn_intercalate _ hne, List.flatMap_map,
    List.map_flatMap]

theorem map_ofPiece_splitOn {a : String × String} (hkey : '=' ∉ a.1.toList ∧ ';' ∉ a.1.toList)
    (hvalue : ';' ∉ a.2.toList) :
    (Text.splitOn ';' (piece a)).map ofPiece = [(a.1, some a.2)] := by
  have hpiece : ';' ∉ piece a := by
    simp [piece, hkey.2, hvalue]
  rw [Text.splitOn_of_not_mem hpiece, List.map_singleton, ofPiece_piece hkey.1]

theorem attributes_of_separable (h : s.Separable) :
    attributes s.connectionString = s.ownAttributes := by
  rw [attributes_connectionString, ownAttributes, List.map_eq_flatMap]
  apply List.flatMap_congr
  intro a ha
  exact map_ofPiece_splitOn (s.key_plain a ha) (separable_iff.mp h a ha)

/-! ## Semicolons -/

theorem length_splitOn_piece (s : Settings) : ∀ a ∈ s.assignments,
    ((Text.splitOn ';' (piece a)).map ofPiece).length = 1 + a.2.toList.count ';' := by
  intro a ha
  have hkey := List.count_eq_zero.mpr (s.key_plain a ha).2
  rw [List.length_map, Text.length_splitOn, piece, List.count_append, hkey,
    List.count_cons_of_ne (by decide)]
  omega

theorem length_attributes (s : Settings) :
    (attributes s.connectionString).length = 7 + s.semicolons := by
  have hnumber := List.count_eq_zero.mpr (semicolon_not_mem_toString s.portNumber.toNat)
  have hdriver : "YashanDB".toList.count ';' = 0 := by decide
  rw [attributes_connectionString, List.length_flatMap,
    List.map_congr_left s.length_splitOn_piece]
  simp only [assignments, semicolons, texts, List.flatMap_cons, List.flatMap_nil, List.count_append,
    List.count_nil, List.map_cons, List.map_nil, List.sum_cons, List.sum_nil, hnumber, hdriver]
  omega

theorem separable_iff_semicolons : s.Separable ↔ s.semicolons = 0 := by
  simp [Separable, semicolons, List.count_eq_zero]

/-! ## Settings with the same string -/

theorem separable_of_eq (hs : s.Separable) (h : t.connectionString = s.connectionString) :
    t.Separable := by
  have hlength := length_attributes t
  rw [h, length_attributes] at hlength
  rw [separable_iff_semicolons] at hs ⊢
  omega

theorem toString_portNumber_inj (h : toString t.portNumber.toNat = toString s.portNumber.toNat) :
    t.portNumber = s.portNumber := by
  have hread := Text.natural?_toString t.portNumber.toNat
  rw [h, Text.natural?_toString] at hread
  exact UInt16.toNat_inj.mp (Option.some.inj hread).symm

theorem sameConnection_of_ownAttributes (h : t.ownAttributes = s.ownAttributes) :
    t.SameConnection s := by
  simp only [ownAttributes, assignments, List.map_cons, List.map_nil, List.cons.injEq, Prod.mk.injEq,
    Option.some.injEq, true_and, and_true] at h
  obtain ⟨hhost, hport, hdatabase, husername, hpassword, hcharset⟩ := h
  exact ⟨hhost, toString_portNumber_inj hport, hdatabase, husername, hpassword, hcharset⟩

theorem SameConnection.connectionString_eq (h : t.SameConnection s) :
    t.connectionString = s.connectionString := by
  unfold connectionString dataSource
  rw [h.host, h.portNumber, h.database, h.username, h.password, h.charset]

/-- A connection string has one attribute more than the settings for each semicolon in a value. So
its attributes are those of the settings exactly if no value holds a semicolon, and then no
settings with another value have the same string. -/
theorem connectionString_faithful_iff (s : Settings) :
    (attributes s.connectionString).length = 7 + s.semicolons ∧
    (attributes s.connectionString = s.ownAttributes ↔ s.Separable) ∧
    (s.Separable → ∀ t : Settings,
      t.connectionString = s.connectionString ↔ t.SameConnection s) := by
  refine ⟨length_attributes s, ⟨fun h => ?_, attributes_of_separable⟩, fun hs t => ⟨fun h => ?_, ?_⟩⟩
  · have hlength := length_attributes s
    rw [h, ownAttributes, List.length_map] at hlength
    rw [separable_iff_semicolons]
    exact Nat.add_left_cancel hlength.symm
  · have ht := attributes_of_separable (separable_of_eq hs h)
    rw [h, attributes_of_separable hs] at ht
    exact sameConnection_of_ownAttributes ht.symm
  · exact SameConnection.connectionString_eq

theorem connectionString_faithful_signs :
    let s : Settings := { host := "db=1", username := "", password := "a=b,\x7b'\"\x7d PWD=" }
    s.Separable ∧
      attributes s.connectionString = [("DRIVER", some "YashanDB"), ("SERVER", some "db=1"),
        ("PORT", some "1688"), ("DATABASE", some "test"), ("UID", some ""),
        ("PWD", some "a=b,\x7b'\"\x7d PWD="), ("CHARSET", some "UTF8")] ∧
      { s with host := "db=2" }.connectionString ≠ s.connectionString := by
  intro s
  have hs : s.Separable := by decide
  obtain ⟨-, hattributes, hsame⟩ := connectionString_faithful_iff s
  refine ⟨hs, (hattributes.mpr hs).trans (by decide), fun h => ?_⟩
  have hhost := ((hsame hs _).mp h).host
  revert hhost
  decide

/-- The password ends at its semicolon, what is behind it is a second password, and other settings
have the same string. -/
theorem password_cut_at_semicolon :
    let s : Settings := { username := "app", password := "x;PWD=y" }
    let t : Settings := { username := "app;PWD=x", password := "y" }
    attributes s.connectionString = [("DRIVER", some "YashanDB"), ("SERVER", some "127.0.0.1"),
        ("PORT", some "1688"), ("DATABASE", some "test"), ("UID", some "app"), ("PWD", some "x"),
        ("PWD", some "y"), ("CHARSET", some "UTF8")] ∧
      attributes s.connectionString ≠ s.ownAttributes ∧
      t.connectionString = s.connectionString ∧ ¬ t.SameConnection s := by
  intro s t
  refine ⟨by decide, by decide, by decide, fun h => ?_⟩
  have huser := h.username
  revert huser
  decide

end SqlSchema.Settings
