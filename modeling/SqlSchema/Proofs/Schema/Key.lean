import Mathlib.Data.List.Induction
import SqlSchema.Proofs.Schema.Alteration

/-!
# Columns of the primary key

To mark a column as part of the key turns its nulls off, but a later step can allow them again.
So a column of the key is declared `NOT NULL` exactly if no step behind the last one that marks
it allows nulls.
-/

namespace SqlSchema

namespace Column

def Edit.marksKey : Edit → Bool
  | primaryKey => true
  | increments => true
  | _ => false

/-! ## One step -/

section
variable (c : Column) (e : Edit)

theorem name_edit : (c.edit e).name = c.name := by
  cases e <;> rfl

theorem primaryKey_edit : (c.edit e).primaryKey = (c.primaryKey || e.marksKey) := by
  cases e <;> simp [edit, asKey, Edit.marksKey]

theorem nullable_edit_iff : (c.edit e).nullable = true ↔
    e = .nullable ∨ c.nullable = true ∧ e.marksKey = false := by
  cases e <;> simp [edit, asKey, Edit.marksKey]

theorem definition_edit (h : ∀ sql, e ≠ .definition sql) :
    (c.edit e).definition = c.definition := by
  cases e with
  | definition sql => exact absurd rfl (h sql)
  | _ => rfl

end

/-! ## All steps -/

/-- Some step allows nulls, and no step behind it marks the column as part of the key. -/
def Reopened (edits : List Edit) : Prop :=
  ∃ before after, edits = before ++ .nullable :: after ∧ ∀ e ∈ after, e.marksKey = false

theorem reopened_append_singleton (edits : List Edit) (e : Edit) :
    Reopened (edits ++ [e]) ↔ e = .nullable ∨ Reopened edits ∧ e.marksKey = false := by
  constructor
  · rintro ⟨before, after, hsplit, hafter⟩
    rcases after.eq_nil_or_concat with rfl | ⟨after, u, rfl⟩
    · exact .inl (List.concat_inj.mp (by simpa using hsplit)).2
    · have hinit : edits ++ [e] = (before ++ .nullable :: after) ++ [u] := by
        simpa using hsplit
      obtain ⟨rfl, rfl⟩ := List.append_singleton_inj.mp hinit
      refine .inr ⟨⟨before, after, rfl, fun v hv => ?_⟩, ?_⟩
      · exact hafter v (by simp [hv])
      · exact hafter e (by simp)
  · rintro (rfl | ⟨⟨before, after, rfl, hafter⟩, he⟩)
    · exact ⟨edits, [], rfl, by simp⟩
    · refine ⟨before, after ++ [e], by simp, fun v hv => ?_⟩
      rcases List.mem_append.mp hv with hv | hv
      · exact hafter v hv
      · rwa [List.mem_singleton.mp hv]

section
variable (name : String) (type : ColumnType) (edits : List Edit)

theorem build_append_singleton (e : Edit) :
    build name type (edits ++ [e]) = (build name type edits).edit e := by
  rw [build, List.foldl_append]
  rfl

theorem name_build : (build name type edits).name = name := by
  induction edits using List.reverseRecOn with
  | nil => rfl
  | append_singleton edits e ih => rw [build_append_singleton, name_edit, ih]

theorem primaryKey_build : (build name type edits).primaryKey = edits.any Edit.marksKey := by
  induction edits using List.reverseRecOn with
  | nil => rfl
  | append_singleton edits e ih =>
    rw [build_append_singleton, primaryKey_edit, ih]
    simp

theorem nullable_build_iff : (build name type edits).nullable = true ↔ Reopened edits := by
  induction edits using List.reverseRecOn with
  | nil => simp [build, Reopened]
  | append_singleton edits e ih =>
    rw [build_append_singleton, nullable_edit_iff, reopened_append_singleton, ih]

instance : Decidable (Reopened edits) :=
  decidable_of_iff _ (nullable_build_iff "" .integer edits)

theorem definition_build (h : ∀ sql, .definition sql ∉ edits) :
    (build name type edits).definition = none := by
  induction edits using List.reverseRecOn with
  | nil => rfl
  | append_singleton edits e ih =>
    have he (sql : String) : e ≠ .definition sql := by
      rintro rfl
      exact h sql (by simp)
    rw [build_append_singleton, definition_edit _ _ he]
    exact ih fun sql hm => h sql (List.mem_append_left _ hm)

end

/-- How a column comes about whose declaration is generated. -/
structure Recipe where
  name : String
  type : ColumnType
  edits : List Edit
  generated : ∀ sql, .definition sql ∉ edits := by simp

namespace Recipe

def column (r : Recipe) : Column := build r.name r.type r.edits

def inKey (r : Recipe) : Bool := r.edits.any Edit.marksKey

end Recipe

end Column

/-! ## The fragment on nulls -/

namespace Dialect

/-- A declaration goes on with a fragment where its fragment on nulls belongs. -/
def Declares (d : Dialect) (c : Column) (fragment : String) : Prop :=
  (d.beforeNulls c ++ fragment).toList <+: (d.declaration c .stated).toList

instance (d : Dialect) (c : Column) (fragment : String) : Decidable (d.Declares c fragment) :=
  inferInstanceAs (Decidable (_ <+: _))

variable (d : Dialect) {c : Column}

theorem declares_iff (h : c.definition = none) (fragment : String) :
    d.Declares c fragment ↔ fragment.toList <+: (c.nullsFragment ++ d.afterNulls c).toList := by
  rw [Declares, d.declaration_of_no_definition h, if_pos rfl, String.append_assoc,
    String.toList_append, String.toList_append, List.prefix_append_right_inj]

theorem declares_notNull_iff (h : c.definition = none) :
    d.Declares c " NOT NULL" ↔ c.nullable = false := by
  rw [d.declares_iff h, Column.nullsFragment, String.toList_append]
  cases c.nullable with
  | true => simp
  | false => simp

theorem declares_null_iff (h : c.definition = none) :
    d.Declares c " NULL" ↔ c.nullable = true := by
  rw [d.declares_iff h, Column.nullsFragment, String.toList_append]
  cases c.nullable with
  | true => simp
  | false => simp

end Dialect

/-! ## Tables -/

namespace Table

/-- One step in building up a table from columns that are built up themselves. -/
inductive Step
  | column (r : Column.Recipe)
  | comment (text : String)
  | commentColumn (column text : String)
  | index (i : Index)

namespace Step

def edit : Step → Edit
  | column r => .column r.column
  | comment text => .comment text
  | commentColumn name text => .commentColumn name text
  | index i => .index i

def recipe? : Step → Option Column.Recipe
  | column r => some r
  | _ => none

end Step

def ofSteps (name : String) (steps : List Step) : Table := build name (steps.map Step.edit)

def recipes (steps : List Step) : List Column.Recipe := steps.filterMap Step.recipe?

theorem mem_recipes {r : Column.Recipe} {steps : List Step} :
    r ∈ recipes steps ↔ .column r ∈ steps := by
  rw [recipes, List.mem_filterMap]
  constructor
  · rintro ⟨s, hs, hr⟩
    cases s with
    | column q =>
      cases hr
      exact hs
    | _ => cases hr
  · exact fun h => ⟨.column r, h, rfl⟩

section
variable (name : String) (steps : List Step)

theorem ofSteps_append_singleton (s : Step) :
    ofSteps name (steps ++ [s]) = (ofSteps name steps).edit s.edit := by
  rw [ofSteps, List.map_append, build, List.foldl_append]
  rfl

theorem name_ofSteps : (ofSteps name steps).name = name := by
  induction steps using List.reverseRecOn with
  | nil => rfl
  | append_singleton steps s ih =>
    rw [ofSteps_append_singleton]
    cases s <;> exact ih

theorem columns_ofSteps : (ofSteps name steps).columns = (recipes steps).map (·.column) := by
  induction steps using List.reverseRecOn with
  | nil => rfl
  | append_singleton steps s ih =>
    rw [ofSteps_append_singleton, recipes, List.filterMap_append, List.map_append, ← recipes, ← ih]
    cases s with
    | column r => rfl
    | _ => exact (List.append_nil _).symm

theorem primaryKey_ofSteps :
    (ofSteps name steps).primaryKey = ((recipes steps).filter (·.inKey)).map (·.name) := by
  have hkey : (fun c : Column => c.primaryKey) ∘ Column.Recipe.column = Column.Recipe.inKey :=
    funext fun r => Column.primaryKey_build r.name r.type r.edits
  have hname : (fun c : Column => c.name) ∘ Column.Recipe.column = Column.Recipe.name :=
    funext fun r => Column.name_build r.name r.type r.edits
  rw [primaryKey, columns_ofSteps, List.filter_map, List.map_map, hkey, hname]

end

end Table

namespace Dialect

variable (d : Dialect)

def keyClause (names : List String) : List String :=
  if names.isEmpty then [] else ["PRIMARY KEY (" ++ d.nameList names ++ ")"]

theorem head?_statements (t : Table) : t.statements.head?.map (Statement.sql d) =
    some ("CREATE TABLE " ++ d.quoteName t.name ++ " (" ++ ", ".intercalate
      (t.columns.map (fun c => d.declaration c .stated) ++ d.keyClause t.primaryKey) ++ ")") := rfl

end Dialect

/-- The text that creates a table declares the columns in the order of their steps and lists the
names of those that some step marks. Such a column is declared `NULL` if a step behind the last
one that marks it allows nulls, and `NOT NULL` else. -/
theorem key_declared_notNull_iff (d : Dialect) (name : String) (steps : List Table.Step) :
    let key := (Table.recipes steps).filter (·.inKey)
    (Table.ofSteps name steps).statements.head?.map (Statement.sql d) =
      some ("CREATE TABLE " ++ d.quoteName name ++ " (" ++ ", ".intercalate
        ((Table.recipes steps).map (fun r => d.declaration r.column .stated) ++
          d.keyClause (key.map (·.name))) ++ ")") ∧
    ∀ r ∈ key, (d.Declares r.column " NOT NULL" ↔ ¬ Column.Reopened r.edits) ∧
      (d.Declares r.column " NULL" ↔ Column.Reopened r.edits) := by
  intro key
  constructor
  · rw [d.head?_statements, Table.name_ofSteps, Table.columns_ofSteps, Table.primaryKey_ofSteps,
      List.map_map]
    rfl
  · intro r _
    have hdefinition : r.column.definition = none :=
      Column.definition_build r.name r.type r.edits r.generated
    have hnullable : r.column.nullable = true ↔ Column.Reopened r.edits :=
      Column.nullable_build_iff r.name r.type r.edits
    constructor
    · rw [d.declares_notNull_iff hdefinition, ← hnullable, Bool.not_eq_true]
    · rw [d.declares_null_iff hdefinition, hnullable]

theorem key_declared_notNull_iff_mixed :
    let tenant : Column.Recipe :=
      { name := "tenant", type := .integer, edits := [.nullable, .primaryKey, .unique] }
    let id : Column.Recipe :=
      { name := "id", type := .bigInt, edits := [.primaryKey, .nullable, .increments] }
    let region : Column.Recipe :=
      { name := "region", type := .clob, edits := [.increments, .nullable] }
    let steps : List Table.Step := [.column tenant, .column id, .comment "\"", .column region]
    (Table.ofSteps "t" steps).statements.head?.map (Statement.sql .standard) =
      some ("CREATE TABLE \"t\" (\"tenant\" INT NOT NULL UNIQUE, \"id\" BIGINT NOT NULL, " ++
        "\"region\" CLOB NULL, PRIMARY KEY (\"tenant\", \"id\", \"region\"))") ∧
      Dialect.standard.Declares tenant.column " NOT NULL" ∧
      Dialect.standard.Declares id.column " NOT NULL" ∧
      Dialect.standard.Declares region.column " NULL" := by
  intro tenant id region steps
  obtain ⟨htext, hkey⟩ := key_declared_notNull_iff .standard "t" steps
  have hmem (r : Column.Recipe) (h : .column r ∈ steps) (hr : r.inKey = true) :
      r ∈ (Table.recipes steps).filter (·.inKey) :=
    List.mem_filter.mpr ⟨Table.mem_recipes.mpr h, hr⟩
  refine ⟨htext.trans (by decide +kernel), ?_, ?_, ?_⟩
  · exact (hkey tenant (hmem tenant (by simp [steps]) rfl)).1.mpr (by decide)
  · exact (hkey id (hmem id (by simp [steps]) rfl)).1.mpr (by decide)
  · exact (hkey region (hmem region (by simp [steps]) rfl)).2.mpr (by decide)

/-- The last step wins, so a column of the key can be declared `NULL`. -/
theorem key_declared_null :
    let id : Column.Recipe := { name := "id", type := .bigInt, edits := [.primaryKey, .nullable] }
    (Table.ofSteps "t" [.column id]).statements.map (Statement.sql .standard) =
        ["CREATE TABLE \"t\" (\"id\" BIGINT NULL, PRIMARY KEY (\"id\"))"] ∧
      ¬ Dialect.standard.Declares id.column " NOT NULL" := by
  intro id
  exact ⟨by decide, by decide⟩

end SqlSchema
