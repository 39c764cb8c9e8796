import Mathlib.Algebra.GroupWithZero.Nat
import Mathlib.Data.List.Induction
import SqlSchema.Operation.Inspection
import SqlSchema.Session.Lemmas

/-!
# Rows gathered by name

The catalog answers one row per column, the rows of several objects mixed. Rows are gathered into
entries: the first row of a name opens an entry, and each further row of the name adds to it. The
entries stand in the order in which their names first occur, and an entry depends on the rows of
its own name only.
-/

namespace SqlSchema

/-! ## Distinct names in order -/

theorem eraseDups_concat (l : List String) (a : String) :
    (l ++ [a]).eraseDups = if a ∈ l then l.eraseDups else l.eraseDups ++ [a] := by
  rw [List.eraseDups_append]
  by_cases h : a ∈ l
  · simp [h, List.removeAll]
  · have hsingle : [a].eraseDups = [a] := rfl
    simp [h, List.removeAll, hsingle]

theorem nodup_eraseDups (l : List String) : l.eraseDups.Nodup := by
  induction l using List.reverseRec with
  | nil => exact List.nodup_nil
  | append_singleton l a ih =>
    rw [eraseDups_concat]
    split
    · exact ih
    · next h =>
      refine List.nodup_append.mpr ⟨ih, List.pairwise_singleton _ a, fun b hb c hc hbc => h ?_⟩
      rw [← List.mem_singleton.mp hc, ← hbc]
      exact List.mem_eraseDups.mp hb

/-- A way to gather rows: the name under which a row goes, if any, the entry that a first row
opens, and what a further row adds. -/
structure Gathering (ε : Type) where
  name? : Row → Option String
  nameOf : ε → String
  opening : Row → String → ε
  adding : Row → ε → ε
  nameOf_opening : ∀ row name, nameOf (opening row name) = name
  nameOf_adding : ∀ row e, nameOf (adding row e) = nameOf e

namespace Gathering

variable {ε : Type} {g : Gathering ε} {row : Row} {name : String} {e : ε} {l : List ε}

def put (g : Gathering ε) (row : Row) (name : String) : List ε → List ε
  | [] => [g.opening row name]
  | e :: r => if g.nameOf e = name then g.adding row e :: r else e :: g.put row name r

def take (g : Gathering ε) (entries : List ε) (row : Row) : List ε :=
  match g.name? row with
  | some name => g.put row name entries
  | none => entries

def gather (g : Gathering ε) (rows : List Row) : List ε := rows.foldl g.take []

def rowsOf (g : Gathering ε) (name : String) (rows : List Row) : List Row :=
  rows.filter fun row => g.name? row = some name

/-- The entry that rows of one name make. -/
def gathered? (g : Gathering ε) (name : String) : List Row → Option ε
  | [] => none
  | row :: rows => some (rows.foldl (fun e r => g.adding r e) (g.opening row name))

theorem gathered?_concat (name : String) (rows : List Row) (row : Row) :
    g.gathered? name (rows ++ [row]) =
      some (((g.gathered? name rows).map (g.adding row)).getD (g.opening row name)) := by
  cases rows with
  | nil => rfl
  | cons r rows => simp [gathered?]

theorem gather_concat (rows : List Row) (row : Row) :
    g.gather (rows ++ [row]) = g.take (g.gather rows) row := by
  rw [gather, List.foldl_append]
  rfl

/-! ## One row -/

theorem names_put : (g.put row name l).map g.nameOf =
    if name ∈ l.map g.nameOf then l.map g.nameOf else l.map g.nameOf ++ [name] := by
  induction l with
  | nil => simp [put, g.nameOf_opening]
  | cons e l ih =>
    by_cases he : g.nameOf e = name
    · simp [put, he, g.nameOf_adding]
    · rw [put, if_neg he, List.map_cons, ih]
      simp only [List.map_cons, List.mem_cons, Ne.symm he, false_or]
      split <;> rfl

/-- What a row leaves of the entries: one of another name as it was, the one of its own name with
the row added, or opened by the row. -/
theorem mem_put (hnodup : (l.map g.nameOf).Nodup) (h : e ∈ g.put row name l) :
    (e ∈ l ∧ g.nameOf e ≠ name) ∨ (∃ d ∈ l, g.nameOf d = name ∧ e = g.adding row d) ∨
      (name ∉ l.map g.nameOf ∧ e = g.opening row name) := by
  induction l with
  | nil => exact .inr (.inr ⟨by simp, by simpa [put] using h⟩)
  | cons d l ih =>
    rw [List.map_cons, List.nodup_cons] at hnodup
    by_cases hd : g.nameOf d = name
    · rw [put, if_pos hd, List.mem_cons] at h
      rcases h with rfl | h
      · exact .inr (.inl ⟨d, List.mem_cons_self, hd, rfl⟩)
      · refine .inl ⟨List.mem_cons_of_mem d h, fun he => hnodup.1 ?_⟩
        rw [hd, ← he]
        exact List.mem_map_of_mem h
    · rw [put, if_neg hd, List.mem_cons] at h
      rcases h with rfl | h
      · exact .inl ⟨List.mem_cons_self, hd⟩
      · rcases ih hnodup.2 h with ⟨he, hne⟩ | ⟨c, hc, hcn, rfl⟩ | ⟨hout, rfl⟩
        · exact .inl ⟨List.mem_cons_of_mem d he, hne⟩
        · exact .inr (.inl ⟨c, List.mem_cons_of_mem d hc, hcn, rfl⟩)
        · exact .inr (.inr ⟨by simpa [Ne.symm hd] using hout, rfl⟩)

theorem sum_put {size : ε → Nat} (hopening : size (g.opening row name) = 1)
    (hadding : ∀ e, size (g.adding row e) = size e + 1) :
    ((g.put row name l).map size).sum = (l.map size).sum + 1 := by
  induction l with
  | nil => simp [put, hopening]
  | cons d l ih =>
    by_cases hd : g.nameOf d = name
    · rw [put, if_pos hd, List.map_cons, List.map_cons, List.sum_cons, List.sum_cons, hadding]
      omega
    · rw [put, if_neg hd, List.map_cons, List.map_cons, List.sum_cons, List.sum_cons, ih]
      omega

/-! ## All rows -/

theorem names_gather (rows : List Row) :
    (g.gather rows).map g.nameOf = (rows.filterMap g.name?).eraseDups := by
  induction rows using List.reverseRec with
  | nil => rfl
  | append_singleton rows row ih =>
    rw [gather_concat, take, List.filterMap_append]
    cases hrow : g.name? row with
    | none => simpa [hrow] using ih
    | some name =>
      have hsingle : [row].filterMap g.name? = [name] := by simp [hrow]
      rw [hsingle, eraseDups_concat, names_put, ih]
      simp only [List.mem_eraseDups]

theorem nodup_gather (rows : List Row) : ((g.gather rows).map g.nameOf).Nodup := by
  rw [names_gather]
  exact nodup_eraseDups _

theorem rowsOf_concat_of_eq (rows : List Row) (h : g.name? row = some name) :
    g.rowsOf name (rows ++ [row]) = g.rowsOf name rows ++ [row] := by
  simp [rowsOf, h]

theorem rowsOf_concat_of_ne (rows : List Row) (h : g.name? row ≠ some name) :
    g.rowsOf name (rows ++ [row]) = g.rowsOf name rows := by
  simp [rowsOf, h]

theorem rowsOf_eq_nil {rows : List Row} (h : name ∉ (g.gather rows).map g.nameOf) :
    g.rowsOf name rows = [] := by
  rw [names_gather, List.mem_eraseDups, List.mem_filterMap] at h
  refine List.filter_eq_nil_iff.mpr fun row hrow hname => h ⟨row, hrow, ?_⟩
  simpa using hname

/-- An entry is made of the rows of its name, in their order. -/
theorem gathered?_of_mem_gather {rows : List Row} (h : e ∈ g.gather rows) :
    g.gathered? (g.nameOf e) (g.rowsOf (g.nameOf e) rows) = some e := by
  induction rows using List.reverseRec generalizing e with
  | nil => cases h
  | append_singleton rows row ih =>
    rw [gather_concat, take] at h
    cases hrow : g.name? row with
    | none =>
      rw [hrow] at h
      rw [rowsOf_concat_of_ne rows (by simp [hrow])]
      exact ih h
    | some name =>
      rw [hrow] at h
      rcases mem_put (nodup_gather rows) h with ⟨he, hne⟩ | ⟨d, hd, rfl, rfl⟩ | ⟨hout, rfl⟩
      · rw [rowsOf_concat_of_ne rows (by simpa [hrow] using Ne.symm hne)]
        exact ih he
      · rw [g.nameOf_adding, rowsOf_concat_of_eq rows hrow, gathered?_concat, ih hd]
        rfl
      · rw [g.nameOf_opening, rowsOf_concat_of_eq rows hrow, rowsOf_eq_nil hout]
        rfl

/-- If each row that has a name counts for one in its entry, the entries count all such rows. -/
theorem sum_gather {size : ε → Nat}
    (hopening : ∀ row name, g.name? row = some name → size (g.opening row name) = 1)
    (hadding : ∀ row name, g.name? row = some name → ∀ e, size (g.adding row e) = size e + 1)
    (rows : List Row) :
    ((g.gather rows).map size).sum = (rows.filterMap g.name?).length := by
  induction rows using List.reverseRec with
  | nil => rfl
  | append_singleton rows row ih =>
    rw [gather_concat, take, List.filterMap_append, List.length_append]
    cases hrow : g.name? row with
    | none => simpa [hrow] using ih
    | some name =>
      have hsingle : [row].filterMap g.name? = [name] := by simp [hrow]
      rw [hsingle, sum_put (hopening row name hrow) (hadding row name hrow), ih]
      rfl

end Gathering

end SqlSchema
