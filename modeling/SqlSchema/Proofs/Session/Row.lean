import Mathlib.Data.Finset.Card
import Mathlib.Data.Finset.Dedup
import SqlSchema.Session.Row

/-!
# Rows as maps

A row that is filled by setting columns is a map from names, taken without regard to ASCII case,
to values. Its columns stand in the order in which their names were first set and keep the
spelling of that time; each holds what was set last.
-/

namespace SqlSchema

namespace Text

theorem sameIgnoringCase_congr {a b : String} (h : sameIgnoringCase a b = true) (c : String) :
    sameIgnoringCase a c = sameIgnoringCase b c := by
  rw [sameIgnoringCase_iff] at h
  rw [sameIgnoringCase, sameIgnoringCase, h]

end Text

namespace Row

variable {row : Row} {name : String} {value : Datum}

def lastSet? (calls : List (String × Datum)) (name : String) : Option Datum :=
  (calls.reverse.find? fun c => Text.sameIgnoringCase c.1 name).map (·.2)

def names (row : Row) : List String := row.columns.map (·.1)

/-! ## Setting one column -/

theorem find?_setIn (name : String) (value : Datum) (asked : String) (l : List (String × Datum)) :
    ((setIn name value l).find? fun c => Text.sameIgnoringCase c.1 asked).map (·.2) =
      if Text.sameIgnoringCase name asked then some value
      else (l.find? fun c => Text.sameIgnoringCase c.1 asked).map (·.2) := by
  induction l with
  | nil =>
    rw [setIn, List.find?_cons]
    cases Text.sameIgnoringCase name asked <;> rfl
  | cons c l ih =>
    by_cases hc : Text.sameIgnoringCase c.1 name = true
    · have hasked := Text.sameIgnoringCase_congr hc asked
      rw [setIn, if_pos hc, List.find?_cons, List.find?_cons]
      simp only [hasked]
      cases Text.sameIgnoringCase name asked <;> rfl
    · rw [setIn, if_neg hc, List.find?_cons, List.find?_cons]
      cases hasked : Text.sameIgnoringCase c.1 asked with
      | false => exact ih
      | true =>
        -- the column asked for is this one, so it is not the one that was set
        have hname : ¬ Text.sameIgnoringCase name asked = true := by
          intro h
          rw [Text.sameIgnoringCase_comm] at h
          exact hc (Text.sameIgnoringCase_trans hasked h)
        rw [if_neg hname]

theorem get?_set (row : Row) (name : String) (value : Datum) (asked : String) :
    (row.set name value).get? asked =
      if Text.sameIgnoringCase name asked then some value else row.get? asked :=
  find?_setIn name value asked row.columns

theorem map_fst_setIn (name : String) (value : Datum) (l : List (String × Datum)) :
    (setIn name value l).map (·.1) =
      if (l.map (·.1)).any (Text.sameIgnoringCase name) then l.map (·.1)
      else l.map (·.1) ++ [name] := by
  induction l with
  | nil => rfl
  | cons c l ih =>
    by_cases hc : Text.sameIgnoringCase c.1 name = true
    · have hname : Text.sameIgnoringCase name c.1 = true := by
        rwa [Text.sameIgnoringCase_comm]
      rw [setIn, if_pos hc]
      simp [hname]
    · have hname : Text.sameIgnoringCase name c.1 = false := by
        rw [Text.sameIgnoringCase_comm]
        simpa using hc
      rw [setIn, if_neg hc, List.map_cons, ih]
      simp only [List.map_cons, List.any_cons, hname, Bool.false_or]
      split <;> rfl

theorem names_set (row : Row) (name : String) (value : Datum) :
    (row.set name value).names =
      if row.names.any (Text.sameIgnoringCase name) then row.names else row.names ++ [name] :=
  map_fst_setIn name value row.columns

/-! ## Setting many -/

theorem ofList_concat (calls : List (String × Datum)) (c : String × Datum) :
    ofList (calls ++ [c]) = (ofList calls).set c.1 c.2 := by
  rw [ofList, List.foldl_append]
  rfl

theorem get?_ofList (calls : List (String × Datum)) (name : String) :
    (ofList calls).get? name = lastSet? calls name := by
  induction calls using List.reverseRec with
  | nil => rfl
  | append_singleton calls c ih =>
    rw [ofList_concat, get?_set, ih, lastSet?, lastSet?, List.reverse_append, List.reverse_singleton,
      List.singleton_append, List.find?_cons]
    cases Text.sameIgnoringCase c.1 name <;> rfl

theorem eraseDupsBy_loop_concat {α : Type} (r : α → α → Bool) (b : α) : ∀ l acc : List α,
    List.eraseDupsBy.loop r (l ++ [b]) acc =
      if (List.eraseDupsBy.loop r l acc).any (r b) then List.eraseDupsBy.loop r l acc
      else List.eraseDupsBy.loop r l acc ++ [b]
  | [], acc => by
    simp only [List.nil_append, List.eraseDupsBy.loop, List.any_reverse]
    cases acc.any (r b) <;> simp
  | a :: l, acc => by
    rw [List.cons_append, List.eraseDupsBy.loop, List.eraseDupsBy.loop]
    cases acc.any (r a) with
    | true => exact eraseDupsBy_loop_concat r b l acc
    | false => exact eraseDupsBy_loop_concat r b l (a :: acc)

theorem names_ofList (calls : List (String × Datum)) :
    (ofList calls).names = (calls.map (·.1)).eraseDupsBy Text.sameIgnoringCase := by
  induction calls using List.reverseRec with
  | nil => rfl
  | append_singleton calls c ih =>
    rw [ofList_concat, names_set, ih, List.map_append]
    exact (eraseDupsBy_loop_concat Text.sameIgnoringCase c.1 (calls.map (·.1)) []).symm

/-! ## Columns found by name -/

theorem find?_of_distinct {c : String × Datum} : ∀ {l : List (String × Datum)},
    l.Pairwise DistinctNames → c ∈ l →
      (l.find? fun d => Text.sameIgnoringCase d.1 c.1) = some c
  | a :: l, h, hc => by
    obtain ⟨ha, hl⟩ := List.pairwise_cons.mp h
    rw [List.find?_cons]
    rcases List.mem_cons.mp hc with rfl | hc
    · rw [Text.sameIgnoringCase_refl]
    · have hne : Text.sameIgnoringCase a.1 c.1 = false := ha c hc
      rw [hne]
      exact find?_of_distinct hl hc

theorem get?_of_mem {c : String × Datum} (hc : c ∈ row.columns) : row.get? c.1 = some c.2 := by
  rw [get?, find?_of_distinct row.distinct hc, Option.map_some]

theorem get?_of_same {c : String × Datum} (hc : c ∈ row.columns)
    (hname : Text.sameIgnoringCase c.1 name = true) : row.get? name = some c.2 := by
  rw [← get?_of_mem hc, get?, get?]
  congr 2
  funext d
  rw [Text.sameIgnoringCase_comm, Text.sameIgnoringCase_comm d.1]
  exact (Text.sameIgnoringCase_congr hname d.1).symm

theorem first?_eq_get? (row : Row) : row.first? = row.names.head?.bind row.get? := by
  rw [first?, names]
  cases hl : row.columns with
  | nil => rfl
  | cons c l =>
    have hc : row.get? c.1 = some c.2 := get?_of_mem (hl ▸ List.mem_cons_self)
    simp [hc]

theorem head?_names_ofList (calls : List (String × Datum)) :
    (ofList calls).names.head? = calls.head?.map (·.1) := by
  rw [names_ofList]
  cases calls with
  | nil => rfl
  | cons c calls => rw [List.map_cons, List.eraseDupsBy_cons]; rfl

/-! ## Setting a column that is there -/

theorem setIn_eq_map : ∀ {l : List (String × Datum)},
    l.Pairwise DistinctNames → (l.find? fun c => Text.sameIgnoringCase c.1 name).isSome →
      setIn name value l =
        l.map fun c => if Text.sameIgnoringCase c.1 name then (c.1, value) else c
  | [], _, hfind => by cases hfind
  | a :: l, hl, hfind => by
    obtain ⟨ha, hl⟩ := List.pairwise_cons.mp hl
    by_cases hname : Text.sameIgnoringCase a.1 name = true
    · -- no later column has the name as well
      have hrest :
          (l.map fun c => if Text.sameIgnoringCase c.1 name then (c.1, value) else c) = l := by
        refine (List.map_congr_left fun c hc => ?_).trans (List.map_id l)
        have hne : Text.sameIgnoringCase c.1 name = false := by
          rw [Text.sameIgnoringCase_comm, ← Text.sameIgnoringCase_congr hname]
          exact ha c hc
        rw [hne]
        rfl
      rw [setIn, if_pos hname, List.map_cons, if_pos hname, hrest]
    · rw [List.find?_cons, Bool.eq_false_iff.mpr hname] at hfind
      rw [setIn, if_neg hname, List.map_cons, if_neg hname, setIn_eq_map hl hfind]

theorem columns_set (h : (row.get? name).isSome) :
    (row.set name value).columns =
      row.columns.map fun c => if Text.sameIgnoringCase c.1 name then (c.1, value) else c := by
  rw [get?, Option.isSome_map] at h
  exact setIn_eq_map row.distinct h

/-! ## Classes of names -/

theorem nodup_classes (row : Row) : (row.names.map Text.asciiLower).Nodup := by
  rw [names, List.map_map, List.Nodup, List.pairwise_map]
  refine row.distinct.imp fun h e => ?_
  have hsame := (Text.sameIgnoringCase_iff _ _).mpr e
  rw [DistinctNames, hsame] at h
  cases h

theorem nodup_names (row : Row) : row.names.Nodup := row.nodup_classes.of_map

theorem mem_classes_set {key : String} :
    key ∈ (row.set name value).names.map Text.asciiLower ↔
      key ∈ row.names.map Text.asciiLower ∨ key = Text.asciiLower name := by
  rw [names_set]
  split
  · next h =>
    obtain ⟨n, hn, hsame⟩ := List.any_eq_true.mp h
    have hmem : Text.asciiLower name ∈ row.names.map Text.asciiLower :=
      List.mem_map.mpr ⟨n, hn, ((Text.sameIgnoringCase_iff _ _).mp hsame).symm⟩
    constructor
    · exact .inl
    · rintro (h | rfl)
      · exact h
      · exact hmem
  · rw [List.map_append, List.mem_append, List.map_singleton, List.mem_singleton]

theorem mem_classes_ofList {calls : List (String × Datum)} {key : String} :
    key ∈ (ofList calls).names.map Text.asciiLower ↔
      key ∈ calls.map fun c => Text.asciiLower c.1 := by
  induction calls using List.reverseRec with
  | nil => rfl
  | append_singleton calls c ih =>
    rw [ofList_concat, mem_classes_set, ih, List.map_append, List.mem_append, List.map_singleton,
      List.mem_singleton]

theorem size_ofList (calls : List (String × Datum)) :
    (ofList calls).size = (calls.map fun c => Text.asciiLower c.1).toFinset.card := by
  have hclasses : ((ofList calls).names.map Text.asciiLower).toFinset =
      (calls.map fun c => Text.asciiLower c.1).toFinset := by
    ext key
    rw [List.mem_toFinset, List.mem_toFinset]
    exact mem_classes_ofList
  rw [← hclasses, List.toFinset_card_of_nodup (nodup_classes _), List.length_map, names,
    List.length_map]
  rfl

/-- Whatever columns are set one after the other, the row is a map from names without regard to
ASCII case. A name gives what was set last under it. The names are the first spellings, in the
order in which they were set, one for each class of names. The first column holds what was last
set under the first name. The JSON of the row has the same names in the same order, none of them
twice, with the same values. -/
theorem row_is_ordered_map (calls : List (String × Datum)) :
    let row := ofList calls
    row.names.Pairwise (fun a b => Text.sameIgnoringCase a b = false) ∧
    (∀ name, row.get? name = lastSet? calls name) ∧
    row.names = (calls.map (·.1)).eraseDupsBy Text.sameIgnoringCase ∧
    row.size = (calls.map fun c => Text.asciiLower c.1).toFinset.card ∧
    row.first? = calls.head?.bind (fun c => lastSet? calls c.1) ∧
    ∃ members, row.toJson = .object members ∧ members.map (·.1) = row.names ∧
      (members.map (·.1)).Nodup ∧
      ∀ m ∈ members, (lastSet? calls m.1).map Datum.toJson = some m.2 := by
  intro row
  have hget : ∀ name, row.get? name = lastSet? calls name := get?_ofList calls
  have hmembers : (row.columns.map fun c => (c.1, c.2.toJson)).map (·.1) = row.names := by
    rw [List.map_map]
    rfl
  refine ⟨?_, hget, names_ofList calls, size_ofList calls, ?_, _, rfl, hmembers, ?_, ?_⟩
  · exact List.pairwise_map.mpr row.distinct
  · rw [first?_eq_get?, head?_names_ofList, Option.bind_map]
    exact congrArg calls.head?.bind (funext fun c => hget c.1)
  · rw [hmembers]
    exact row.nodup_names
  · intro m hm
    obtain ⟨c, hc, rfl⟩ := List.mem_map.mp hm
    rw [← hget, get?_of_mem hc]
    rfl

example : (ofList [("Id", .int 1), ("x", .null), ("ID", .int 2)]).names = ["Id", "x"] := by decide

end Row

end SqlSchema
