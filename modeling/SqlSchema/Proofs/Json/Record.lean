import Mathlib.Data.List.Forall2
import Mathlib.Data.List.Nodup
import SqlSchema.Json.Decode

/-!
# Records as they may be written

A record may be written as an object with its members in any order, with members of other names
among them and without fields that have their defaults, or as the array of all its fields in
order. What a field may be written as is left open, so records within records are covered.
However a record is written, its fields are found again.
-/

namespace SqlSchema.Json

/-- A field of a record with a certain value: its name, what it may be written as, and whether
it may be left out. -/
structure FieldForm where
  name : String
  Writes : Json → Prop
  Omissible : Prop

/-- The members for these fields in order, some of them left out. -/
inductive Kept : List FieldForm → List (String × Json) → Prop
  | nil : Kept [] []
  | keep {f : FieldForm} {v : Json} {fields : List FieldForm} {members : List (String × Json)}
    (h : f.Writes v) (rest : Kept fields members) : Kept (f :: fields) ((f.name, v) :: members)
  | skip {f : FieldForm} {fields : List FieldForm} {members : List (String × Json)}
    (h : f.Omissible) (rest : Kept fields members) : Kept (f :: fields) members

inductive WritesRecord (fields : List FieldForm) : Json → Prop
  | object {kept extra members : List (String × Json)} (hkept : Kept fields kept)
    (hextra : ∀ m ∈ extra, m.1 ∉ fields.map FieldForm.name) (h : (kept ++ extra).Perm members) :
    WritesRecord fields (.object members)
  | array {items : List Json} (h : List.Forall₂ FieldForm.Writes fields items) :
    WritesRecord fields (.array items)

/-- The slot of a field is given what the field may be written as, unless it may be left out. -/
def Fields.Holds (slots : Fields) (f : FieldForm) : Prop :=
  (∃ v, slots f.name = .given v ∧ f.Writes v) ∨ slots f.name = .absent ∧ f.Omissible

variable {fields : List FieldForm} {f : FieldForm} {kept members : List (String × Json)}
  {name : String}

/-! ## Members -/

theorem occurrences_eq_count (name : String) (members : List (String × Json)) :
    occurrences name members = (members.map Prod.fst).count name := by
  rw [occurrences, List.count, List.countP_map]
  congr 1

theorem member?_of_mem {v : Json} (h : (name, v) ∈ members) (hone : occurrences name members ≤ 1) :
    member? name members = some v := by
  induction members with
  | nil => cases h
  | cons m rest ih =>
    obtain ⟨n, w⟩ := m
    rw [occurrences_eq_count, List.map_cons, List.count_cons] at hone
    rw [member?]
    rcases List.mem_cons.mp h with h | h
    · obtain ⟨rfl, rfl⟩ := Prod.mk.inj h
      rw [if_pos rfl]
    · have hpos : 0 < (rest.map Prod.fst).count name :=
        List.count_pos_iff.mpr (List.mem_map.mpr ⟨_, h, rfl⟩)
      have hne : n ≠ name := by
        rintro rfl
        simp at hone
        omega
      rw [if_neg hne]
      refine ih h ?_
      rw [occurrences_eq_count]
      omega

theorem member?_of_not_mem (h : name ∉ members.map Prod.fst) : member? name members = none := by
  induction members with
  | nil => rfl
  | cons m rest ih =>
    rw [List.map_cons, List.mem_cons, not_or] at h
    rw [member?, if_neg (Ne.symm h.1), ih h.2]

/-! ## Objects -/

theorem Kept.names_sublist (h : Kept fields kept) :
    (kept.map Prod.fst).Sublist (fields.map FieldForm.name) := by
  induction h with
  | nil => exact .slnil
  | keep h rest ih => exact ih.cons_cons _
  | skip h rest ih => exact ih.cons _

theorem Kept.find (h : Kept fields kept) (hnames : (fields.map FieldForm.name).Nodup)
    (hf : f ∈ fields) : (∃ v, (f.name, v) ∈ kept ∧ f.Writes v) ∨
      f.name ∉ kept.map Prod.fst ∧ f.Omissible := by
  induction h with
  | nil => cases hf
  | @keep g v fields members hg rest ih =>
    rw [List.map_cons, List.nodup_cons] at hnames
    rcases List.mem_cons.mp hf with rfl | hf
    · exact .inl ⟨v, List.mem_cons_self, hg⟩
    · have hne : f.name ≠ g.name := fun e => hnames.1 (e ▸ List.mem_map.mpr ⟨f, hf, rfl⟩)
      rcases ih hnames.2 hf with ⟨w, hw, hwrites⟩ | ⟨hnot, homissible⟩
      · exact .inl ⟨w, List.mem_cons_of_mem _ hw, hwrites⟩
      · refine .inr ⟨?_, homissible⟩
        rw [List.map_cons, List.mem_cons, not_or]
        exact ⟨hne, hnot⟩
  | @skip g fields members hg rest ih =>
    rw [List.map_cons, List.nodup_cons] at hnames
    rcases List.mem_cons.mp hf with rfl | hf
    · -- no member further on has the name of the field left out, since names differ
      exact .inr ⟨fun hm => hnames.1 (rest.names_sublist.subset hm), hg⟩
    · exact ih hnames.2 hf

theorem Kept.writes (h : Kept fields members) : WritesRecord fields (.object members) := by
  have hperm : (members ++ []).Perm members := by rw [List.append_nil]
  exact .object h (by simp) hperm

theorem asRecord_object {extra : List (String × Json)} (hkept : Kept fields kept)
    (hextra : ∀ m ∈ extra, m.1 ∉ fields.map FieldForm.name)
    (hperm : (kept ++ extra).Perm members) (hnames : (fields.map FieldForm.name).Nodup) :
    ∃ slots, asRecord (fields.map FieldForm.name) (.object members) = .ok slots ∧
      ∀ f ∈ fields, slots.Holds f := by
  have hnot {n : String} (hn : n ∈ fields.map FieldForm.name) : n ∉ extra.map Prod.fst := by
    intro hm
    obtain ⟨m, hmem, rfl⟩ := List.mem_map.mp hm
    exact hextra m hmem hn
  have hone {n : String} (hn : n ∈ fields.map FieldForm.name) : occurrences n members ≤ 1 := by
    have hkeptOne := List.nodup_iff_count_le_one.mp (hkept.names_sublist.nodup hnames) n
    rw [occurrences, ← hperm.countP_eq, ← occurrences, occurrences_eq_count, List.map_append,
      List.count_append, List.count_eq_zero.mpr (hnot hn)]
    exact hkeptOne
  have hfind : (fields.map FieldForm.name).find? (fun n => 1 < occurrences n members) = none := by
    rw [List.find?_eq_none]
    intro n hn
    simpa using hone hn
  refine ⟨_, by rw [asRecord, hfind], ?_⟩
  intro f hf
  have hfn : f.name ∈ fields.map FieldForm.name := List.mem_map.mpr ⟨f, hf, rfl⟩
  rcases hkept.find hnames hf with ⟨v, hv, hwrites⟩ | ⟨habsent, homissible⟩
  · have hmem : (f.name, v) ∈ members := hperm.mem_iff.mp (List.mem_append_left _ hv)
    refine .inl ⟨v, ?_, hwrites⟩
    dsimp only
    rw [member?_of_mem hmem (hone hfn)]
    rfl
  · have hmembers : f.name ∉ members.map Prod.fst := by
      rw [← (hperm.map Prod.fst).mem_iff, List.map_append, List.mem_append, not_or]
      exact ⟨habsent, hnot hfn⟩
    refine .inr ⟨?_, homissible⟩
    dsimp only
    rw [member?_of_not_mem hmembers]
    rfl

/-! ## Arrays -/

theorem getElem?_idxOf {items : List Json} (h : List.Forall₂ FieldForm.Writes fields items)
    (hnames : (fields.map FieldForm.name).Nodup) (hf : f ∈ fields) :
    ∃ v, items[(fields.map FieldForm.name).idxOf f.name]? = some v ∧ f.Writes v := by
  induction h with
  | nil => cases hf
  | @cons g v fields items hg _ ih =>
    rw [List.map_cons, List.nodup_cons] at hnames
    rcases List.mem_cons.mp hf with rfl | hf
    · refine ⟨v, ?_, hg⟩
      rw [List.map_cons, List.idxOf_cons_self]
      rfl
    · have hne : g.name ≠ f.name := fun e => hnames.1 (e ▸ List.mem_map.mpr ⟨f, hf, rfl⟩)
      rw [List.map_cons, List.idxOf_cons_ne _ hne, Nat.succ_eq_add_one, List.getElem?_cons_succ]
      exact ih hnames.2 hf

/-- However a record is written, each field is found with what it may be written as. -/
theorem WritesRecord.asRecord {j : Json} (h : WritesRecord fields j)
    (hnames : (fields.map FieldForm.name).Nodup) :
    ∃ slots, asRecord (fields.map FieldForm.name) j = .ok slots ∧ ∀ f ∈ fields, slots.Holds f := by
  cases h with
  | object hkept hextra hperm => exact asRecord_object hkept hextra hperm hnames
  | @array items h =>
    have hlength : ¬ (fields.map FieldForm.name).length < items.length := by
      rw [List.length_map, h.length_eq]
      exact Nat.lt_irrefl _
    refine ⟨_, by rw [Json.asRecord, if_neg hlength], ?_⟩
    intro f hf
    obtain ⟨v, hv, hwrites⟩ := getElem?_idxOf h hnames hf
    refine .inl ⟨v, ?_, hwrites⟩
    dsimp only
    rw [hv]
    rfl

/-! ## Reading fields -/

variable {α : Type} {slots : Fields} {Writes : Json → Prop} {item : Decoder α} {a : α}

theorem Fields.required_of_holds (h : slots.Holds ⟨name, Writes, False⟩)
    (hread : ∀ j, Writes j → item j = .ok a) : slots.required name item = .ok a := by
  rcases h with ⟨v, hv, hwrites⟩ | ⟨-, hfalse⟩
  · have hv : slots name = .given v := hv
    rw [required, hv]
    exact hread v hwrites
  · cases hfalse

theorem Fields.defaulting_of_holds {default : α} (h : slots.Holds ⟨name, Writes, a = default⟩)
    (hread : ∀ j, Writes j → item j = .ok a) : slots.defaulting name item default = .ok a := by
  rcases h with ⟨v, hv, hwrites⟩ | ⟨habsent, hdefault⟩
  · have hv : slots name = .given v := hv
    rw [defaulting, hv]
    exact hread v hwrites
  · have habsent : slots name = .absent := habsent
    have hdefault : a = default := hdefault
    rw [defaulting, habsent, hdefault]

theorem Fields.optional_of_holds {o : Option α} (h : slots.Holds ⟨name, Writes, o = none⟩)
    (hread : ∀ j, Writes j → asOptional item j = .ok o) : slots.optional name item = .ok o := by
  rcases h with ⟨v, hv, hwrites⟩ | ⟨habsent, hnone⟩
  · have hv : slots name = .given v := hv
    rw [optional, hv]
    exact hread v hwrites
  · have habsent : slots name = .absent := habsent
    have hnone : o = none := hnone
    rw [optional, habsent, hnone]

/-! ## Reading items and options -/

/-- An array with an item for each value. -/
def WritesList (Writes : α → Json → Prop) (l : List α) (j : Json) : Prop :=
  ∃ items, j = .array items ∧ List.Forall₂ Writes l items

theorem writesList_map {Writes : α → Json → Prop} {write : α → Json} (h : ∀ a, Writes a (write a))
    (l : List α) : WritesList Writes l (.array (l.map write)) :=
  ⟨_, rfl, List.forall₂_map_right_iff.mpr (List.forall₂_same.mpr fun a _ => h a)⟩

theorem asListOf_of_writes {Writes : α → Json → Prop} {l : List α} {j : Json}
    (h : WritesList Writes l j) (hread : ∀ a j, Writes a j → item j = .ok a) :
    asListOf item j = .ok l := by
  obtain ⟨items, rfl, hitems⟩ := h
  rw [asListOf]
  induction hitems with
  | nil => rfl
  | cons ha _ ih =>
    rw [List.mapM_cons, hread _ _ ha, ih]
    rfl

theorem asOptional_elim {write : α → Json} (hread : ∀ a, item (write a) = .ok a)
    (hnull : ∀ a, write a ≠ .null) (o : Option α) :
    asOptional item (o.elim .null write) = .ok o := by
  cases o with
  | none => rfl
  | some a =>
    have hsome : asOptional item (write a) = (item (write a)).map some := by
      unfold asOptional
      split
      · next h => exact absurd h (hnull a)
      · rfl
    rw [Option.elim_some, hsome, hread a]
    rfl

theorem asOptional_ofText? (s : Option String) : asOptional asText (ofText? s) = .ok s := by
  cases s with
  | none => rfl
  | some s => rfl

/-! ## Common fields -/

namespace FieldForm

def text (name s : String) : FieldForm := ⟨name, (· = .text s), False⟩

def flag (name : String) (b : Bool) : FieldForm := ⟨name, (· = .bool b), b = false⟩

def text? (name : String) (s : Option String) : FieldForm := ⟨name, (· = ofText? s), s = none⟩

def list (name : String) (Writes : α → Json → Prop) (l : List α) : FieldForm :=
  ⟨name, WritesList Writes l, l = []⟩

end FieldForm

theorem Fields.read_text {s : String} (h : slots.Holds (.text name s)) :
    slots.required name asText = .ok s :=
  required_of_holds h fun _ hj => hj ▸ rfl

theorem Fields.read_flag {b : Bool} (h : slots.Holds (.flag name b)) :
    slots.defaulting name asBool false = .ok b :=
  defaulting_of_holds h fun _ hj => hj ▸ rfl

theorem Fields.read_text? {s : Option String} (h : slots.Holds (.text? name s)) :
    slots.defaulting name (asOptional asText) none = .ok s :=
  defaulting_of_holds h fun _ hj => hj ▸ asOptional_ofText? s

theorem Fields.read_list {Writes : α → Json → Prop} {l : List α}
    (h : slots.Holds (.list name Writes l)) (hread : ∀ a j, Writes a j → item j = .ok a) :
    slots.defaulting name (asListOf item) [] = .ok l :=
  defaulting_of_holds h fun _ hj => asListOf_of_writes hj hread

end SqlSchema.Json
