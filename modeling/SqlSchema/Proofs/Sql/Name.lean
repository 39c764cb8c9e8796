import SqlSchema.Dialect.Basic

/-!
# Names of sequences

The name of a sequence is the start of table, column and ending, joined by underscores, as far
as it fits. Two names that fit coincide only where an underscore of one table or column passes
for the join of the other.
-/

namespace SqlSchema.Name

theorem length_ofSequence_le (table column : String) : (ofSequence table column).length ≤ 30 := by
  rw [← String.length_toList]
  exact length_fit_le _

theorem length_ofSequence_pos (table column : String) : 1 ≤ (ofSequence table column).length := by
  rw [← String.length_toList, ofSequence, toList_fit, List.length_take]
  simp [maxLength]
  omega

theorem ofSequence_isPrefix (table column : String) :
    (ofSequence table column).toList <+: (table ++ "_" ++ column ++ "_seq").toList := by
  rw [ofSequence, toList_fit]
  exact List.take_prefix _ _

theorem fit_eq_self {name : String} (h : name.length ≤ 30) : fit name = name := by
  rw [fit, List.take_of_length_le (by rwa [String.length_toList]), String.ofList_toList]

/-- One table extends the other by an underscore and a part that the other's column repeats. -/
def Overlap (table₁ column₁ table₂ column₂ : String) : Prop :=
  ∃ part, table₂ = table₁ ++ "_" ++ part ∧ column₁ = part ++ "_" ++ column₂

theorem append_overlap {a b x y : List Char} (hab : a ≠ b) :
    a ++ '_' :: x = b ++ '_' :: y ↔
      (∃ part, b = a ++ '_' :: part ∧ x = part ++ '_' :: y) ∨
        ∃ part, a = b ++ '_' :: part ∧ y = part ++ '_' :: x := by
  constructor
  · intro h
    rcases List.append_eq_append_iff.mp h with ⟨m, hb, hx⟩ | ⟨m, ha, hy⟩
    · cases m with
      | nil => exact absurd (by simpa using hb.symm) hab
      | cons c part =>
        obtain ⟨rfl, rfl⟩ := List.cons.inj hx
        exact .inl ⟨part, hb, rfl⟩
    · cases m with
      | nil => exact absurd (by simpa using ha) hab
      | cons c part =>
        obtain ⟨rfl, rfl⟩ := List.cons.inj hy
        exact .inr ⟨part, ha, rfl⟩
  · rintro (⟨part, rfl, rfl⟩ | ⟨part, rfl, rfl⟩) <;> simp

theorem overlap_iff (a x b y : String) : Overlap a x b y ↔
    ∃ part, b.toList = a.toList ++ '_' :: part ∧ x.toList = part ++ '_' :: y.toList := by
  constructor
  · rintro ⟨part, rfl, rfl⟩
    exact ⟨part.toList, by simp, by simp⟩
  · rintro ⟨part, hb, hx⟩
    refine ⟨String.ofList part, String.toList_injective ?_, String.toList_injective ?_⟩
    · simp [hb]
    · simp [hx]

/-- Under one prefix, the names of two tables' sequences coincide, if they fit, exactly where
one of the tables overlaps with the other's column. -/
theorem ofSequence_eq_iff {tablePrefix a b x y : String} (hab : a ≠ b)
    (ha : (tablePrefix ++ a ++ "_" ++ x ++ "_seq").length ≤ 30)
    (hb : (tablePrefix ++ b ++ "_" ++ y ++ "_seq").length ≤ 30) :
    ofSequence (tablePrefix ++ a) x = ofSequence (tablePrefix ++ b) y ↔
      Overlap a x b y ∨ Overlap b y a x := by
  have hne : a.toList ≠ b.toList := fun h => hab (String.toList_injective h)
  rw [ofSequence, ofSequence, fit_eq_self ha, fit_eq_self hb, overlap_iff, overlap_iff,
    ← append_overlap hne, ← String.toList_inj]
  calc
    _ ↔ tablePrefix.toList ++ ((a.toList ++ '_' :: x.toList) ++ "_seq".toList) =
          tablePrefix.toList ++ ((b.toList ++ '_' :: y.toList) ++ "_seq".toList) := by
      simp [String.toList_append]
    _ ↔ _ := by rw [List.append_right_inj, List.append_left_inj]

end SqlSchema.Name
