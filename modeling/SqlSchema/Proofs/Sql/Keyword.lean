import Mathlib.Data.List.Chain
import SqlSchema.Sql.Keyword

/-!
# Reserved words, searched

Halving an array that is in increasing order finds exactly what stands in it. The reserved words
are in increasing order and in upper case, so an identifier is found exactly if one of them is
equal to it up to ASCII case.
-/

namespace SqlSchema

/-! ## Sets of words -/

namespace WordSet

theorem mem_insert {s : WordSet} {x y : String} : y ∈ s.insert x ↔ y = x ∨ y ∈ s :=
  mem_insertWord

theorem mem_foldl_insert {words : List String} {s : WordSet} {x : String} :
    x ∈ words.foldl insert s ↔ x ∈ words ∨ x ∈ s := by
  induction words generalizing s with
  | nil => simp
  | cons w words ih => rw [List.foldl_cons, ih, mem_insert, List.mem_cons, or_left_comm, or_assoc]

theorem mem_ofArray {words : Array String} {x : String} : x ∈ ofArray words ↔ x ∈ words := by
  rw [ofArray, ← Array.foldl_toList, mem_foldl_insert, Array.mem_toList_iff]
  exact or_iff_left List.not_mem_nil

end WordSet

/-! ## ASCII case -/

namespace Text

theorem toNat_toLower (c : Char) :
    c.toLower.toNat = if 65 ≤ c.toNat ∧ c.toNat ≤ 90 then c.toNat + 32 else c.toNat := by
  unfold Char.toLower
  split
  next h =>
    have hletter : 65 ≤ c.toNat ∧ c.toNat ≤ 90 := h
    have hval : (c.val + ('a'.val - 'A'.val)).toNat = (c.toNat + 32) % 2 ^ 32 :=
      UInt32.toNat_add _ _
    rw [if_pos hletter]
    exact hval.trans (by omega)
  next h => exact (if_neg h).symm

theorem toNat_toUpper (c : Char) :
    c.toUpper.toNat = if 97 ≤ c.toNat ∧ c.toNat ≤ 122 then c.toNat - 32 else c.toNat := by
  unfold Char.toUpper
  split
  next h =>
    have hletter : 97 ≤ c.toNat ∧ c.toNat ≤ 122 := h
    -- the difference of the two cases is negative, so the sum wraps around
    have hval : (c.val + ('A'.val - 'a'.val)).toNat = (c.toNat + (2 ^ 32 - 32)) % 2 ^ 32 :=
      UInt32.toNat_add _ _
    rw [if_pos hletter]
    exact hval.trans (by omega)
  next h => exact (if_neg h).symm

theorem toLower_toUpper (c : Char) : c.toUpper.toLower = c.toLower := by
  rw [← Char.toNat_inj, toNat_toLower, toNat_toLower, toNat_toUpper]
  grind

theorem toUpper_toLower (c : Char) : c.toLower.toUpper = c.toUpper := by
  rw [← Char.toNat_inj, toNat_toUpper, toNat_toUpper, toNat_toLower]
  grind

theorem asciiLower_asciiUpper (s : String) : asciiLower (asciiUpper s) = asciiLower s := by
  have h : s.toList.map (Char.toLower ∘ Char.toUpper) = s.toList.map Char.toLower :=
    List.map_congr_left fun c _ => toLower_toUpper c
  rw [asciiLower, asciiUpper, String.toList_ofList, List.map_map, h, asciiLower]

theorem asciiUpper_asciiLower (s : String) : asciiUpper (asciiLower s) = asciiUpper s := by
  have h : s.toList.map (Char.toUpper ∘ Char.toLower) = s.toList.map Char.toUpper :=
    List.map_congr_left fun c _ => toUpper_toLower c
  rw [asciiUpper, asciiLower, String.toList_ofList, List.map_map, h, asciiUpper]

theorem sameIgnoringCase_iff_upper (a b : String) :
    sameIgnoringCase a b = true ↔ asciiUpper a = asciiUpper b := by
  rw [sameIgnoringCase_iff]
  constructor
  · intro h
    rw [← asciiUpper_asciiLower, h, asciiUpper_asciiLower]
  · intro h
    rw [← asciiLower_asciiUpper, h, asciiLower_asciiUpper]

end Text

namespace Keyword

/-! ## Search by halving -/

/-- Whether each word of an array is less than every word behind it. -/
def Increasing (words : Array String) : Prop := words.toList.Pairwise (· < ·)

section
variable {words : Array String} {low high i j : Nat}

theorem Increasing.lt (h : Increasing words) (hij : i < j) (hj : j < words.size) :
    words[i] < words[j] :=
  List.pairwise_iff_getElem.mp h i j (Nat.lt_trans hij hj) hj hij

/-- What is found stands in the array, in whatever order the words are. -/
theorem mem_of_search {x : String} (h : search words x low high = true) : x ∈ words := by
  fun_induction search words x low high with
  | case1 low high hrange middle heq => exact heq ▸ Array.getElem_mem _
  | case2 low high hrange middle hne hlt ih => exact ih h
  | case3 low high hrange middle hne hnlt ih => exact ih h
  | case4 low high hrange => cases h

/-- A word between the bounds stays between them, since the half that is left out is on the other
side of the middle. -/
theorem search_getElem (hw : Increasing words) (hsize : i < words.size) (hlow : low ≤ i)
    (hi : i < high) (hhigh : high ≤ words.size) : search words words[i] low high = true := by
  fun_induction search words words[i] low high with
  | case1 low high hrange middle heq => rfl
  | case2 low high hrange middle hne hlt ih =>
    have hmiddle : i < middle := by
      rcases Nat.lt_trichotomy i middle with h | rfl | h
      · exact h
      · exact absurd rfl hne
      · exact absurd (hw.lt h _) (String.lt_asymm hlt)
    exact ih hlow hmiddle (by omega)
  | case3 low high hrange middle hne hnlt ih =>
    have hmiddle : middle < i := by
      rcases Nat.lt_trichotomy i middle with h | rfl | h
      · exact absurd (hw.lt h _) hnlt
      · exact absurd rfl hne
      · exact h
    exact ih hmiddle hi hhigh
  | case4 low high hrange => exact absurd ⟨Nat.lt_of_le_of_lt hlow hi, hhigh⟩ hrange

theorem search_iff_mem (hw : Increasing words) (x : String) :
    search words x 0 words.size = true ↔ x ∈ words := by
  constructor
  · exact mem_of_search
  · intro h
    obtain ⟨i, hi, rfl⟩ := Array.mem_iff_getElem.mp h
    exact search_getElem hw hi (Nat.zero_le i) hi (Nat.le_refl _)

end

/-! ## The reserved words -/

theorem increasing_all : Increasing all := by
  have h : all.toList.IsChain (· < ·) := by decide +kernel
  exact List.isChain_iff_pairwise.mp h

theorem asciiUpper_of_mem_all : ∀ w ∈ all, Text.asciiUpper w = w := by decide +kernel

theorem isReserved_iff_mem (x : String) : isReserved x = true ↔ Text.asciiUpper x ∈ all :=
  search_iff_mem increasing_all _

/-- An identifier is found among the reserved words exactly if one of them is equal to it up to
ASCII case, and exactly if the set of them holds its upper case. -/
theorem isReserved_is_membership (x : String) :
    (isReserved x = true ↔ ∃ w ∈ all, Text.sameIgnoringCase w x = true) ∧
    ((∃ w ∈ all, Text.sameIgnoringCase w x = true) ↔ Text.asciiUpper x ∈ set) := by
  have hsame : (∃ w ∈ all, Text.sameIgnoringCase w x = true) ↔ Text.asciiUpper x ∈ all := by
    constructor
    · rintro ⟨w, hw, h⟩
      rw [Text.sameIgnoringCase_iff_upper, asciiUpper_of_mem_all w hw] at h
      rwa [← h]
    · intro h
      refine ⟨_, h, ?_⟩
      rw [Text.sameIgnoringCase_iff_upper]
      exact asciiUpper_of_mem_all _ h
  constructor
  · rw [isReserved_iff_mem, hsame]
  · rw [hsame, set, WordSet.mem_ofArray]

end Keyword

end SqlSchema
