import SqlSchema.Text.Basic

/-!
# Whole numbers, read back

The decimal digits of a number are digits and read back as the number.
-/

namespace SqlSchema.Text

theorem digitsValue_of_isDigit : ∀ (s : List Char) (acc : Nat), (∀ c ∈ s, c.isDigit = true) →
    digitsValue acc s = some (Nat.ofDigitChars 10 s acc)
  | [], acc, _ => by rw [digitsValue, Nat.ofDigitChars_nil]
  | c :: r, acc, h => by
    rw [digitsValue, if_pos (h c List.mem_cons_self), Nat.ofDigitChars_cons]
    exact digitsValue_of_isDigit r _ fun d hd => h d (List.mem_cons_of_mem _ hd)

theorem toList_toString_nat (n : Nat) : (toString n).toList = Nat.toDigits 10 n := by
  rw [Nat.toString_eq_repr, Nat.toList_repr]

theorem isDigit_of_mem_toString {n : Nat} {c : Char} (h : c ∈ (toString n).toList) :
    c.isDigit = true := by
  rw [toList_toString_nat] at h
  exact Nat.isDigit_of_mem_toDigits (by decide) (by decide) h

theorem toString_nat_ne_nil (n : Nat) : (toString n).toList ≠ [] := by
  rw [toList_toString_nat]
  exact Nat.toDigits_ne_nil

theorem natural?_toString (n : Nat) : natural? (toString n).toList = some n := by
  have hd : digitsValue 0 (toString n).toList = some n := by
    rw [digitsValue_of_isDigit _ _ fun c hc => isDigit_of_mem_toString hc, toList_toString_nat,
      Nat.ofDigitChars_ten_toDigits]
  cases hs : (toString n).toList with
  | nil => exact absurd hs (toString_nat_ne_nil n)
  | cons c r => rw [natural?, ← hs, hd]; simp

/-! ## With a sign -/

theorem toList_toString_of_nonneg {n : Int} (h : 0 ≤ n) :
    (toString n).toList = (toString n.toNat).toList := by
  rw [Int.toString_eq_repr, Int.repr_eq_if, if_pos h]
  rfl

theorem toList_toString_of_neg {n : Int} (h : n < 0) :
    (toString n).toList = '-' :: (toString (-n).toNat).toList := by
  rw [Int.toString_eq_repr, Int.repr_eq_if, if_neg (Int.not_le.mpr h), String.toList_append]
  rfl

theorem integer?_toString_nat (n : Nat) : integer? (toString n).toList = some (n : Int) := by
  unfold integer?
  split
  · rename_i r hr
    have := isDigit_of_mem_toString (n := n) (c := '-') (hr ▸ List.mem_cons_self)
    cases this
  · rename_i r hr
    have := isDigit_of_mem_toString (n := n) (c := '+') (hr ▸ List.mem_cons_self)
    cases this
  · rw [natural?_toString]
    rfl

theorem integer?_toString (n : Int) : integer? (toString n).toList = some n := by
  by_cases h : 0 ≤ n
  · rw [toList_toString_of_nonneg h, integer?_toString_nat, Int.toNat_of_nonneg h]
  · have hneg : n < 0 := Int.not_le.mp h
    have hvalue : -((-n).toNat : Int) = n := by omega
    rw [toList_toString_of_neg hneg, integer?, natural?_toString]
    exact congrArg some hvalue

theorem integerWithin?_toString {low high n : Int} (h : low ≤ n ∧ n ≤ high) :
    integerWithin? low high (toString n).toList = some n := by
  rw [integerWithin?, integer?_toString]
  simp [h]

end SqlSchema.Text
