import Mathlib.Data.Nat.Digits.Defs
import SqlSchema.Proofs.Text.Integer
import SqlSchema.Proofs.Text.Parts
import SqlSchema.Sql.Datum

/-!
# Numerals

Which texts write a whole number, said apart from the reader: a sign or none in front of ASCII
digits, with blanks around, each digit counting by its place. The reader accepts exactly these
texts and gives exactly the number. Where a number of 64 bits is wanted, a text gives the number
that it writes, or nothing if that one is out of range: it is never wrapped or brought into range.
-/

namespace SqlSchema

namespace Text

variable {s : List Char} {n : Nat} {i : Int}

/-! ## Digits -/

def AreDigits (s : List Char) : Prop := s ≠ [] ∧ ∀ c ∈ s, c.isDigit = true

instance (s : List Char) : Decidable (AreDigits s) :=
  decidable_of_iff (s ≠ [] ∧ s.all Char.isDigit = true) (by simp [AreDigits])

/-- The number that digits write, the last one counting ones. -/
def decimal (s : List Char) : Nat :=
  Nat.ofDigits 10 (s.map fun c => c.toNat - '0'.toNat).reverse

theorem decimal_cons (c : Char) (s : List Char) :
    decimal (c :: s) = decimal s + 10 ^ s.length * (c.toNat - '0'.toNat) := by
  rw [decimal, List.map_cons, Nat.ofDigits_reverse_cons, List.length_map, decimal]

/-- Digits taken from the left, each time ten times what was read, count by their places. -/
theorem ofDigitChars_eq_decimal (s : List Char) : Nat.ofDigitChars 10 s 0 = decimal s := by
  induction s with
  | nil => rfl
  | cons c s ih =>
    rw [Nat.ofDigitChars_cons, Nat.ofDigitChars_eq_ofDigitChars_zero, ih, decimal_cons,
      Nat.mul_zero, Nat.zero_add, Nat.add_comm]

theorem isDigit_of_digitsValue {acc : Nat} (h : digitsValue acc s = some n) :
    ∀ c ∈ s, c.isDigit = true := by
  induction s generalizing acc with
  | nil => simp
  | cons c s ih =>
    rw [digitsValue] at h
    split at h
    · rename_i hc
      exact List.forall_mem_cons.mpr ⟨hc, ih h⟩
    · cases h

theorem natural?_eq_some_iff : natural? s = some n ↔ AreDigits s ∧ decimal s = n := by
  cases s with
  | nil => simp [natural?, AreDigits]
  | cons c s =>
    rw [natural?]
    · constructor
      · intro h
        have hdigits := isDigit_of_digitsValue h
        rw [digitsValue_of_isDigit _ _ hdigits, ofDigitChars_eq_decimal] at h
        exact ⟨⟨List.cons_ne_nil c s, hdigits⟩, Option.some.inj h⟩
      · rintro ⟨⟨-, hdigits⟩, rfl⟩
        rw [digitsValue_of_isDigit _ _ hdigits, ofDigitChars_eq_decimal]
    · exact List.cons_ne_nil c s

/-! ## Signs -/

/-- The numerals, each with the number that it writes. -/
inductive Numeral : List Char → Int → Prop
  | plain {s : List Char} (h : AreDigits s) : Numeral s (decimal s)
  | plus {s : List Char} (h : AreDigits s) : Numeral ('+' :: s) (decimal s)
  | minus {s : List Char} (h : AreDigits s) : Numeral ('-' :: s) (-(decimal s : Int))

theorem numeral_of_integer? (h : integer? s = some i) : Numeral s i := by
  unfold integer? at h
  split at h
  · rename_i r
    obtain ⟨n, hn, rfl⟩ : ∃ n : Nat, natural? r = some n ∧ -(n : Int) = i := by
      cases hn : natural? r with
      | none => rw [hn] at h; cases h
      | some n => rw [hn] at h; exact ⟨n, rfl, Option.some.inj h⟩
    obtain ⟨hr, rfl⟩ := natural?_eq_some_iff.mp hn
    exact .minus hr
  · obtain ⟨n, hn, rfl⟩ := Option.map_eq_some_iff.mp h
    obtain ⟨hr, rfl⟩ := natural?_eq_some_iff.mp hn
    exact .plus hr
  · obtain ⟨n, hn, rfl⟩ := Option.map_eq_some_iff.mp h
    obtain ⟨hr, rfl⟩ := natural?_eq_some_iff.mp hn
    exact .plain hr

theorem integer?_of_digits (h : AreDigits s) : integer? s = some (decimal s : Int) := by
  have hn : natural? s = some (decimal s) := natural?_eq_some_iff.mpr ⟨h, rfl⟩
  unfold integer?
  -- a sign is no digit
  split
  · cases h.2 '-' List.mem_cons_self
  · cases h.2 '+' List.mem_cons_self
  · rw [hn]
    rfl

theorem Numeral.integer? (h : Numeral s i) : integer? s = some i := by
  cases h with
  | plain h => exact integer?_of_digits h
  | plus h => rw [Text.integer?, natural?_eq_some_iff.mpr ⟨h, rfl⟩]; rfl
  | minus h => rw [Text.integer?, natural?_eq_some_iff.mpr ⟨h, rfl⟩]; rfl

theorem integerWithin?_eq_some_iff {low high : Int} :
    integerWithin? low high s = some i ↔ Numeral s i ∧ low ≤ i ∧ i ≤ high := by
  have hread : Text.integer? s = some i ↔ Numeral s i := ⟨numeral_of_integer?, Numeral.integer?⟩
  rw [integerWithin?, Option.filter_eq_some_iff, hread]
  simp

theorem numeral_toString (i : Int) : Numeral (toString i).toList i :=
  numeral_of_integer? (integer?_toString i)

/-! ## Blanks around -/

/-- Whether a text is a numeral of a number with nothing but blanks around. -/
def WritesInteger (s : String) (i : Int) : Prop :=
  ∃ before middle after : String, AllBlank before ∧ AllBlank after ∧
    s = before ++ middle ++ after ∧ Numeral middle.toList i

theorem Numeral.not_blank (h : Numeral s i) : ∀ c ∈ s, isBlank c = false := by
  have hdigits : ∀ {s : List Char}, AreDigits s → ∀ c ∈ s, isBlank c = false :=
    fun hs c hc => isBlank_of_isDigit (hs.2 c hc)
  cases h with
  | plain h => exact hdigits h
  | plus h => exact List.forall_mem_cons.mpr ⟨rfl, hdigits h⟩
  | minus h => exact List.forall_mem_cons.mpr ⟨rfl, hdigits h⟩

/-- A numeral holds no blank, so what stands between the blanks is what trimming leaves. -/
theorem writesInteger_iff_trim (s : String) :
    WritesInteger s i ↔ Numeral (trimWhile isBlank s.toList) i := by
  constructor
  · rintro ⟨before, middle, after, hbefore, hafter, rfl, h⟩
    have htrim : trimWhile isBlank (before.toList ++ middle.toList ++ after.toList) =
        middle.toList := by
      apply trimWhile_between hbefore hafter
      · exact fun c hc => h.not_blank c (List.mem_of_head? hc)
      · exact fun c hc => h.not_blank c (List.mem_of_getLast? hc)
    rwa [String.toList_append, String.toList_append, htrim]
  · intro h
    obtain ⟨a, b, ha, hb, hs⟩ := exists_trimWhile isBlank s.toList
    refine ⟨.ofList a, .ofList (trimWhile isBlank s.toList), .ofList b, ?_, ?_, ?_, ?_⟩
    · simpa [AllBlank] using ha
    · simpa [AllBlank] using hb
    · apply String.toList_inj.mp
      simpa using hs
    · rwa [String.toList_ofList]

theorem WritesInteger.unique {s : String} {j : Int} (hi : WritesInteger s i)
    (hj : WritesInteger s j) : i = j := by
  have hread := ((writesInteger_iff_trim s).mp hi).integer?
  rw [((writesInteger_iff_trim s).mp hj).integer?] at hread
  exact (Option.some.inj hread).symm

theorem writesInteger_toString {before after : String} (hb : AllBlank before)
    (ha : AllBlank after) (i : Int) : WritesInteger (before ++ toString i ++ after) i :=
  ⟨before, toString i, after, hb, ha, rfl, numeral_toString i⟩

end Text

/-! ## Numbers of 64 bits -/

namespace Datum

/-- Whether 64 bits with a sign hold a number. -/
def InRange (i : Int) : Prop := -2 ^ 63 ≤ i ∧ i ≤ 2 ^ 63 - 1

theorem inRange_toInt (n : Int64) : InRange n.toInt :=
  ⟨n.le_toInt, Int.le_sub_one_of_lt n.toInt_lt⟩

theorem asInt?_text_eq_some_iff {s : String} {i : Int} :
    (text s).asInt?.map Int64.toInt = some i ↔ Text.WritesInteger s i ∧ InRange i := by
  have hread {j : Int} : Text.integerWithin? int64Bounds.1 int64Bounds.2
      (Text.trimWhile Text.isBlank s.toList) = some j ↔ Text.WritesInteger s j ∧ InRange j := by
    rw [Text.integerWithin?_eq_some_iff, Text.writesInteger_iff_trim]
    rfl
  have hkept {j : Int} (h : InRange j) : (Int64.ofInt j).toInt = j :=
    Int64.toInt_ofInt_of_le h.1 (Int.lt_of_le_sub_one h.2)
  rw [asInt?, Option.map_map, Option.map_eq_some_iff]
  constructor
  · rintro ⟨j, hj, rfl⟩
    obtain ⟨hw, hr⟩ := hread.mp hj
    rw [Function.comp_apply, hkept hr]
    exact ⟨hw, hr⟩
  · rintro ⟨hw, hr⟩
    exact ⟨i, hread.mpr ⟨hw, hr⟩, hkept hr⟩

theorem asInt?_text_eq_none_iff {s : String} :
    (text s).asInt? = none ↔ ∀ i, Text.WritesInteger s i → ¬ InRange i := by
  rw [← Option.map_eq_none_iff (f := Int64.toInt), Option.eq_none_iff_forall_ne_some]
  exact forall_congr' fun i => by rw [ne_eq, asInt?_text_eq_some_iff, not_and]

/-- A text is read as a whole number exactly if it writes one, blanks around it left aside, and
that number is in range; it then gives this number, and every other text gives none. So the
literal of any number of 64 bits reads back with any blanks around it, the least one included,
and what is written for a number beyond either end gives none. -/
theorem text_read_exactly :
    (∀ (s : String) (i : Int), (text s).asInt?.map Int64.toInt = some i ↔
      Text.WritesInteger s i ∧ InRange i) ∧
    (∀ s : String, (text s).asInt? = none ↔ ∀ i, Text.WritesInteger s i → ¬ InRange i) ∧
    (∀ (n : Int64) (before after : String), Text.AllBlank before → Text.AllBlank after →
      (text (before ++ (int n).literal ++ after)).asInt? = some n) ∧
    ∀ (i : Int) (before after : String), Text.AllBlank before → Text.AllBlank after →
      ¬ InRange i → (text (before ++ toString i ++ after)).asInt? = none := by
  refine ⟨fun s i => asInt?_text_eq_some_iff, fun s => asInt?_text_eq_none_iff, ?_, ?_⟩
  · intro n before after hb ha
    have hread := asInt?_text_eq_some_iff.mpr
      ⟨Text.writesInteger_toString hb ha n.toInt, inRange_toInt n⟩
    obtain ⟨m, hm, heq⟩ := Option.map_eq_some_iff.mp hread
    rwa [Int64.toInt_inj.mp heq] at hm
  · intro i before after hb ha hout
    refine asInt?_text_eq_none_iff.mpr fun j hj => ?_
    rwa [hj.unique (Text.writesInteger_toString hb ha i)]

theorem text_read_exactly_ends :
    (text "\u3000\t-9223372036854775808\u0085").asInt? = some Int64.minValue ∧
    (text "\u3000\t9223372036854775807\u0085").asInt? = some Int64.maxValue ∧
    (text "\u3000\t-9223372036854775809\u0085").asInt? = none ∧
    (text "\u3000\t9223372036854775808\u0085").asInt? = none ∧
    (text " +007\n").asInt?.map Int64.toInt = some 7 := by
  obtain ⟨hread, -, hback, hbeyond⟩ := text_read_exactly
  have hleast : "\u3000\t-9223372036854775808\u0085" =
      "\u3000\t" ++ (int Int64.minValue).literal ++ "\u0085" := by decide +kernel
  have hgreatest : "\u3000\t9223372036854775807\u0085" =
      "\u3000\t" ++ (int Int64.maxValue).literal ++ "\u0085" := by decide +kernel
  have hbelow : "\u3000\t-9223372036854775809\u0085" =
      "\u3000\t" ++ toString (-2 ^ 63 - 1 : Int) ++ "\u0085" := by decide +kernel
  have habove : "\u3000\t9223372036854775808\u0085" =
      "\u3000\t" ++ toString (2 ^ 63 : Int) ++ "\u0085" := by decide +kernel
  have hfirst : Text.AllBlank "\u3000\t" := by decide
  have hlast : Text.AllBlank "\u0085" := by decide
  refine ⟨?_, ?_, ?_, ?_, ?_⟩
  · rw [hleast]
    exact hback Int64.minValue _ _ hfirst hlast
  · rw [hgreatest]
    exact hback Int64.maxValue _ _ hfirst hlast
  · rw [hbelow]
    exact hbeyond _ _ _ hfirst hlast (by simp [InRange])
  · rw [habove]
    exact hbeyond _ _ _ hfirst hlast (by simp [InRange])
  · have hdigits : Text.AreDigits ['0', '0', '7'] := by decide
    have hseven : Text.WritesInteger " +007\n" 7 :=
      ⟨" ", "+007", "\n", by decide, by decide, by decide, .plus hdigits⟩
    rw [hread]
    exact ⟨hseven, by simp [InRange]⟩

end Datum

end SqlSchema
