import Mathlib.Data.List.TakeWhile
import SqlSchema.Text.Basic

/-!
# Texts put together from parts

What skipping, trimming, matching a keyword and splitting do to a text of which the parts are
known: blanks in front, blanks or quotes around, a keyword in some case, pieces between
separators.
-/

namespace SqlSchema.Text

variable {p : Char → Bool} {a b r : List Char}

theorem dropWhile_append_of_head? (ha : ∀ c ∈ a, p c = true) (hb : ∀ c ∈ b.head?, p c = false) :
    (a ++ b).dropWhile p = b := by
  rw [List.dropWhile_append_of_pos ha]
  cases b with
  | nil => rfl
  | cons c b => rw [List.dropWhile_cons, hb c (by simp)]; rfl

theorem takeWhile_append_of_head? (ha : ∀ c ∈ a, p c = true) (hb : ∀ c ∈ b.head?, p c = false) :
    (a ++ b).takeWhile p = a := by
  rw [List.takeWhile_append_of_pos ha]
  cases b with
  | nil => simp
  | cons c b => rw [List.takeWhile_cons, hb c (by simp)]; simp

theorem trimWhile_between {m : List Char} (ha : ∀ c ∈ a, p c = true) (hb : ∀ c ∈ b, p c = true)
    (hfirst : ∀ c ∈ m.head?, p c = false) (hlast : ∀ c ∈ m.getLast?, p c = false) :
    trimWhile p (a ++ m ++ b) = m := by
  unfold trimWhile
  cases m with
  | nil =>
    have hall : ∀ c ∈ a ++ b, p c = true := by
      intro c hc
      exact (List.mem_append.mp hc).elim (ha c) (hb c)
    simp [List.dropWhile_eq_nil_iff.mpr hall]
  | cons c m =>
    have hfront : (a ++ (c :: m) ++ b).dropWhile p = c :: m ++ b := by
      rw [List.append_assoc]
      exact dropWhile_append_of_head? ha (by simpa using hfirst)
    have hback : (c :: m ++ b).reverse.dropWhile p = (c :: m).reverse := by
      rw [List.reverse_append]
      apply dropWhile_append_of_head?
      · intro d hd
        exact hb d (List.mem_reverse.mp hd)
      · intro d hd
        rw [List.head?_reverse] at hd
        exact hlast d hd
    rw [hfront, hback, List.reverse_reverse]

/-- What trimming takes away at either end satisfies the test. -/
theorem exists_trimWhile (p : Char → Bool) (s : List Char) :
    ∃ a b, (∀ c ∈ a, p c = true) ∧ (∀ c ∈ b, p c = true) ∧ s = a ++ trimWhile p s ++ b := by
  refine ⟨s.takeWhile p, ((s.dropWhile p).reverse.takeWhile p).reverse, ?_, ?_, ?_⟩
  · exact fun c hc => List.mem_takeWhile_imp hc
  · exact fun c hc => List.mem_takeWhile_imp (List.mem_reverse.mp hc)
  · rw [trimWhile, List.append_assoc, ← List.reverse_append, List.takeWhile_append_dropWhile,
      List.reverse_reverse, List.takeWhile_append_dropWhile]

/-! ## Blanks and keywords -/

def AllBlank (s : String) : Prop := ∀ c ∈ s.toList, isBlank c = true

instance (s : String) : Decidable (AllBlank s) :=
  decidable_of_iff (s.toList.all isBlank = true) List.all_eq_true

theorem skipBlanks_append {s : String} (hs : AllBlank s) (hr : ∀ c ∈ r.head?, isBlank c = false) :
    skipBlanks (s.toList ++ r) = r :=
  dropWhile_append_of_head? hs hr

theorem stripBlanks?_append {s : String} (hs : AllBlank s) (hne : s ≠ "")
    (hr : ∀ c ∈ r.head?, isBlank c = false) : stripBlanks? (s.toList ++ r) = some r := by
  unfold AllBlank at hs
  cases hl : s.toList with
  | nil => exact absurd (String.toList_eq_nil_iff.mp hl) hne
  | cons c l =>
    rw [hl] at hs
    have hc : isBlank c = true := hs c List.mem_cons_self
    have hskip : skipBlanks (l ++ r) = r :=
      dropWhile_append_of_head? (fun d hd => hs d (List.mem_cons_of_mem _ hd)) hr
    rw [List.cons_append, stripBlanks?, if_pos hc, hskip]

theorem toNat_of_isDigit {c : Char} (h : c.isDigit = true) : 48 ≤ c.toNat ∧ c.toNat ≤ 57 := by
  simp only [Char.isDigit, Bool.and_eq_true, decide_eq_true_eq, ge_iff_le,
    UInt32.le_iff_toNat_le] at h
  exact h

theorem isBlank_of_isDigit {c : Char} (h : c.isDigit = true) : isBlank c = false := by
  obtain ⟨hlow, hhigh⟩ := toNat_of_isDigit h
  simp [isBlank]
  omega

/-- A blank is no letter, so it is its own upper case. -/
theorem toUpper_of_isBlank {c : Char} (h : isBlank c = true) : c.toUpper = c := by
  have hc : ¬ ('a'.val ≤ c.val ∧ c.val ≤ 'z'.val) := by
    rw [UInt32.le_iff_toNat_le, UInt32.le_iff_toNat_le]
    have hn : c.val.toNat = c.toNat := rfl
    simp [isBlank] at h
    simp [hn]
    omega
  exact dif_neg hc

theorem stripWord?_append : ∀ {word w : List Char}, w.map Char.toUpper = word →
    stripWord? word (w ++ r) = some r
  | [], [], _ => rfl
  | d :: word, c :: w, h => by
    obtain ⟨hc, hw⟩ := List.cons.inj h
    have hform : isLetterForm d c = true := by simp [isLetterForm, hc]
    rw [List.cons_append, stripWord?, if_pos hform]
    exact stripWord?_append hw

theorem isBlank_head?_of_upper {w : String} {d : Char} {word : List Char}
    (h : w.toList.map Char.toUpper = d :: word) (hd : isBlank d = false) (r : List Char) :
    ∀ c ∈ (w.toList ++ r).head?, isBlank c = false := by
  intro c hc
  cases hw : w.toList with
  | nil => simp [hw] at h
  | cons e l =>
    rw [hw] at h hc
    obtain rfl : e = c := by simpa using hc
    -- a blank would be its own upper case, and the keyword begins with none
    by_contra hb
    have hupper := toUpper_of_isBlank (Bool.not_eq_false _ ▸ hb)
    obtain ⟨rfl, -⟩ := List.cons.inj h
    rw [hupper] at hd
    exact hb hd

/-! ## Splitting -/

theorem splitOn_of_not_mem {sep : Char} (h : sep ∉ a) : splitOn sep a = [a] := by
  induction a with
  | nil => rfl
  | cons c a ih =>
    rw [List.mem_cons, not_or] at h
    rw [splitOn, if_neg (Ne.symm h.1), ih h.2]

theorem splitOn_ne_nil (sep : Char) (s : List Char) : splitOn sep s ≠ [] := by
  cases s with
  | nil => simp [splitOn]
  | cons c s =>
    rw [splitOn]
    split
    · simp
    · split <;> simp

theorem splitOn_append_cons (sep : Char) (a r : List Char) :
    splitOn sep (a ++ sep :: r) = splitOn sep a ++ splitOn sep r := by
  induction a with
  | nil => simp [splitOn]
  | cons c a ih =>
    rw [List.cons_append, splitOn, splitOn, ih]
    by_cases hc : c = sep
    · simp [hc]
    · obtain ⟨piece, more, hp⟩ := List.exists_cons_of_ne_nil (splitOn_ne_nil sep a)
      simp [hc, hp]

theorem splitOn_append {sep : Char} (h : sep ∉ a) (r : List Char) :
    splitOn sep (a ++ sep :: r) = a :: splitOn sep r := by
  rw [splitOn_append_cons, splitOn_of_not_mem h, List.singleton_append]

/-- Splitting a text at its separators and the pieces between them at theirs is the same. -/
theorem splitOn_intercalate (sep : Char) : ∀ {pieces : List (List Char)}, pieces ≠ [] →
    splitOn sep ([sep].intercalate pieces) = pieces.flatMap (splitOn sep)
  | [], hne => absurd rfl hne
  | [a], _ => by simp
  | a :: b :: r, _ => by
    have ih := splitOn_intercalate sep (List.cons_ne_nil b r)
    rw [List.intercalate_cons_cons, List.append_assoc, List.singleton_append, splitOn_append_cons, ih]
    rfl

theorem length_splitOn (sep : Char) (s : List Char) :
    (splitOn sep s).length = s.count sep + 1 := by
  induction s with
  | nil => rfl
  | cons c s ih =>
    by_cases hc : c = sep
    · simp [splitOn, hc, ih]
    · obtain ⟨piece, more, hp⟩ := List.exists_cons_of_ne_nil (splitOn_ne_nil sep s)
      rw [List.count_cons_of_ne hc, ← ih, splitOn, if_neg hc, hp]
      rfl

end SqlSchema.Text
