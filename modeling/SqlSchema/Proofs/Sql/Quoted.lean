import SqlSchema.Dialect.Basic

/-!
# Quoted names, read back

Quoting can be undone whatever the quote character is and whatever the names hold: a reader that
knows only the quote character accepts exactly the texts that quoting writes. Names with commas
between them are told apart as long as the comma itself is not what quotes them.
-/

namespace SqlSchema

namespace Quoted

variable {q : Char} {s a r : List Char}

/-! ## One quoted text -/

theorem eq_of_readBody (h : readBody q s = some (a, r)) :
    s = double q a ++ q :: r ∧ r.head? ≠ some q := by
  fun_induction readBody q s generalizing a with
  | case1 => cases h
  | case2 =>
    cases h
    exact ⟨rfl, by simp⟩
  | case3 => cases h
  | case4 r' ih =>
    obtain ⟨⟨b, u⟩, hb, hp⟩ := Option.map_eq_some_iff.mp h
    obtain ⟨rfl, rfl⟩ := Prod.mk.inj hp
    obtain ⟨rfl, hr⟩ := ih hb
    exact ⟨by simp [double], hr⟩
  | case5 d r' hd =>
    cases h
    exact ⟨rfl, by simpa using hd⟩
  | case6 c d r' hc ih =>
    obtain ⟨⟨b, u⟩, hb, hp⟩ := Option.map_eq_some_iff.mp h
    obtain ⟨rfl, rfl⟩ := Prod.mk.inj hp
    obtain ⟨hs, hr⟩ := ih hb
    exact ⟨by rw [hs]; simp [double, hc], hr⟩

theorem read_eq_some_iff : read q s = some (a, r) ↔ s = enclose q a ++ r ∧ r.head? ≠ some q := by
  constructor
  · intro h
    cases s with
    | nil => cases h
    | cons c s =>
      rw [read] at h
      by_cases hc : c = q
      · rw [if_pos hc] at h
        obtain ⟨rfl, hr⟩ := eq_of_readBody h
        exact ⟨by simp [enclose, hc], hr⟩
      · rw [if_neg hc] at h
        cases h
  · rintro ⟨rfl, hr⟩
    exact read_enclose hr a

theorem length_lt_of_read (h : read q s = some (a, r)) : r.length < s.length := by
  obtain ⟨rfl, -⟩ := read_eq_some_iff.mp h
  simp only [enclose, List.cons_append, List.length_cons, List.length_append]
  omega

/-! ## Lists of them -/

/-- Reads one or more quoted texts with a comma and a blank between them, up to the end. -/
def readSome? (q : Char) (s : List Char) : Option (List String) :=
  match _h : read q s with
  | some (a, []) => some [String.ofList a]
  | some (a, ',' :: ' ' :: r) => (readSome? q r).map (String.ofList a :: ·)
  | _ => none
termination_by s.length
decreasing_by
  have := length_lt_of_read _h
  simp only [List.length_cons] at this
  omega

def readList? (q : Char) (s : List Char) : Option (List String) :=
  if s.isEmpty then some [] else readSome? q s

theorem readSome?_one (h : read q s = some (a, [])) :
    readSome? q s = some [String.ofList a] := by
  rw [readSome?.eq_def]
  split <;> simp_all

theorem readSome?_more (h : read q s = some (a, ',' :: ' ' :: r)) :
    readSome? q s = (readSome? q r).map (String.ofList a :: ·) := by
  rw [readSome?.eq_def]
  split <;> simp_all

end Quoted

namespace Dialect

variable (d : Dialect)

theorem toList_quoteName (name : String) :
    (d.quoteName name).toList = Quoted.enclose d.quoteChar name.toList :=
  Quoted.toList_quote _ _

theorem toList_nameList_singleton (a : String) :
    (d.nameList [a]).toList = Quoted.enclose d.quoteChar a.toList := by
  simp [nameList, toList_quoteName]

theorem toList_nameList_cons_cons (a b : String) (r : List String) :
    (d.nameList (a :: b :: r)).toList =
      Quoted.enclose d.quoteChar a.toList ++ ',' :: ' ' :: (d.nameList (b :: r)).toList := by
  simp [nameList, toList_quoteName, String.intercalate_cons_cons]

theorem readSome?_nameList (h : d.quoteChar ≠ ',') : ∀ {names : List String}, names ≠ [] →
    Quoted.readSome? d.quoteChar (d.nameList names).toList = some names
  | [], hne => absurd rfl hne
  | [a], _ => by
    have hread : Quoted.read d.quoteChar (d.nameList [a]).toList = some (a.toList, []) :=
      Quoted.read_eq_some_iff.mpr ⟨by simp [toList_nameList_singleton], by simp⟩
    rw [Quoted.readSome?_one hread, String.ofList_toList]
  | a :: b :: r, _ => by
    -- the comma behind the first name cannot be taken for a doubled quote
    have hcomma : (',' :: ' ' :: (d.nameList (b :: r)).toList).head? ≠ some d.quoteChar := by
      simpa using Ne.symm h
    have hread := Quoted.read_enclose hcomma a.toList
    rw [← toList_nameList_cons_cons] at hread
    rw [Quoted.readSome?_more hread, readSome?_nameList h (List.cons_ne_nil b r),
      String.ofList_toList]
    rfl

theorem eq_of_readSome? {s : List Char} {names : List String}
    (h : Quoted.readSome? d.quoteChar s = some names) :
    names ≠ [] ∧ s = (d.nameList names).toList := by
  fun_induction Quoted.readSome? d.quoteChar s generalizing names with
  | case1 s a hread =>
    cases h
    obtain ⟨rfl, -⟩ := Quoted.read_eq_some_iff.mp hread
    simp [toList_nameList_singleton]
  | case2 s a r hread ih =>
    obtain ⟨more, hmore, rfl⟩ := Option.map_eq_some_iff.mp h
    obtain ⟨hne, rfl⟩ := ih hmore
    obtain ⟨rfl, -⟩ := Quoted.read_eq_some_iff.mp hread
    obtain ⟨b, l, rfl⟩ := List.exists_cons_of_ne_nil hne
    simp [toList_nameList_cons_cons]
  | case3 => cases h

theorem nameList_ne_nil {names : List String} (h : names ≠ []) : (d.nameList names).toList ≠ [] := by
  obtain ⟨a, r, rfl⟩ := List.exists_cons_of_ne_nil h
  cases r with
  | nil => simp [toList_nameList_singleton, Quoted.enclose]
  | cons b r => simp [toList_nameList_cons_cons]

theorem readList?_eq_some_iff (h : d.quoteChar ≠ ',') (s : List Char) (names : List String) :
    Quoted.readList? d.quoteChar s = some names ↔ s = (d.nameList names).toList := by
  unfold Quoted.readList?
  by_cases hs : s = []
  · subst hs
    by_cases hn : names = []
    · simp [hn, nameList]
    · have hne := d.nameList_ne_nil hn
      simp [Ne.symm hn, Ne.symm hne]
  · rw [if_neg (by simpa using hs)]
    constructor
    · intro hread
      exact (d.eq_of_readSome? hread).2
    · rintro rfl
      apply d.readSome?_nameList h
      rintro rfl
      exact hs rfl

/-- For every quote character, one quoted name is read exactly from the quoted name with any text
behind it that does not go on with a quote, and a list of names exactly from the quoted names
with commas between them, unless the comma is the quote. -/
theorem quoting_undone (d : Dialect) :
    (∀ (s : List Char) (name : String) (rest : List Char),
      Quoted.read d.quoteChar s = some (name.toList, rest) ↔
        s = (d.quoteName name).toList ++ rest ∧ rest.head? ≠ some d.quoteChar) ∧
    (d.quoteChar ≠ ',' → ∀ (s : String) (names : List String),
      Quoted.readList? d.quoteChar s.toList = some names ↔ s = d.nameList names) := by
  refine ⟨fun s name rest => ?_, fun h s names => ?_⟩
  · rw [toList_quoteName]
    exact Quoted.read_eq_some_iff
  · rw [readList?_eq_some_iff d h, String.toList_inj]

/-- Names that a blank quotes, made of blanks and of what stands between names. -/
theorem quoting_undone_blank :
    let d : Dialect := { name := "custom", quoteChar := ' ' }
    d.nameList ["", " ,", "a b", ", "] = "  ,    , ,  a  b ,  ,   " ∧
      Quoted.readList? ' ' "  ,    , ,  a  b ,  ,   ".toList = some ["", " ,", "a b", ", "] := by
  intro d
  have htext : d.nameList ["", " ,", "a b", ", "] = "  ,    , ,  a  b ,  ,   " := by decide
  exact ⟨htext, ((quoting_undone d).2 (by decide) _ _).mpr htext.symm⟩

end Dialect

end SqlSchema
