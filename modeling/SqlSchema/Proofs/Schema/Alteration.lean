import SqlSchema.Dialect.Statement

/-!
# Alterations, refused or written

An alteration is written only if all its changes leave the columns where they are; else the
first structural change is refused. For a column it writes the declaration that would create
the column, without the fragment on nulls where that stays as it was.
-/

namespace SqlSchema

namespace Alteration

structure InPlace (a : Alteration) : Prop where
  added : a.added = []
  removed : a.removed = []
  renamed : a.renamed = []
  newName : a.newName = none
  names : ∀ c ∈ a.changed, c.old.name = c.new.name

/-- The structural change that comes first. A change of one kind counts only where there is
none of the kinds before it. -/
inductive First (a : Alteration) : Structural → Prop
  | added {c : Column} {r : List Column} (h : a.added = c :: r) : First a (.addColumn c.name)
  | removed {column : String} {r : List String} (h₁ : a.added = []) (h : a.removed = column :: r) :
    First a (.dropColumn column)
  | renamed {old new : String} {r : List (String × String)} (h₁ : a.added = [])
    (h₂ : a.removed = []) (h : a.renamed = (old, new) :: r) : First a (.renameColumn old new)
  | newName {name : String} (h₁ : a.added = []) (h₂ : a.removed = []) (h₃ : a.renamed = [])
    (h : a.newName = some name) : First a (.renameTable name)
  | changed {before after : List ColumnChange} {c : ColumnChange} (h₁ : a.added = [])
    (h₂ : a.removed = []) (h₃ : a.renamed = []) (h₄ : a.newName = none)
    (h : a.changed = before ++ c :: after) (hb : ∀ b ∈ before, b.old.name = b.new.name)
    (hc : c.old.name ≠ c.new.name) : First a (.renameColumn c.old.name c.new.name)

theorem structural?_eq_none_iff (a : Alteration) : a.structural? = none ↔ a.InPlace := by
  have hnames : (∀ c ∈ a.changed, ¬ (c.old.name != c.new.name) = true) ↔
      ∀ c ∈ a.changed, c.old.name = c.new.name := by
    simp
  constructor
  · intro h
    simp only [structural?, Option.orElse_eq_orElse, Option.orElse_eq_or, Option.or_eq_none_iff,
      Option.map_eq_none_iff, List.head?_eq_none_iff, List.find?_eq_none] at h
    obtain ⟨hadded, hremoved, hrenamed, hnew, hchanged⟩ := h
    exact ⟨hadded, hremoved, hrenamed, hnew, hnames.mp hchanged⟩
  · rintro ⟨hadded, hremoved, hrenamed, hnew, hchanged⟩
    have hfind := List.find?_eq_none.mpr (hnames.mpr hchanged)
    simp [structural?, hadded, hremoved, hrenamed, hnew, hfind]

theorem First.structural? {a : Alteration} {u : Structural} (h : a.First u) :
    a.structural? = some u := by
  cases h with
  | added h => simp [Alteration.structural?, h]
  | removed h₁ h => simp [Alteration.structural?, h₁, h]
  | renamed h₁ h₂ h => simp [Alteration.structural?, h₁, h₂, h]
  | newName h₁ h₂ h₃ h => simp [Alteration.structural?, h₁, h₂, h₃, h]
  | @changed before after c h₁ h₂ h₃ h₄ h hb hc =>
    have hfind : a.changed.find? (fun c => c.old.name != c.new.name) = some c := by
      refine List.find?_eq_some_iff_append.mpr ⟨by simpa using hc, before, after, h, ?_⟩
      intro b hm
      simpa using hb b hm
    simp [Alteration.structural?, h₁, h₂, h₃, h₄, hfind]

theorem first_of_structural? {a : Alteration} {u : Structural} (h : a.structural? = some u) :
    a.First u := by
  unfold Alteration.structural? at h
  cases hadded : a.added with
  | cons c r =>
    simp only [hadded] at h
    cases h
    exact .added hadded
  | nil =>
    cases hremoved : a.removed with
    | cons column r =>
      simp only [hadded, hremoved] at h
      cases h
      exact .removed hadded hremoved
    | nil =>
      cases hrenamed : a.renamed with
      | cons names r =>
        simp only [hadded, hremoved, hrenamed] at h
        cases h
        exact .renamed hadded hremoved hrenamed
      | nil =>
        cases hnew : a.newName with
        | some name =>
          simp only [hadded, hremoved, hrenamed, hnew] at h
          cases h
          exact .newName hadded hremoved hrenamed hnew
        | none =>
          simp only [hadded, hremoved, hrenamed, hnew] at h
          obtain ⟨c, hfind, rfl⟩ := Option.map_eq_some_iff.mp h
          obtain ⟨hc, before, after, hsplit, hb⟩ := List.find?_eq_some_iff_append.mp hfind
          refine .changed hadded hremoved hrenamed hnew hsplit ?_ (by simpa using hc)
          intro b hm
          simpa using hb b hm

theorem statements_ok_iff (a : Alteration) : (∃ l, a.statements = .ok l) ↔ a.InPlace := by
  rw [← structural?_eq_none_iff, statements]
  cases a.structural? <;> simp

theorem statements_error_iff (a : Alteration) (e : DialectError) :
    a.statements = .error e ↔ ∃ u, a.First u ∧ e = .unsupported a.name u.describe := by
  constructor
  · intro h
    unfold statements at h
    split at h
    · rename_i u hu
      cases h
      exact ⟨u, first_of_structural? hu, rfl⟩
    · cases h
  · rintro ⟨u, hu, rfl⟩
    rw [statements, hu.structural?]

end Alteration

/-! ## Declarations around the fragment on nulls -/

namespace Column

def beforeNulls (c : Column) : String :=
  Quoted.quote '"' c.name ++ " " ++ c.type.sql ++
    c.charset.elim "" (fun charset => " CHARACTER SET " ++ charset) ++
    c.default.elim "" fun v => " DEFAULT " ++ v.sql

def nullsFragment (c : Column) : String := if c.nullable then " NULL" else " NOT NULL"

def afterNulls (c : Column) : String :=
  (if c.unique then " UNIQUE" else "") ++
    c.check.elim "" (fun condition => " CHECK (" ++ condition ++ ")") ++
    c.collation.elim "" fun collation => " COLLATE " ++ Quoted.quote '"' collation

end Column

/-- What is written for a changed column: the declaration that creates it, with the fragment on
nulls only if the change turns them on or off. -/
def ColumnChange.declaration (c : ColumnChange) : String :=
  match c.new.definition with
  | some definition => Quoted.quote '"' c.new.name ++ " " ++ definition
  | none =>
    if c.old.nullable = c.new.nullable then c.new.beforeNulls ++ c.new.afterNulls
    else c.new.beforeNulls ++ c.new.nullsFragment ++ c.new.afterNulls

def Alteration.texts (a : Alteration) : List String :=
  a.changed.map (fun c =>
    "ALTER TABLE " ++ Quoted.quote '"' a.name ++ " MODIFY " ++ c.declaration) ++
  a.changed.filterMap fun c => (c.new.comment.filter (· ≠ "")).map fun comment =>
    "COMMENT ON COLUMN " ++ Quoted.quote '"' a.name ++ "." ++ Quoted.quote '"' c.new.name ++
      " IS " ++ Quoted.literal comment

namespace Dialect

theorem quoteName_standard (name : String) :
    standard.quoteName name = Quoted.quote '"' name := rfl

theorem intercalate_blank (s : String) (l : List String) :
    " ".intercalate (s :: l) = s ++ String.join (l.map (" " ++ ·)) := by
  induction l generalizing s with
  | nil => simp
  | cons u l ih =>
    rw [String.intercalate_cons_cons, ih u]
    simp [String.append_assoc]

theorem join_toList {α : Type} (o : Option α) (f : α → String) :
    String.join ((o.map f).toList.map (" " ++ ·)) = o.elim "" fun a => " " ++ f a := by
  cases o <;> simp

theorem blank_append {word s t : String} (h : " " ++ word = t) : " " ++ (word ++ s) = t ++ s := by
  rw [← h, String.append_assoc]

def beforeNulls (d : Dialect) (c : Column) : String :=
  d.quoteName c.name ++ " " ++ c.type.sql ++
    c.charset.elim "" (fun charset => " CHARACTER SET " ++ charset) ++
    c.default.elim "" fun v => " DEFAULT " ++ v.sql

def afterNulls (d : Dialect) (c : Column) : String :=
  (if c.unique then " UNIQUE" else "") ++
    c.check.elim "" (fun condition => " CHECK (" ++ condition ++ ")") ++
    c.collation.elim "" (fun collation => " COLLATE " ++ d.quoteName collation) ++
    if d.inlineComments then
      (comment? c).elim "" fun comment => " COMMENT " ++ Quoted.literal comment
    else ""

theorem declaration_of_no_definition (d : Dialect) {c : Column} (h : c.definition = none)
    (nulls : NullClause) :
    d.declaration c nulls =
      d.beforeNulls c ++ (if nulls = .stated then c.nullsFragment else "") ++ d.afterNulls c := by
  have hn : String.join ((if nulls = .stated then [nullClause c.nullable] else []).map (" " ++ ·)) =
      if nulls = .stated then c.nullsFragment else "" := by
    unfold nullClause Column.nullsFragment
    cases nulls <;> cases c.nullable <;> rfl
  have hu : String.join ((if c.unique then ["UNIQUE"] else []).map (" " ++ ·)) =
      if c.unique then " UNIQUE" else "" := by
    cases c.unique <;> rfl
  have hcomment (s : String) : " " ++ ("COMMENT " ++ s) = " COMMENT " ++ s := blank_append rfl
  have hi : String.join ((if d.inlineComments then ((comment? c).map commentClause).toList
      else []).map (" " ++ ·)) = if d.inlineComments then
        (comment? c).elim "" fun comment => " COMMENT " ++ Quoted.literal comment else "" := by
    cases d.inlineComments with
    | false => rfl
    | true => simp only [if_true, join_toList, commentClause, hcomment]
  have hcharset (s : String) : " " ++ ("CHARACTER SET " ++ s) = " CHARACTER SET " ++ s :=
    blank_append rfl
  have hdefault (s : String) : " " ++ ("DEFAULT " ++ s) = " DEFAULT " ++ s := blank_append rfl
  have hcheck (s : String) : " " ++ ("CHECK (" ++ s) = " CHECK (" ++ s := blank_append rfl
  have hcollate (s : String) : " " ++ ("COLLATE " ++ s) = " COLLATE " ++ s := blank_append rfl
  rw [declaration, intercalate_blank, clauses, h]
  simp only [List.map_append, String.join_append, join_toList, hn, hu, hi]
  simp [beforeNulls, afterNulls, charsetClause, collationClause, String.append_assoc, hcharset,
    hdefault, hcheck, hcollate]

theorem declaration_around {c : Column} (h : c.definition = none) (nulls : NullClause) :
    standard.declaration c nulls =
      c.beforeNulls ++ (if nulls = .stated then c.nullsFragment else "") ++ c.afterNulls := by
  have hafter : standard.afterNulls c = c.afterNulls := String.append_empty
  rw [standard.declaration_of_no_definition h, hafter]
  rfl

end Dialect

theorem ColumnChange.declaration_eq (c : ColumnChange) :
    Dialect.standard.declaration c.new (if c.changesNullability then .stated else .omitted) =
      c.declaration := by
  unfold declaration
  cases hdef : c.new.definition with
  | some definition =>
    rw [Dialect.declaration, Dialect.intercalate_blank, Dialect.clauses, hdef]
    simp [Dialect.quoteName_standard, String.append_assoc]
  | none =>
    rw [Dialect.declaration_around hdef]
    by_cases hn : c.old.nullable = c.new.nullable
    · simp [changesNullability, hn]
    · simp [changesNullability, hn]

theorem Alteration.sql_modification (table : String) (c : ColumnChange) :
    (modification table c).sql .standard =
      "ALTER TABLE " ++ Quoted.quote '"' table ++ " MODIFY " ++ c.declaration := by
  have hs : (modification table c).sql .standard =
      "ALTER TABLE " ++ Quoted.quote '"' table ++ " MODIFY " ++
        Dialect.standard.declaration c.new (if c.changesNullability then .stated else .omitted) :=
    rfl
  rw [hs, c.declaration_eq]

theorem Alteration.map_sql_statements {a : Alteration} {l : List Statement}
    (h : a.statements = .ok l) : l.map (Statement.sql .standard) = a.texts := by
  unfold statements at h
  split at h
  · cases h
  · cases h
    rw [texts, List.map_append, List.map_map, List.map_filterMap]
    congr 1
    · exact List.map_congr_left fun c _ => sql_modification a.name c
    · refine congrArg (List.filterMap · a.changed) (funext fun c => ?_)
      rw [Option.map_map]
      rfl

end SqlSchema
