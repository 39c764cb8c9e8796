import SqlSchema.Proofs.Schema.Written

/-!
# Column declarations, read back

A declaration that quotes no SQL text of its own is read back clause by clause: each
clause takes its tokens off the front, whatever clauses come before and after it.
-/

namespace SqlSchema

/-! ## What a declaration says -/

/-- A default value as a literal, a truth value as a number. Floats and expressions are
none. -/
def Default.written? : Default → Option WrittenDefault
  | null => some .null
  | bool b => some (.integer (if b then 1 else 0))
  | integer n => some (.integer n.toInt)
  | float _ => none
  | string s => some (.text s)
  | expression _ => none

/-- A column whose declaration contains no SQL text taken as it is, nor a float. -/
structure Column.Plain (c : Column) : Prop where
  definition : c.definition = none
  check : c.check = none
  charset : c.charset = none
  default : ∀ v ∈ c.default, v.written?.isSome = true

def Column.written (c : Column) (nulls : NullClause) : WrittenColumn where
  name := c.name
  type := c.type.sql
  default := c.default.bind Default.written?
  nullable := if nulls = .stated then some c.nullable else none
  unique := c.unique
  collation := c.collation

/-! ## Tokens -/

def ColumnType.sizedTokens (word : String) (length : UInt32) : List Token :=
  [.word word, .symbol '(', .word (toString length.toNat), .symbol ')']

def ColumnType.tokens : ColumnType → List Token
  | varchar length => sizedTokens "VARCHAR2" (length.getD 4000)
  | char length => sizedTokens "CHAR" (length.getD 2000)
  | timestampTz => [.word "TIMESTAMP", .word "WITH", .word "TIME", .word "ZONE"]
  | t => [.word t.sql]

def Default.tokens : Default → List Token
  | null => [.word "NULL"]
  | bool b => [.word (if b then "1" else "0")]
  | integer n => Token.ofInt n.toInt
  | string s => [.literal s]
  | _ => []

def Column.nullTokens (c : Column) : List Token :=
  if c.nullable then [.word "NULL"] else [.word "NOT", .word "NULL"]

def Column.clauseTokens (c : Column) (nulls : NullClause) : List (List Token) :=
  (c.default.map fun v => .word "DEFAULT" :: v.tokens).toList ++
  (if nulls = .stated then [c.nullTokens] else []) ++
  (if c.unique then [[.word "UNIQUE"]] else []) ++
  (c.collation.map fun s => [.word "COLLATE", .name s]).toList

def Column.tokens (c : Column) (nulls : NullClause) : List Token :=
  .name c.name :: (c.type.tokens ++ (c.clauseTokens nulls).flatten)

namespace Token

theorem reads_sized {w : String} (hw : isWord w = true) (length : UInt32) :
    Reads (w ++ "(" ++ toString length.toNat ++ ")") (ColumnType.sizedTokens w length) := by
  have ho : Closed (w ++ "(") [.word w, .symbol '('] :=
    (reads_word hw).append_closed (by decide) (by simp [Apart]; decide) (closed_symbol rfl)
  have hn : Reads (w ++ "(" ++ toString length.toNat) ([.word w, .symbol '('] ++ [.word _]) :=
    ho.append_reads (reads_nat _)
  exact (hn.append_closed (by decide) (by simp [Apart]; decide) (closed_symbol rfl)).reads

theorem reads_type (t : ColumnType) : Reads t.sql t.tokens := by
  cases t with
  | varchar length => exact reads_sized (w := "VARCHAR2") (by decide) _
  | char length => exact reads_sized (w := "CHAR") (by decide) _
  | timestampTz =>
    have hs : phrase ["TIMESTAMP", "WITH", "TIME"] ++ "ZONE" = "TIMESTAMP WITH TIME ZONE" := rfl
    exact reads_phrase (by decide) (by decide) hs
  | _ =>
    apply reads_word
    decide

theorem reads_default {v : Default} (h : v.written?.isSome = true) : Reads v.sql v.tokens := by
  cases v with
  | null => exact reads_word (by decide)
  | bool b =>
    cases b with
    | true => exact reads_word (w := "1") (by decide)
    | false => exact reads_word (w := "0") (by decide)
  | integer n => exact reads_int _
  | string s => exact reads_literal s
  | float x => cases h
  | expression sql => cases h

theorem reads_nullClause (c : Column) : Reads (Dialect.nullClause c.nullable) c.nullTokens := by
  unfold Dialect.nullClause Column.nullTokens
  cases c.nullable with
  | true => exact reads_word (by decide)
  | false =>
    have hs : phrase ["NOT"] ++ "NULL" = "NOT NULL" := rfl
    exact reads_phrase (by decide) (by decide) hs

theorem forall₂_option {α : Type} {R : String → List Token → Prop} {f : α → String}
    {g : α → List Token} {o : Option α} (h : ∀ a ∈ o, R (f a) (g a)) :
    List.Forall₂ R (o.map f).toList (o.map g).toList := by
  cases o with
  | none => exact .nil
  | some a => exact .cons (h a rfl) .nil

theorem forall₂_ite {R : String → List Token → Prop} {p : Prop} [Decidable p] {s : String}
    {ts : List Token} (h : R s ts) :
    List.Forall₂ R (if p then [s] else []) (if p then [ts] else []) := by
  split
  · exact .cons h .nil
  · exact .nil

theorem forall₂_reads_clauses {c : Column} (h : c.Plain) (nulls : NullClause) :
    List.Forall₂ Reads (Dialect.standard.clauses c nulls)
      (c.type.tokens :: c.clauseTokens nulls) := by
  have hd : ∀ v ∈ c.default, Reads ("DEFAULT " ++ v.sql) (.word "DEFAULT" :: v.tokens) :=
    fun v hv => (closed_phrase ["DEFAULT"] (by decide)).append_reads
      (reads_default (h.default v hv))
  have hc : ∀ s ∈ c.collation,
      Reads (Dialect.standard.collationClause s) [.word "COLLATE", .name s] :=
    fun s _ => (closed_phrase ["COLLATE"] (by decide)).append_reads (reads_name s)
  have htail := List.rel_append (List.rel_append (List.rel_append (forall₂_option hd)
    (forall₂_ite (p := nulls = .stated) (reads_nullClause c)))
    (forall₂_ite (p := c.unique = true) (reads_word (w := "UNIQUE") (by decide))))
    (forall₂_option hc)
  have hs : Dialect.standard.clauses c nulls = c.type.sql ::
      ((c.default.map fun v => "DEFAULT " ++ v.sql).toList ++
        (if nulls = .stated then [Dialect.nullClause c.nullable] else []) ++
        (if c.unique then ["UNIQUE"] else []) ++
        (c.collation.map Dialect.standard.collationClause).toList) := by
    simp [Dialect.clauses, h.definition, h.check, h.charset, Dialect.standard]
  rw [hs]
  exact .cons (reads_type c.type) htail

theorem intercalate_nil_left : ∀ tss : List (List Token),
    ([] : List Token).intercalate tss = tss.flatten
  | [] => rfl
  | [ts] => by rw [List.intercalate_singleton]; simp
  | ts :: us :: tss => by
    rw [List.intercalate_cons_cons, intercalate_nil_left (us :: tss)]
    simp

theorem reads_declaration {c : Column} (h : c.Plain) (nulls : NullClause) :
    Reads (Dialect.standard.declaration c nulls) (c.tokens nulls) := by
  have hp : List.Forall₂ Reads
      (Dialect.standard.quoteName c.name :: Dialect.standard.clauses c nulls)
      ([.name c.name] :: c.type.tokens :: c.clauseTokens nulls) :=
    .cons (reads_name c.name) (forall₂_reads_clauses h nulls)
  have := reads_intercalate closed_blank (by decide) (by simp [Apart]; decide) hp
  rw [intercalate_nil_left] at this
  exact this

end Token

/-! ## Reading -/

namespace WrittenColumn

/-- Whether tokens end a declaration: nothing, a comma or a closing parenthesis comes next. -/
def Ends (ts : List Token) : Prop := ∀ t ∈ ts.head?, t = .symbol ',' ∨ t = .symbol ')'

theorem type?_word {w : String} {r : List Token} (hp : r.head? ≠ some (.symbol '('))
    (hw : r.head? ≠ some (.word "WITH")) : type? (.word w :: r) = some (w, r) := by
  unfold type?
  split <;> simp_all

theorem type?_sized (w : String) (length : UInt32) (r : List Token) :
    type? (ColumnType.sizedTokens w length ++ r) =
      some (w ++ "(" ++ toString length.toNat ++ ")", r) := by
  rw [ColumnType.sizedTokens, List.cons_append, List.cons_append, List.cons_append,
    List.cons_append, List.nil_append, type?]

theorem type?_tokens (t : ColumnType) {r : List Token} (hp : r.head? ≠ some (.symbol '('))
    (hw : r.head? ≠ some (.word "WITH")) : type? (t.tokens ++ r) = some (t.sql, r) := by
  cases t with
  | varchar length => exact type?_sized "VARCHAR2" _ r
  | char length => exact type?_sized "CHAR" _ r
  | timestampTz => exact type?.eq_2 "TIMESTAMP" r
  | _ => exact type?_word hp hw

variable (d : WrittenColumn)

theorem clauses?_end {r : List Token} (hr : Ends r) : clauses? d r = some (d, r) := by
  unfold clauses?
  split <;> simp_all [Ends]

theorem toString_nat_ne_null (n : Nat) : toString n ≠ "NULL" := by
  intro h
  have hN : 'N' ∈ (toString n).toList := by rw [h]; decide
  have := Text.isDigit_of_mem_toString hN
  revert this
  decide

theorem clauses?_natural (n : Nat) (r : List Token) :
    clauses? d (.word "DEFAULT" :: .word (toString n) :: r) =
      clauses? { d with default := some (.integer n) } r := by
  rw [clauses?, Text.natural?_toString]
  exact toString_nat_ne_null n

theorem clauses?_int (n : Int) (r : List Token) :
    clauses? d (.word "DEFAULT" :: (Token.ofInt n ++ r)) =
      clauses? { d with default := some (.integer n) } r := by
  unfold Token.ofInt
  split
  · rename_i h
    rw [List.singleton_append, clauses?_natural, Int.toNat_of_nonneg h]
  · rename_i h
    rw [List.cons_append, List.singleton_append, clauses?, Text.natural?_toString]
    have : (-((-n).toNat : Int)) = n := by omega
    simp only [this]

theorem clauses?_default {v : Default} {w : WrittenDefault} (h : v.written? = some w)
    (r : List Token) : clauses? d (.word "DEFAULT" :: (v.tokens ++ r)) =
      clauses? { d with default := some w } r := by
  cases v with
  | null => cases h; exact clauses?.eq_1 d r
  | bool b =>
    cases h
    cases b with
    | true => exact clauses?_natural d 1 r
    | false => exact clauses?_natural d 0 r
  | integer n => cases h; exact clauses?_int d n.toInt r
  | string s =>
    cases h
    rw [Default.tokens, List.singleton_append, clauses?]
  | float x => cases h
  | expression sql => cases h

theorem clauses?_nulls (c : Column) (r : List Token) :
    clauses? d (c.nullTokens ++ r) = clauses? { d with nullable := some c.nullable } r := by
  unfold Column.nullTokens
  cases c.nullable with
  | true => rw [if_pos rfl, List.singleton_append, clauses?]
  | false => rw [if_neg (by decide), List.cons_append, List.singleton_append, clauses?]

/-- The clauses of a column fill in a declaration. -/
theorem clauses?_clauseTokens {c : Column} (h : c.Plain) (nulls : NullClause) {r : List Token}
    (hr : Ends r) :
    clauses? { name := c.name, type := c.type.sql } ((c.clauseTokens nulls).flatten ++ r) =
      some (c.written nulls, r) := by
  have hu : ∀ (e : WrittenColumn) (s : List Token),
      clauses? e (.word "UNIQUE" :: s) = clauses? { e with unique := true } s :=
    fun e s => by rw [clauses?]
  have hc : ∀ (e : WrittenColumn) (n : String) (s : List Token),
      clauses? e (.word "COLLATE" :: .name n :: s) = clauses? { e with collation := some n } s :=
    fun e n s => by rw [clauses?]
  have hd : ∀ (e : WrittenColumn) (s : List Token), e.default = none →
      clauses? e ((c.default.map fun v => .word "DEFAULT" :: v.tokens).toList.flatten ++ s) =
        clauses? { e with default := c.default.bind Default.written? } s := by
    intro e s he
    cases hv : c.default with
    | none => simp [← he]
    | some v =>
      obtain ⟨w, hw⟩ := Option.isSome_iff_exists.mp (h.default v hv)
      simp [clauses?_default e hw, hw]
  unfold Column.clauseTokens Column.written
  rw [List.flatten_append, List.flatten_append, List.flatten_append, List.append_assoc,
    List.append_assoc, List.append_assoc, hd _ _ rfl]
  cases nulls <;> cases c.unique <;> cases c.collation <;>
    simp [clauses?_nulls, hu, hc, clauses?_end _ hr]

theorem head?_clauseTokens (c : Column) (nulls : NullClause) {r : List Token} (hr : Ends r) :
    ((c.clauseTokens nulls).flatten ++ r).head? ≠ some (.symbol '(') ∧
      ((c.clauseTokens nulls).flatten ++ r).head? ≠ some (.word "WITH") := by
  have hend : r.head? ≠ some (.symbol '(') ∧ r.head? ≠ some (.word "WITH") := by
    constructor
    · intro h
      rcases hr _ h with e | e <;> revert e <;> decide
    · intro h
      rcases hr _ h with e | e <;> revert e <;> decide
  unfold Column.clauseTokens Column.nullTokens
  cases c.default <;> cases nulls <;> cases c.nullable <;> cases c.unique <;> cases c.collation <;>
    simp [hend]

/-- A plain declaration reads back as what it says, up to what ends it. -/
theorem read?_tokens {c : Column} (h : c.Plain) (nulls : NullClause) {r : List Token}
    (hr : Ends r) : read? (c.tokens nulls ++ r) = some (c.written nulls, r) := by
  obtain ⟨hp, hw⟩ := head?_clauseTokens c nulls hr
  rw [Column.tokens, List.cons_append, List.append_assoc, read?, type?_tokens c.type hp hw]
  exact clauses?_clauseTokens h nulls hr

end WrittenColumn

end SqlSchema
