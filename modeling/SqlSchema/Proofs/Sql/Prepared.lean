import SqlSchema.Dialect.Query
import SqlSchema.Proofs.Sql.Quoted
import SqlSchema.Proofs.Sql.Token

/-!
# Queries with values bound

A query with string literals in it is safe if it reads like a prepared text that has a question
mark wherever a literal stands: the tokens are those of the prepared text, whatever the values,
with each question mark replaced by its value. This holds of every query whose fixed texts close
their quotes and keep clear of the apostrophes of the literals.
-/

namespace SqlSchema

namespace Token

/-! ## Texts one after the other -/

/-- Whether two characters side by side belong to one token: both of a word, or a quote written
twice. -/
def joins (c d : Char) : Bool := (isWordChar c && isWordChar d) || (isQuote c && c = d)

/-- The texts do not run into each other. -/
def Clear (s rest : List Char) : Prop := ∀ c ∈ s.getLast?, ∀ d ∈ rest.head?, joins c d = false

theorem Clear.tail {c : Char} {s rest : List Char} (h : Clear (c :: s) rest) : Clear s rest := by
  cases s with
  | nil => simp [Clear]
  | cons d s => simpa [Clear] using h

theorem Clear.of_append {a s rest : List Char} (h : Clear (a ++ s) rest) : Clear s rest := by
  induction a with
  | nil => exact h
  | cons c a ih => exact ih h.tail

/-- A quote that closes a quoted text is not taken for a doubled one. -/
theorem Clear.head?_ne {c : Char} {s rest : List Char} (h : Clear (c :: s) rest)
    (hq : isQuote c = true) (hs : s.head? ≠ some c) : (s ++ rest).head? ≠ some c := by
  cases s with
  | nil =>
    intro hrest
    have hjoins := h c rfl c hrest
    simp [joins, hq] at hjoins
  | cons d s => exact hs

theorem wordChars_takeWhile {c : Char} (hw : isWordChar c = true) (s : List Char) :
    ∀ d ∈ c :: s.takeWhile isWordChar, isWordChar d = true := by
  intro d hd
  obtain rfl | hd := List.mem_cons.mp hd
  · exact hw
  · exact List.mem_takeWhile_imp hd

/-- A word ends where it ended before. -/
theorem Clear.head?_dropWhile {c : Char} {s rest : List Char} (h : Clear (c :: s) rest)
    (hw : isWordChar c = true) :
    ∀ d ∈ (s.dropWhile isWordChar ++ rest).head?, isWordChar d = false := by
  intro d hd
  cases hdrop : s.dropWhile isWordChar with
  | nil =>
    -- the word goes on up to the end, so the text behind it has to begin with something else
    rw [hdrop] at hd
    have hall := wordChars_takeWhile hw s
    rw [← List.takeWhile_append_dropWhile (p := isWordChar) (l := s), hdrop, List.append_nil] at h
    have hne : c :: s.takeWhile isWordChar ≠ [] := List.cons_ne_nil _ _
    have hjoins := h _ (List.getLast?_eq_some_getLast hne) d hd
    have hlast := hall _ (List.getLast_mem hne)
    simpa [joins, hlast] using (Bool.or_eq_false_iff.mp hjoins).1
  | cons e t =>
    have hfirst := List.head?_dropWhile_not isWordChar s
    rw [hdrop] at hd hfirst
    obtain rfl : e = d := by simpa using hd
    simpa using hfirst

theorem read?_append {s : List Char} {ts : List Token} (h : read? s = some ts)
    {rest : List Char} (hclear : Clear s rest) :
    read? (s ++ rest) = (read? rest).map (ts ++ ·) := by
  induction s using read?.induct generalizing ts with
  | case1 =>
    rw [read?_nil] at h
    cases h
    simp
  | case2 c r hb ih =>
    rw [read?_blank hb] at h
    rw [List.cons_append, read?_blank hb]
    exact ih h hclear.tail
  | case3 c r hb hq hbody =>
    rw [read?_cons, if_neg hb, if_pos hq, hbody] at h
    cases h
  | case4 c r hb hq a r' hbody ih =>
    rw [read?_cons, if_neg hb, if_pos hq, hbody] at h
    obtain ⟨us, hus, rfl⟩ := Option.map_eq_some_iff.mp h
    obtain ⟨rfl, hr'⟩ := Quoted.eq_of_readBody hbody
    -- only the closing quote and what is behind it can touch the second text
    have hclose : Clear (c :: r') rest := by
      have hsplit : c :: (Quoted.double c a ++ c :: r') = (c :: Quoted.double c a) ++ (c :: r') :=
        rfl
      rw [hsplit] at hclear
      exact hclear.of_append
    have hbody' : Quoted.readBody c ((Quoted.double c a ++ c :: r') ++ rest) =
        some (a, r' ++ rest) := by
      rw [List.append_assoc, List.cons_append]
      exact Quoted.readBody_double (hclose.head?_ne hq hr') a
    rw [List.cons_append, read?_cons, if_neg hb, if_pos hq, hbody', Option.bind_some,
      ih hus hclose.tail, Option.map_map]
    rfl
  | case5 c r hb hq hw ih =>
    rw [read?_cons, if_neg hb, if_neg hq, if_pos hw] at h
    obtain ⟨us, hus, rfl⟩ := Option.map_eq_some_iff.mp h
    have hsplit : c :: r = (c :: r.takeWhile isWordChar) ++ r.dropWhile isWordChar := by
      rw [List.cons_append, List.takeWhile_append_dropWhile]
    have hhead := hclear.head?_dropWhile hw
    rw [hsplit] at hclear
    rw [hsplit, List.append_assoc, read?_word (List.cons_ne_nil _ _) (wordChars_takeWhile hw r) hhead,
      ih hus hclear.of_append, Option.map_map]
    rfl
  | case6 c r hb hq hw ih =>
    rw [read?_cons, if_neg hb, if_neg hq, if_neg hw] at h
    obtain ⟨us, hus, rfl⟩ := Option.map_eq_some_iff.mp h
    rw [List.cons_append, read?_cons, if_neg hb, if_neg hq, if_neg hw, ih hus hclear.tail,
      Option.map_map]
    rfl

/-! ## Quotes that are closed -/

/-- The quote that is open behind a character. -/
def quoteAfter : Option Char → Char → Option Char
  | none, c => if isQuote c then some c else none
  | some q, c => if c = q then none else some q

theorem quoteAfter_of_not_quote {c : Char} (h : isQuote c = false) : quoteAfter none c = none := by
  simp [quoteAfter, h]

theorem isQuote_of_isBlank {c : Char} (h : Text.isBlank c = true) : isQuote c = false := by
  cases hq : isQuote c with
  | false => rfl
  | true =>
    have hc : c = '"' ∨ c = '\'' := by
      simpa only [isQuote, Bool.or_eq_true, decide_eq_true_eq] using hq
    rcases hc with rfl | rfl
    · exact absurd h (by decide)
    · exact absurd h (by decide)

theorem foldl_quoteAfter_word : ∀ {w : List Char}, (∀ c ∈ w, isWordChar c = true) →
    w.foldl quoteAfter none = none
  | [], _ => rfl
  | c :: w, h => by
    have hc := isQuote_of_isWordChar (h c List.mem_cons_self)
    rw [List.foldl_cons, quoteAfter_of_not_quote hc]
    exact foldl_quoteAfter_word fun d hd => h d (List.mem_cons_of_mem c hd)

theorem exists_readBody {q : Char} (hq : isQuote q = true) {s : List Char}
    (h : s.foldl quoteAfter (some q) = none) :
    ∃ a r, Quoted.readBody q s = some (a, r) ∧ r.foldl quoteAfter none = none := by
  fun_induction Quoted.readBody q s with
  | case1 => cases h
  | case2 => exact ⟨[], [], rfl, rfl⟩
  | case3 c hc => simp [quoteAfter, hc] at h
  | case4 r ih =>
    have hr : r.foldl quoteAfter (some q) = none := by simpa [quoteAfter, hq] using h
    obtain ⟨a, t, ha, ht⟩ := ih hr
    exact ⟨q :: a, t, by rw [ha]; rfl, ht⟩
  | case5 d r hd =>
    refine ⟨[], d :: r, rfl, ?_⟩
    rw [List.foldl_cons] at h
    simpa [quoteAfter] using h
  | case6 c d r hc ih =>
    have hr : (d :: r).foldl quoteAfter (some q) = none := by
      rw [List.foldl_cons] at h
      simpa [quoteAfter, hc] using h
    obtain ⟨a, t, ha, ht⟩ := ih hr
    exact ⟨c :: a, t, by rw [ha]; rfl, ht⟩

theorem exists_read? {s : List Char} (h : s.foldl quoteAfter none = none) :
    ∃ ts, read? s = some ts := by
  induction s using read?.induct with
  | case1 => exact ⟨[], read?_nil⟩
  | case2 c r hb ih =>
    rw [List.foldl_cons, quoteAfter_of_not_quote (isQuote_of_isBlank hb)] at h
    rw [read?_blank hb]
    exact ih h
  | case3 c r hb hq hbody =>
    rw [List.foldl_cons, quoteAfter, if_pos hq] at h
    obtain ⟨a, r', ha, -⟩ := exists_readBody hq h
    rw [hbody] at ha
    cases ha
  | case4 c r hb hq a r' hbody ih =>
    rw [List.foldl_cons, quoteAfter, if_pos hq] at h
    obtain ⟨a', t, ha, ht⟩ := exists_readBody hq h
    rw [hbody] at ha
    cases ha
    obtain ⟨us, hus⟩ := ih ht
    rw [read?_cons, if_neg hb, if_pos hq, hbody, Option.bind_some, hus]
    exact ⟨_, rfl⟩
  | case5 c r hb hq hw ih =>
    rw [List.foldl_cons, quoteAfter_of_not_quote (by simpa using hq),
      ← List.takeWhile_append_dropWhile (p := isWordChar) (l := r), List.foldl_append,
      foldl_quoteAfter_word fun d hd => List.mem_takeWhile_imp hd] at h
    obtain ⟨us, hus⟩ := ih h
    rw [read?_cons, if_neg hb, if_neg hq, if_pos hw, hus]
    exact ⟨_, rfl⟩
  | case6 c r hb hq hw ih =>
    rw [List.foldl_cons, quoteAfter_of_not_quote (by simpa using hq)] at h
    obtain ⟨us, hus⟩ := ih h
    rw [read?_cons, if_neg hb, if_neg hq, if_neg hw, hus]
    exact ⟨_, rfl⟩

theorem mem_of_symbol_mem {s : List Char} {ts : List Token} (h : read? s = some ts) {c : Char}
    (hc : symbol c ∈ ts) : c ∈ s := by
  induction s using read?.induct generalizing ts with
  | case1 =>
    rw [read?_nil] at h
    cases h
    cases hc
  | case2 d r hb ih =>
    rw [read?_blank hb] at h
    exact List.mem_cons_of_mem d (ih h hc)
  | case3 d r hb hq hbody =>
    rw [read?_cons, if_neg hb, if_pos hq, hbody] at h
    cases h
  | case4 d r hb hq a r' hbody ih =>
    rw [read?_cons, if_neg hb, if_pos hq, hbody] at h
    obtain ⟨us, hus, rfl⟩ := Option.map_eq_some_iff.mp h
    have hrest : symbol c ∈ us := by
      have hne : symbol c ≠ quoted d a := by
        unfold quoted
        split <;> simp
      exact (List.mem_cons.mp hc).resolve_left hne
    obtain ⟨rfl, -⟩ := Quoted.eq_of_readBody hbody
    have := ih hus hrest
    simp [this]
  | case5 d r hb hq hw ih =>
    rw [read?_cons, if_neg hb, if_neg hq, if_pos hw] at h
    obtain ⟨us, hus, rfl⟩ := Option.map_eq_some_iff.mp h
    have hrest : symbol c ∈ us := (List.mem_cons.mp hc).resolve_left (by simp)
    exact List.mem_cons_of_mem d ((List.dropWhile_sublist _).mem (ih hus hrest))
  | case6 d r hb hq hw ih =>
    rw [read?_cons, if_neg hb, if_neg hq, if_neg hw] at h
    obtain ⟨us, hus, rfl⟩ := Option.map_eq_some_iff.mp h
    rcases List.mem_cons.mp hc with he | hc
    · rw [Token.symbol.inj he]
      exact List.mem_cons_self
    · exact List.mem_cons_of_mem d (ih hus hc)

/-! ## Binding -/

/-- The tokens with values for the question marks, one after the other. -/
def bind : List String → List Token → List Token
  | [], ts => ts
  | _, [] => []
  | v :: vs, t :: ts =>
    if t = symbol '?' then literal v :: bind vs ts else t :: bind (v :: vs) ts

example : bind ["a' OR '"] [word "x", symbol '=', symbol '?'] =
    [word "x", symbol '=', literal "a' OR '"] := rfl

theorem bind_place (v : String) (vs : List String) (ts : List Token) :
    bind (v :: vs) (symbol '?' :: ts) = literal v :: bind vs ts := by
  rw [bind, if_pos rfl]

theorem bind_append (vs : List String) : ∀ {us : List Token}, symbol '?' ∉ us →
    ∀ ts, bind vs (us ++ ts) = us ++ bind vs ts
  | [], _, _ => rfl
  | u :: us, h, ts => by
    rw [List.mem_cons, not_or] at h
    cases vs with
    | nil => simp [bind]
    | cons v vs =>
      rw [List.cons_append, bind, if_neg (Ne.symm h.1), bind_append (v :: vs) h.2 ts]
      rfl

end Token

namespace Query

/-! ## Queries and their prepared texts -/

def Part.prepared : Part → String
  | text sql => sql
  | literal _ => "?"

def Part.value? : Part → Option String
  | text _ => none
  | literal s => some s

def isPlain (s : List Char) : Bool :=
  s.foldl Token.quoteAfter none = none && !s.contains '?' &&
    s.head?.any (· ≠ '\'') && s.getLast?.any (· ≠ '\'')

/-- A text that leaves no quote open, has no question mark in it and neither begins nor ends with
an apostrophe. -/
def Plain (s : String) : Prop := isPlain s.toList = true

theorem plain_of_chars {s : String} {l : List Char} (hs : s = String.ofList l)
    (hl : isPlain l = true) : Plain s := by
  rw [Plain, hs, String.toList_ofList]
  exact hl

theorem plain_iff {s : String} : Plain s ↔ s.toList.foldl Token.quoteAfter none = none ∧
    '?' ∉ s.toList ∧ (∃ c ∈ s.toList.head?, c ≠ '\'') ∧ ∃ c ∈ s.toList.getLast?, c ≠ '\'' := by
  simp [Plain, isPlain, Option.any_eq_true, and_assoc]

theorem Plain.append {a b : String} (ha : Plain a) (hb : Plain b) : Plain (a ++ b) := by
  rw [plain_iff] at *
  obtain ⟨hac, han, ⟨c, hc, hcq⟩, -⟩ := ha
  obtain ⟨hbc, hbn, -, d, hd, hdq⟩ := hb
  rw [String.toList_append]
  refine ⟨?_, ?_, ⟨c, ?_, hcq⟩, d, ?_, hdq⟩
  · rw [List.foldl_append, hac, hbc]
  · simp [han, hbn]
  · rw [List.head?_append, Option.mem_def.mp hc]
    rfl
  · rw [List.getLast?_append, Option.mem_def.mp hd]
    rfl

/-- Texts and literals in turn, the texts plain. -/
inductive InTurn : List Part → Prop
  | nil : InTurn []
  | text {a : String} (ha : Plain a) : InTurn [.text a]
  | literal {a : String} (ha : Plain a) (v : String) {parts : List Part} (h : InTurn parts) :
    InTurn (.text a :: .literal v :: parts)

theorem InTurn.head?_ne {parts : List Part} (h : InTurn parts) :
    (String.join (parts.map Part.sql)).toList.head? ≠ some '\'' := by
  have hopen {a : String} (ha : Plain a) (b : String) : (a ++ b).toList.head? ≠ some '\'' := by
    obtain ⟨-, -, ⟨c, hc, hcq⟩, -⟩ := plain_iff.mp ha
    rw [String.toList_append, List.head?_append, Option.mem_def.mp hc]
    simpa using hcq
  cases h with
  | nil => simp
  | text ha =>
    rw [List.map_cons, String.join_cons]
    exact hopen ha _
  | literal ha v h =>
    rw [List.map_cons, String.join_cons]
    exact hopen ha _

theorem read?_place {a : String} {us : List Token}
    (hus : Token.read? a.toList = some us) (rest : List Char) :
    Token.read? (a.toList ++ '?' :: rest) =
      (Token.read? rest).map (us ++ .symbol '?' :: ·) := by
  have hclear : Token.Clear a.toList ('?' :: rest) := by
    intro c _ d hd
    obtain rfl : '?' = d := by simpa using hd
    have hword : Token.isWordChar '?' = false := by decide
    have hquote : Token.isQuote c = true → c ≠ '?' := by
      rintro hq rfl
      exact absurd hq (by decide)
    simpa [Token.joins, hword] using hquote
  rw [Token.read?_append hus hclear, Token.read?_symbol (by decide) (by decide) (by decide),
    Option.map_map]
  rfl

theorem read?_plain_literal {a : String} (ha : Plain a) {us : List Token}
    (hus : Token.read? a.toList = some us) (v : String) {rest : List Char}
    (hrest : rest.head? ≠ some '\'') :
    Token.read? (a.toList ++ ((Quoted.literal v).toList ++ rest)) =
      (Token.read? rest).map (us ++ .literal v :: ·) := by
  obtain ⟨-, -, -, e, he, hequote⟩ := plain_iff.mp ha
  rw [Quoted.literal, Quoted.toList_quote]
  have hclear : Token.Clear a.toList (Quoted.enclose '\'' v.toList ++ rest) := by
    intro c hc d hd
    obtain rfl : '\'' = d := by simpa [Quoted.enclose] using hd
    obtain rfl := Option.mem_unique hc he
    have hword : Token.isWordChar '\'' = false := by decide
    simp [Token.joins, hword, hequote]
  rw [Token.read?_append hus hclear, Token.read?_enclose (by decide) (by decide) _ hrest,
    Option.map_map]
  have hquoted : Token.quoted '\'' v.toList = .literal v := by simp [Token.quoted]
  rw [hquoted]
  rfl

theorem InTurn.binds {parts : List Part} (h : InTurn parts) :
    ∃ ts, Token.ofText? (String.join (parts.map Part.prepared)) = some ts ∧
      ts.count (.symbol '?') = (parts.filterMap Part.value?).length ∧
      Token.ofText? (String.join (parts.map Part.sql)) =
        some (Token.bind (parts.filterMap Part.value?) ts) := by
  induction h with
  | nil => exact ⟨[], Token.read?_nil, rfl, Token.read?_nil⟩
  | @text a ha =>
    obtain ⟨hclosed, hmark, -⟩ := plain_iff.mp ha
    obtain ⟨us, hus⟩ := Token.exists_read? hclosed
    refine ⟨us, ?_, ?_, ?_⟩
    · simpa [Token.ofText?, Part.prepared] using hus
    · exact List.count_eq_zero.mpr fun hmem => hmark (Token.mem_of_symbol_mem hus hmem)
    · have hvalues : [Part.text a].filterMap Part.value? = [] := rfl
      rw [hvalues, Token.bind]
      simpa [Token.ofText?, Part.sql] using hus
  | @literal a ha v parts h ih =>
    obtain ⟨hclosed, hmark, -⟩ := plain_iff.mp ha
    obtain ⟨us, hus⟩ := Token.exists_read? hclosed
    have hnone : Token.symbol '?' ∉ us := fun hmem => hmark (Token.mem_of_symbol_mem hus hmem)
    obtain ⟨ts, hts, hcount, hbound⟩ := ih
    have hprepared : (String.join ((Part.text a :: .literal v :: parts).map Part.prepared)).toList =
        a.toList ++ '?' :: (String.join (parts.map Part.prepared)).toList := by
      simp [String.join_cons, Part.prepared]
    have hsql : (String.join ((Part.text a :: .literal v :: parts).map Part.sql)).toList =
        a.toList ++ ((Quoted.literal v).toList ++ (String.join (parts.map Part.sql)).toList) := by
      simp [String.join_cons, Part.sql]
    have hvalues : (Part.text a :: .literal v :: parts).filterMap Part.value? =
        v :: parts.filterMap Part.value? := rfl
    rw [Token.ofText?] at hts hbound
    refine ⟨us ++ .symbol '?' :: ts, ?_, ?_, ?_⟩
    · rw [Token.ofText?, hprepared, read?_place hus, hts]
      rfl
    · rw [hvalues, List.count_append, List.count_eq_zero.mpr hnone, List.count_cons_self, hcount,
        List.length_cons, Nat.zero_add]
    · rw [Token.ofText?, hsql, read?_plain_literal ha hus v h.head?_ne, hbound, hvalues,
        Token.bind_append _ hnone, Token.bind_place]
      rfl

end Query

/-! ## The lookups of the catalog -/

/-- The queries of the catalog about an owner, an object, or both. -/
inductive Lookup
  | sequences
  | columns
  | indexes
  | foreignKeys
  | constraints
  | databaseExists
  | tableExists
  | columnNames
  | primaryKey
  | sequenceExists

namespace Lookup

def query (owner object : String) : Lookup → Query
  | sequences => .sequences owner
  | columns => .columns object owner
  | indexes => .indexes object
  | foreignKeys => .foreignKeys object
  | constraints => .constraints object
  | databaseExists => .databaseExists object
  | tableExists => .tableExists owner object
  | columnNames => .columnNames owner object
  | primaryKey => .primaryKey owner object
  | sequenceExists => .sequenceExists owner object

def values (owner object : String) : Lookup → List String
  | sequences => [Text.upper owner]
  | columns => [Text.upper owner, Text.upper object]
  | indexes | foreignKeys | constraints | databaseExists => [Text.upper object]
  | tableExists | columnNames => [owner, object]
  | primaryKey | sequenceExists => [Text.upper owner, object]

/-- The text of the query with a question mark for each value. -/
def prepared (l : Lookup) : String :=
  String.join (((l.query "" "").parts .standard).map Query.Part.prepared)

variable (owner object : String) (d : Dialect)

theorem inTurn_parts (l : Lookup) : Query.InTurn ((l.query owner object).parts d) := by
  cases l
  case' sequences | foreignKeys | constraints | databaseExists => refine .literal ?_ _ .nil
  case' indexes => refine .literal ?_ _ (.text ?_)
  case' primaryKey | sequenceExists => refine .literal ?_ _ (.literal ?_ _ .nil)
  case' columns | tableExists | columnNames => refine .literal ?_ _ (.literal ?_ _ (.text ?_))
  -- the long texts are put together from lines, each of them plain by itself
  all_goals repeat with_reducible apply Query.Plain.append
  all_goals
    refine Query.plain_of_chars rfl ?_
    rfl

theorem join_prepared (l : Lookup) :
    String.join (((l.query owner object).parts d).map Query.Part.prepared) = l.prepared := by
  cases l <;> rfl

theorem values_parts (l : Lookup) :
    ((l.query owner object).parts d).filterMap Query.Part.value? = l.values owner object := by
  cases l <;> rfl

/-- Every lookup reads as its prepared text does, with a string literal for each question mark,
whatever the owner and the object are: the literals are the values in order, in upper case where
names stand so in the catalog, and no other token depends on them. -/
theorem values_stay_literals (l : Lookup) :
    ∃ ts, Token.ofText? l.prepared = some ts ∧ ∀ (d : Dialect) (owner object : String),
      ts.count (.symbol '?') = (l.values owner object).length ∧
      Token.ofText? ((l.query owner object).sql d) =
        some (Token.bind (l.values owner object) ts) := by
  obtain ⟨ts, hts, -, -⟩ := (l.inTurn_parts "" "" .standard).binds
  rw [join_prepared] at hts
  refine ⟨ts, hts, fun d owner object => ?_⟩
  obtain ⟨us, hus, hcount, hbound⟩ := (l.inTurn_parts owner object d).binds
  rw [join_prepared, hts] at hus
  obtain rfl := Option.some.inj hus
  rw [values_parts] at hcount hbound
  exact ⟨hcount, hbound⟩

example :
    sequenceExists.prepared =
      "SELECT * FROM ALL_SEQUENCES WHERE SEQUENCE_OWNER = ? AND SEQUENCE_NAME = ?" ∧
    (sequenceExists.query "app" "o'x_id_seq").sql .standard =
      "SELECT * FROM ALL_SEQUENCES WHERE SEQUENCE_OWNER = 'APP' AND SEQUENCE_NAME = 'o''x_id_seq'" := by
  decide

end Lookup

end SqlSchema
