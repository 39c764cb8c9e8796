import Mathlib.Data.List.Forall2
import SqlSchema.Proofs.Text.Integer
import SqlSchema.Proofs.Text.Parts
import SqlSchema.Sql.Quoted

/-!
# Tokens

SQL text read as tokens. A quoted name ends at the first double quote that stands
alone, a string literal at the first such apostrophe. `Closed` says what a piece of text
reads as in front of anything, `Reads` what it reads as in front of a text that cannot
continue its last token. A statement is read piece by piece.
-/

namespace SqlSchema

/-- A token: a word without quotes (a keyword, a number), a name in quotes, a string
literal, or any other character. -/
inductive Token
  | word (s : String)
  | name (s : String)
  | literal (s : String)
  | symbol (c : Char)
  deriving DecidableEq

namespace Token

def isWordChar (c : Char) : Bool :=
  c.isAlphanum || c = '_' || c = '$' || c = '#' || (128 ≤ c.toNat && !Text.isBlank c)

def isQuote (c : Char) : Bool := c = '"' || c = '\''

def quoted (q : Char) (s : List Char) : Token :=
  if q = '"' then name (String.ofList s) else literal (String.ofList s)

theorem length_readBody_lt {q : Char} {s a rest : List Char}
    (h : Quoted.readBody q s = some (a, rest)) : rest.length < s.length := by
  fun_induction Quoted.readBody q s generalizing a with
  | case1 => cases h
  | case2 => cases h; simp
  | case3 => cases h
  | case4 r ih =>
    obtain ⟨⟨b, u⟩, hb, hp⟩ := Option.map_eq_some_iff.mp h
    obtain ⟨-, rfl⟩ := Prod.mk.inj hp
    have := ih hb
    simp only [List.length_cons]
    omega
  | case5 => cases h; simp
  | case6 c d r hc ih =>
    obtain ⟨⟨b, u⟩, hb, hp⟩ := Option.map_eq_some_iff.mp h
    obtain ⟨-, rfl⟩ := Prod.mk.inj hp
    exact Nat.lt_succ_of_lt (ih hb)

/-- Reads a text as tokens, unless a quote is left open. -/
def read? : List Char → Option (List Token)
  | [] => some []
  | c :: r =>
    if Text.isBlank c then read? r
    else if isQuote c then
      match _h : Quoted.readBody c r with
      | none => none
      | some (s, rest) => (read? rest).map (quoted c s :: ·)
    else if isWordChar c then
      (read? (r.dropWhile isWordChar)).map (word (String.ofList (c :: r.takeWhile isWordChar)) :: ·)
    else (read? r).map (symbol c :: ·)
termination_by s => s.length
decreasing_by
  · simp
  · exact Nat.lt_succ_of_lt (length_readBody_lt _h)
  · exact Nat.lt_succ_of_le (List.length_dropWhile_le _ r)
  · simp

def ofText? (s : String) : Option (List Token) := read? s.toList

theorem read?_nil : read? [] = some [] := by rw [read?.eq_def]

theorem read?_cons (c : Char) (r : List Char) : read? (c :: r) =
    if Text.isBlank c then read? r
    else if isQuote c then
      (Quoted.readBody c r).bind fun p => (read? p.2).map (quoted c p.1 :: ·)
    else if isWordChar c then
      (read? (r.dropWhile isWordChar)).map (word (String.ofList (c :: r.takeWhile isWordChar)) :: ·)
    else (read? r).map (symbol c :: ·) := by
  rw [read?.eq_def]
  simp only
  split
  · rfl
  · split
    · cases h : Quoted.readBody c r <;> rfl
    · rfl

theorem read?_blank {c : Char} (h : Text.isBlank c = true) (r : List Char) :
    read? (c :: r) = read? r := by
  rw [read?_cons, if_pos h]

theorem read?_symbol {c : Char} (hb : Text.isBlank c = false) (hq : isQuote c = false)
    (hw : isWordChar c = false) (r : List Char) :
    read? (c :: r) = (read? r).map (symbol c :: ·) := by
  rw [read?_cons]
  simp [hb, hq, hw]

theorem read?_enclose {q : Char} (hb : Text.isBlank q = false) (hq : isQuote q = true)
    (s : List Char) {rest : List Char} (h : rest.head? ≠ some q) :
    read? (Quoted.enclose q s ++ rest) = (read? rest).map (quoted q s :: ·) := by
  have hr : Quoted.readBody q (Quoted.double q s ++ q :: rest) = some (s, rest) :=
    Quoted.readBody_double h s
  have he : Quoted.enclose q s ++ rest = q :: (Quoted.double q s ++ q :: rest) := by
    simp [Quoted.enclose]
  rw [he, read?_cons, if_neg (by simp [hb]), if_pos hq, hr]
  rfl

theorem toNat_of_isAlphanum {c : Char} (h : c.isAlphanum = true) :
    48 ≤ c.toNat ∧ c.toNat ≤ 122 := by
  have hc : (decide ('A'.toNat ≤ c.toNat ∧ c.toNat ≤ 'Z'.toNat) ||
      (decide ('a'.toNat ≤ c.toNat) && decide (c.toNat ≤ 'z'.toNat)) ||
      (decide ('0'.toNat ≤ c.toNat) && decide (c.toNat ≤ '9'.toNat))) = true := h
  simp at hc
  omega

theorem isBlank_of_isWordChar {c : Char} (h : isWordChar c = true) : Text.isBlank c = false := by
  simp only [isWordChar, Bool.or_eq_true, Bool.and_eq_true, decide_eq_true_eq,
    Bool.not_eq_true'] at h
  rcases h with (((h | rfl) | rfl) | rfl) | h
  · have hc := toNat_of_isAlphanum h
    simp only [Text.isBlank]
    simp
    omega
  · decide
  · decide
  · decide
  · exact h.2

theorem isQuote_of_isWordChar {c : Char} (h : isWordChar c = true) : isQuote c = false := by
  simp only [isQuote, Bool.or_eq_false_iff, decide_eq_false_iff_not]
  constructor
  · rintro rfl
    revert h
    decide
  · rintro rfl
    revert h
    decide

theorem read?_word {w : List Char} (hne : w ≠ []) (hw : ∀ c ∈ w, isWordChar c = true)
    {rest : List Char} (hr : ∀ c ∈ rest.head?, isWordChar c = false) :
    read? (w ++ rest) = (read? rest).map (word (String.ofList w) :: ·) := by
  cases w with
  | nil => exact absurd rfl hne
  | cons c w =>
    have hc : isWordChar c = true := hw c List.mem_cons_self
    have hb := isBlank_of_isWordChar hc
    have hq := isQuote_of_isWordChar hc
    have hall : ∀ d ∈ w, isWordChar d = true := fun d hd => hw d (List.mem_cons_of_mem _ hd)
    rw [List.cons_append, read?_cons, if_neg (by simp [hb]), if_neg (by simp [hq]), if_pos hc,
      Text.takeWhile_append_of_head? hall hr, Text.dropWhile_append_of_head? hall hr]

/-! ## Pieces of text -/

/-- Whether a text cannot continue a token that ends in front of it. -/
def Apart (s : List Char) : Prop := ∀ c ∈ s.head?, isWordChar c = false ∧ isQuote c = false

/-- What a text reads as in front of anything. -/
def Closed (s : String) (ts : List Token) : Prop :=
  ∀ rest, read? (s.toList ++ rest) = (read? rest).map (ts ++ ·)

/-- What a text reads as in front of a text apart from it. -/
def Reads (s : String) (ts : List Token) : Prop :=
  ∀ rest, Apart rest → read? (s.toList ++ rest) = (read? rest).map (ts ++ ·)

variable {a b : String} {ts us : List Token}

theorem Closed.reads (h : Closed a ts) : Reads a ts := fun rest _ => h rest

theorem Reads.ofText? (h : Reads a ts) : ofText? a = some ts := by
  have := h [] (by simp [Apart])
  simpa [Token.ofText?, read?_nil] using this

theorem map_append_append (o : Option (List Token)) :
    (o.map (us ++ ·)).map (ts ++ ·) = o.map (ts ++ us ++ ·) := by
  cases o <;> simp

theorem Closed.append_reads (ha : Closed a ts) (hb : Reads b us) : Reads (a ++ b) (ts ++ us) := by
  intro rest hr
  rw [String.toList_append, List.append_assoc, ha, hb rest hr, map_append_append]

theorem Closed.append (ha : Closed a ts) (hb : Closed b us) : Closed (a ++ b) (ts ++ us) := by
  intro rest
  rw [String.toList_append, List.append_assoc, ha, hb, map_append_append]

theorem apart_append (hs : b ≠ "") (hap : Apart b.toList) (rest : List Char) :
    Apart (b.toList ++ rest) := by
  cases hl : b.toList with
  | nil => exact absurd (String.toList_eq_nil_iff.mp hl) hs
  | cons c s => rw [hl] at hap; exact hap

theorem Reads.append_closed (ha : Reads a ts) (hs : b ≠ "") (hap : Apart b.toList)
    (hb : Closed b us) : Closed (a ++ b) (ts ++ us) := by
  intro rest
  rw [String.toList_append, List.append_assoc, ha _ (apart_append hs hap rest), hb,
    map_append_append]

theorem Reads.append_reads (ha : Reads a ts) (hs : b ≠ "") (hap : Apart b.toList)
    (hb : Reads b us) : Reads (a ++ b) (ts ++ us) := by
  intro rest hr
  rw [String.toList_append, List.append_assoc, ha _ (apart_append hs hap rest), hb rest hr,
    map_append_append]

/-! ## Words, names, literals and numbers -/

def isWord (w : String) : Bool := !w.toList.isEmpty && w.toList.all isWordChar

theorem reads_word {w : String} (h : isWord w = true) : Reads w [word w] := by
  simp only [isWord, Bool.and_eq_true, Bool.not_eq_true', List.isEmpty_eq_false_iff,
    List.all_eq_true] at h
  intro rest hr
  have := read?_word h.1 h.2 (fun c hc => (hr c hc).1)
  simpa using this

theorem head?_ne_of_apart {q : Char} (hq : isQuote q = true) {rest : List Char} (h : Apart rest) :
    rest.head? ≠ some q := by
  intro he
  have := (h q (by simp [he])).2
  rw [hq] at this
  cases this

/-- A name in double quotes reads as that name, whatever its characters. -/
theorem reads_name (s : String) : Reads (Quoted.quote '"' s) [name s] := by
  intro rest hr
  rw [Quoted.toList_quote,
    read?_enclose (by decide) (by decide) _ (head?_ne_of_apart (by decide) hr)]
  simp [quoted]

theorem reads_literal (s : String) : Reads (Quoted.literal s) [literal s] := by
  intro rest hr
  rw [Quoted.literal, Quoted.toList_quote,
    read?_enclose (by decide) (by decide) _ (head?_ne_of_apart (by decide) hr)]
  simp [quoted]

theorem isWordChar_of_isDigit {c : Char} (h : c.isDigit = true) : isWordChar c = true := by
  simp [isWordChar, Char.isAlphanum, h]

theorem reads_nat (n : Nat) : Reads (toString n) [word (toString n)] := by
  apply reads_word
  simp only [isWord, Bool.and_eq_true, Bool.not_eq_true', List.isEmpty_eq_false_iff,
    List.all_eq_true]
  exact ⟨Text.toString_nat_ne_nil n,
    fun c hc => isWordChar_of_isDigit (Text.isDigit_of_mem_toString hc)⟩

def isSymbol (c : Char) : Bool := !Text.isBlank c && !isQuote c && !isWordChar c

theorem closed_symbol {c : Char} (h : isSymbol c = true) :
    Closed (String.ofList [c]) [symbol c] := by
  simp only [isSymbol, Bool.and_eq_true, Bool.not_eq_true'] at h
  intro rest
  have := read?_symbol h.1.1 h.1.2 h.2 rest
  simpa using this

theorem closed_blank : Closed " " [] := by
  intro rest
  have := read?_blank (c := ' ') (by decide) rest
  simpa using this

theorem apart_blank (s : String) : Apart (" " ++ s).toList := by
  simp [Apart]
  decide

/-- A blank between two texts keeps them apart. -/
theorem Reads.blank_closed (ha : Reads a ts) (hb : Closed b us) :
    Closed (a ++ (" " ++ b)) (ts ++ us) :=
  ha.append_closed (by simp) (apart_blank b) (closed_blank.append hb)

theorem Reads.blank_reads (ha : Reads a ts) (hb : Reads b us) :
    Reads (a ++ (" " ++ b)) (ts ++ us) :=
  ha.append_reads (by simp) (apart_blank b) (closed_blank.append_reads hb)

def ofInt (n : Int) : List Token :=
  if 0 ≤ n then [word (toString n.toNat)] else [symbol '-', word (toString (-n).toNat)]

theorem reads_int (n : Int) : Reads (toString n) (ofInt n) := by
  rw [Int.toString_eq_repr, Int.repr_eq_if, ofInt]
  split
  · exact reads_nat _
  · exact (closed_symbol (c := '-') rfl).append_reads (reads_nat _)

/-- Words with a blank after each. -/
def phrase (words : List String) : String := String.join (words.map (· ++ " "))

theorem closed_phrase : ∀ words : List String, (∀ w ∈ words, isWord w = true) →
    Closed (phrase words) (words.map word)
  | [], _ => by
    intro rest
    simp [phrase]
  | w :: ws, h => by
    have hw : Closed (w ++ " ") [word w] :=
      (reads_word (h w List.mem_cons_self)).append_closed (by decide) (apart_blank "") closed_blank
    have hws : Closed (phrase ws) (ws.map word) :=
      closed_phrase ws fun v hv => h v (List.mem_cons_of_mem _ hv)
    have : phrase (w :: ws) = w ++ " " ++ phrase ws := by simp [phrase]
    rw [this]
    exact hw.append hws

theorem reads_phrase {words : List String} {w s : String} (h : ∀ v ∈ words, isWord v = true)
    (hw : isWord w = true) (hs : phrase words ++ w = s) :
    Reads s (words.map word ++ [word w]) := by
  rw [← hs]
  exact (closed_phrase words h).append_reads (reads_word hw)

/-! ## Lists -/

theorem reads_nil : Reads "" [] := by
  intro rest _
  simp

/-- Pieces with a separator between them read as their tokens with those of the separator
between them. -/
theorem reads_intercalate {sep : String} (hc : Closed sep us) (hs : sep ≠ "")
    (hap : Apart sep.toList) : ∀ {ss : List String} {tss : List (List Token)},
    List.Forall₂ Reads ss tss → Reads (sep.intercalate ss) (us.intercalate tss)
  | _, _, .nil => by
    rw [String.intercalate_nil, List.intercalate_nil]
    exact reads_nil
  | _, _, .cons h .nil => by
    rw [String.intercalate_singleton, List.intercalate_singleton]
    exact h
  | _, _, .cons h (.cons h' t) => by
    rw [String.intercalate_cons_cons, List.intercalate_cons_cons]
    exact ((h.append_closed hs hap hc).append_reads
      (reads_intercalate hc hs hap (.cons h' t)))

end Token

end SqlSchema
