import SqlSchema.Dialect.Basic
import SqlSchema.Proofs.Text.Integer
import SqlSchema.Proofs.Text.Parts

/-!
# Literals, read back

A value that is no float is read back from its literal, whatever characters or bytes it holds and
whatever follows, as long as that does not go on with the last token: it begins with no
apostrophe, digit or letter. The four shapes are told apart by how they begin, and so two values
share a literal only where one is a truth value and the other the number that stands for it.
-/

namespace SqlSchema

namespace Literal

/-! ## The reader -/

def hexValue? (c : Char) : Option Nat :=
  if c.isDigit then some (c.toNat - '0'.toNat)
  else if 'A' ≤ c ∧ c ≤ 'F' then some (c.toNat - 'A'.toNat + 10)
  else none

def bytes? : List Char → Option (List UInt8)
  | [] => some []
  | [_] => none
  | c :: d :: r =>
    match hexValue? c, hexValue? d with
    | some high, some low => (bytes? r).map (.ofNat (16 * high + low) :: ·)
    | _, _ => none

/-- Reads digits in apostrophes and parentheses as bytes. -/
def raw? : List Char → Option (Datum × List Char)
  | '(' :: r =>
    match Quoted.read '\'' r with
    | some (digits, ')' :: rest) => (bytes? digits).map fun bytes => (.blob bytes, rest)
    | _ => none
  | _ => none

def number? (digits rest : List Char) : Option (Datum × List Char) :=
  (Text.integerWithin? int64Bounds.1 int64Bounds.2 digits).map fun n => (.int (.ofInt n), rest)

/-- What a word begins: a null, bytes or a number. -/
def ofWord? (word rest : List Char) : Option (Datum × List Char) :=
  if word = "NULL".toList then some (.null, rest)
  else if word = "HEXTORAW".toList then raw? rest
  else number? word rest

/-- Reads one literal from the front of a text. A word goes on as long as letters and digits
do. -/
def read? : List Char → Option (Datum × List Char)
  | '\'' :: r => (Quoted.readBody '\'' r).map fun (s, rest) => (.text (String.ofList s), rest)
  | '-' :: r => number? ('-' :: r.takeWhile Char.isAlphanum) (r.dropWhile Char.isAlphanum)
  | s => ofWord? (s.takeWhile Char.isAlphanum) (s.dropWhile Char.isAlphanum)

/-- Whether a text cannot go on with a literal in front of it. -/
def Apart (rest : List Char) : Prop := ∀ c ∈ rest.head?, c ≠ '\'' ∧ c.isAlphanum = false

instance : (rest : List Char) → Decidable (Apart rest)
  | [] => isTrue nofun
  | c :: _ => decidable_of_iff (c ≠ '\'' ∧ c.isAlphanum = false) (by simp [Apart])

variable {rest : List Char}

/-! ## Words and numbers -/

theorem read?_word {w : List Char} (hne : w ≠ []) (hw : w.all Char.isAlphanum = true)
    (hr : ∀ c ∈ rest.head?, c.isAlphanum = false) : read? (w ++ rest) = ofWord? w rest := by
  have hword := List.all_eq_true.mp hw
  have hread : read? (w ++ rest) =
      ofWord? ((w ++ rest).takeWhile Char.isAlphanum) ((w ++ rest).dropWhile Char.isAlphanum) := by
    obtain ⟨c, w, rfl⟩ := List.exists_cons_of_ne_nil hne
    have hc := hword c List.mem_cons_self
    -- neither an apostrophe nor a minus is part of a word
    rw [List.cons_append]
    unfold read?
    split
    · rename_i he
      rw [(List.cons.inj he).1] at hc
      cases hc
    · rename_i he
      rw [(List.cons.inj he).1] at hc
      cases hc
    · rfl
  rw [hread, Text.takeWhile_append_of_head? hword hr, Text.dropWhile_append_of_head? hword hr]

theorem isAlphanum_of_isDigit {c : Char} (h : c.isDigit = true) : c.isAlphanum = true := by
  simp [Char.isAlphanum, h]

theorem isAlphanum_toString_nat (n : Nat) : (toString n).toList.all Char.isAlphanum = true := by
  apply List.all_eq_true.mpr
  intro c hc
  exact isAlphanum_of_isDigit (Text.isDigit_of_mem_toString hc)

theorem toString_nat_ne_word {n : Nat} {w : List Char} (c : Char) (hc : c ∈ w)
    (hd : c.isDigit = false) : (toString n).toList ≠ w := by
  rintro rfl
  rw [Text.isDigit_of_mem_toString hc] at hd
  cases hd

theorem number?_toString (n : Int64) :
    number? (toString n.toInt).toList rest = some (.int n, rest) := by
  have hbounds : int64Bounds.1 ≤ n.toInt ∧ n.toInt ≤ int64Bounds.2 :=
    ⟨n.minValue_le_toInt, n.toInt_le⟩
  rw [number?, Text.integerWithin?_toString hbounds, Option.map_some, Int64.ofInt_toInt]

theorem read?_int (n : Int64) (hr : Apart rest) :
    read? ((toString n.toInt).toList ++ rest) = some (.int n, rest) := by
  have hrest : ∀ c ∈ rest.head?, c.isAlphanum = false := fun c hc => (hr c hc).2
  rw [← @number?_toString rest n]
  by_cases hn : 0 ≤ n.toInt
  · rw [Text.toList_toString_of_nonneg hn,
      read?_word (Text.toString_nat_ne_nil _) (isAlphanum_toString_nat _) hrest, ofWord?,
      if_neg (toString_nat_ne_word 'N' (by decide) rfl),
      if_neg (toString_nat_ne_word 'H' (by decide) rfl)]
  · have hdigits := List.all_eq_true.mp (isAlphanum_toString_nat (-n.toInt).toNat)
    rw [Text.toList_toString_of_neg (Int.not_le.mp hn), List.cons_append, read?,
      Text.takeWhile_append_of_head? hdigits hrest, Text.dropWhile_append_of_head? hdigits hrest]

/-! ## Bytes -/

theorem hexValue?_digit {d : Nat} (h : d < 16) : hexValue? (Nat.digitChar d).toUpper = some d := by
  have hall : ∀ d : Fin 16, hexValue? (Nat.digitChar d).toUpper = some d.val := by decide
  exact hall ⟨d, h⟩

theorem hexDigits_eq (b : UInt8) : Datum.hexDigits b =
    [(Nat.digitChar (b.toNat / 16)).toUpper, (Nat.digitChar (b.toNat % 16)).toUpper] := rfl

theorem length_flatMap_hexDigits (bytes : List UInt8) :
    (bytes.flatMap Datum.hexDigits).length = 2 * bytes.length := by
  induction bytes with
  | nil => rfl
  | cons b bytes ih =>
    rw [List.flatMap_cons, List.length_append, ih, hexDigits_eq, List.length_cons]
    simp
    omega

theorem isSome_of_mem_hexDigits {bytes : List UInt8} {c : Char}
    (h : c ∈ bytes.flatMap Datum.hexDigits) : (hexValue? c).isSome = true := by
  obtain ⟨b, -, hc⟩ := List.mem_flatMap.mp h
  have hb := b.toNat_lt
  rw [hexDigits_eq, List.mem_cons, List.mem_singleton] at hc
  rcases hc with rfl | rfl
  · rw [hexValue?_digit (by omega)]
    rfl
  · rw [hexValue?_digit (by omega)]
    rfl

theorem bytes?_flatMap (bytes : List UInt8) :
    bytes? (bytes.flatMap Datum.hexDigits) = some bytes := by
  induction bytes with
  | nil => rfl
  | cons b bytes ih =>
    have hb := b.toNat_lt
    have hbyte : UInt8.ofNat (16 * (b.toNat / 16) + b.toNat % 16) = b := by
      rw [Nat.div_add_mod, UInt8.ofNat_toNat]
    rw [List.flatMap_cons, hexDigits_eq, List.cons_append, List.singleton_append, bytes?,
      hexValue?_digit (by omega), hexValue?_digit (by omega), ih]
    simp [hbyte]

theorem read?_blob (bytes : List UInt8) :
    read? ((Datum.blob bytes).literal.toList ++ rest) = some (.blob bytes, rest) := by
  have hdigits : '\'' ∉ bytes.flatMap Datum.hexDigits := by
    intro h
    have := isSome_of_mem_hexDigits h
    revert this
    decide
  have htext : (Datum.blob bytes).literal.toList ++ rest = "HEXTORAW".toList ++
      ('(' :: (Quoted.enclose '\'' (bytes.flatMap Datum.hexDigits) ++ ')' :: rest)) := by
    simp [Datum.literal, Quoted.enclose, Quoted.double_eq_self hdigits]
  have hclose : (')' :: rest).head? ≠ some '\'' := by simp
  have hquoted := Quoted.read_enclose hclose (bytes.flatMap Datum.hexDigits)
  rw [htext, read?_word (by decide) (by decide) (by simp), ofWord?, if_neg (by decide),
    if_pos rfl, raw?, hquoted]
  simp [bytes?_flatMap]

/-! ## Texts -/

theorem read?_text (s : String) (hr : Apart rest) :
    read? ((Datum.text s).literal.toList ++ rest) = some (.text s, rest) := by
  have hhead : rest.head? ≠ some '\'' := fun h => (hr '\'' h).1 rfl
  have hbody := Quoted.readBody_double hhead s.toList
  have htext : (Datum.text s).literal.toList ++ rest =
      '\'' :: (Quoted.double '\'' s.toList ++ '\'' :: rest) := by
    simp [Datum.literal, Quoted.literal, Quoted.enclose]
  rw [htext, read?, hbody]
  simp

end Literal

/-! ## Values -/

namespace Datum

/-- Every value but a float. -/
def Exact (d : Datum) : Prop := ∀ x, d ≠ .float x

/-- The value with a truth value as the number that stands for it. -/
def numbered : Datum → Datum
  | bool b => int (if b then 1 else 0)
  | d => d

theorem read?_literal {d : Datum} (hd : d.Exact) {rest : List Char} (hr : Literal.Apart rest) :
    Literal.read? (d.literal.toList ++ rest) = some (d.numbered, rest) := by
  cases d with
  | null => exact Literal.read?_word (by decide) (by decide) fun c hc => (hr c hc).2
  | bool b =>
    cases b with
    | true => exact Literal.read?_int 1 hr
    | false => exact Literal.read?_int 0 hr
  | int n => exact Literal.read?_int n hr
  | float x => exact absurd rfl (hd x)
  | text s => exact Literal.read?_text s hr
  | blob bytes => exact Literal.read?_blob bytes

theorem literal_eq_iff {d e : Datum} (hd : d.Exact) (he : e.Exact) :
    d.literal = e.literal ↔ d.numbered = e.numbered := by
  have hread : ∀ {d : Datum}, d.Exact → Literal.read? d.literal.toList = some (d.numbered, []) := by
    intro d hd
    have hnil : Literal.Apart [] := by simp [Literal.Apart]
    have := read?_literal hd hnil
    rwa [List.append_nil] at this
  constructor
  · intro h
    have hd' := hread hd
    rw [h, hread he] at hd'
    exact (Prod.mk.inj (Option.some.inj hd')).1.symm
  · intro h
    have hlit : ∀ d : Datum, d.numbered.literal = d.literal := by
      rintro (_ | b | _ | _ | _ | _) <;> try rfl
      cases b <;> rfl
    rw [← hlit d, h, hlit e]

/-- Whether the first value is a truth value and the second the number that stands for it. -/
def StandsAs (d e : Datum) : Prop := ∃ b, d = .bool b ∧ e = .int (if b then 1 else 0)

theorem numbered_eq_iff (d e : Datum) :
    d.numbered = e.numbered ↔ d = e ∨ d.StandsAs e ∨ e.StandsAs d := by
  have htruth : ∀ b c : Bool, (if b then (1 : Int64) else 0) = (if c then 1 else 0) ↔ b = c := by
    decide
  cases d <;> cases e <;> simp [numbered, StandsAs, htruth, eq_comm]

end Datum

/-- The value that a default is. An expression is none. -/
def Default.datum? : Default → Option Datum
  | null => some .null
  | bool b => some (.bool b)
  | integer n => some (.int n)
  | float x => some (.float x)
  | string s => some (.text s)
  | expression _ => none

theorem Default.sql_eq_literal {v : Default} {d : Datum} (h : v.datum? = some d) :
    v.sql = d.literal := by
  cases v <;> cases h <;> rfl

theorem Default.exists_datum? {v : Default} (h : ∀ sql, v ≠ .expression sql) :
    ∃ d, v.datum? = some d := by
  cases v with
  | expression sql => exact absurd rfl (h sql)
  | _ => exact ⟨_, rfl⟩

/-- A value that is no float is read back from its literal in front of any text apart from it,
bytes as two upper-case hexadecimal digits each. So two such values have the same literal exactly
if they are equal or one is the number that stands for the other. A default value that is no
expression is written as the literal of its value. -/
theorem literals_faithful :
    (∀ (d : Datum) (rest : List Char), d.Exact → Literal.Apart rest →
      Literal.read? (d.literal.toList ++ rest) = some (d.numbered, rest)) ∧
    (∀ bytes : List UInt8, ∃ digits : List Char,
      (Datum.blob bytes).literal = "HEXTORAW('" ++ String.ofList digits ++ "')" ∧
      digits.length = 2 * bytes.length ∧ ∀ c ∈ digits, (Literal.hexValue? c).isSome = true) ∧
    (∀ d e : Datum, d.Exact → e.Exact →
      (d.literal = e.literal ↔ d = e ∨ d.StandsAs e ∨ e.StandsAs d)) ∧
    ∀ v : Default, (∀ sql, v ≠ .expression sql) → ∃ d, v.datum? = some d ∧ v.sql = d.literal := by
  refine ⟨fun d rest hd hr => Datum.read?_literal hd hr, fun bytes => ?_, fun d e hd he => ?_,
    fun v hv => ?_⟩
  · exact ⟨bytes.flatMap Datum.hexDigits, rfl, Literal.length_flatMap_hexDigits bytes,
      fun c hc => Literal.isSome_of_mem_hexDigits hc⟩
  · rw [Datum.literal_eq_iff hd he, Datum.numbered_eq_iff]
  · obtain ⟨d, hd⟩ := Default.exists_datum? hv
    exact ⟨d, hd, Default.sql_eq_literal hd⟩

theorem literals_faithful_adverse :
    Literal.read? "'''it''s'''|| x".toList = some (.text "'it's'", "|| x".toList) ∧
    Literal.read? "HEXTORAW('DE000F'), 'A'".toList =
      some (.blob [0xDE, 0, 0x0F], ", 'A'".toList) ∧
    Literal.read? "-9223372036854775808)".toList = some (.int Int64.minValue, ")".toList) ∧
    (Datum.bool true).literal = (Datum.int 1).literal ∧
    (Datum.text "NULL").literal ≠ Datum.null.literal ∧
    (Default.string "it's").sql = (Datum.text "it's").literal := by
  obtain ⟨hread, -, hsame, hdefault⟩ := literals_faithful
  refine ⟨?_, ?_, ?_, ?_, ?_, ?_⟩
  · exact hread (.text "'it's'") "|| x".toList nofun (by decide)
  · exact hread (.blob [0xDE, 0, 0x0F]) ", 'A'".toList nofun (by decide)
  · exact hread (.int Int64.minValue) ")".toList nofun (by decide)
  · exact (hsame (.bool true) (.int 1) nofun nofun).mpr (.inr (.inl ⟨true, rfl, rfl⟩))
  · rw [ne_eq, hsame (.text "NULL") .null nofun nofun]
    simp [Datum.StandsAs]
  · obtain ⟨d, hd, hsql⟩ := hdefault (.string "it's") nofun
    cases hd
    exact hsql

end SqlSchema
