import SqlSchema.Proofs.Sql.Page
import SqlSchema.Proofs.Sql.Token

/-!
# Queries that select from something

A query is given something to select from if no `FROM` stands between blanks in its text. What
counts in SQL are its tokens: a `FROM` in quotes or in parentheses is not its own, and one of its
own may have something other than blanks around it. The text is read from left to right, with the
quote and the parentheses that are open; that agrees with reading its tokens. The two notions of a
`FROM` are compared.
-/

namespace SqlSchema

/-- Where a character stands: outside quotes or within, and in how many parentheses. -/
inductive Place
  | plain (depth : Nat)
  | quoted (quote : Char) (depth : Nat)
  deriving DecidableEq

namespace Place

def after : Place → Char → Place
  | plain depth, c =>
    if Token.isQuote c then quoted c depth
    else if c = '(' then plain (depth + 1)
    -- one too many closes nothing
    else if c = ')' then plain (depth - 1)
    else plain depth
  | quoted q depth, c => if c = q then plain depth else quoted q depth

theorem after_quoted_other {q c : Char} (h : c ≠ q) (depth : Nat) :
    (quoted q depth).after c = quoted q depth := by
  rw [after, if_neg h]

theorem after_plain_quote {q : Char} (h : Token.isQuote q = true) (depth : Nat) :
    (plain depth).after q = quoted q depth := by
  rw [after, if_pos h]

theorem after_plain {c : Char} (hq : Token.isQuote c = false) (hopen : c ≠ '(') (hclose : c ≠ ')')
    (depth : Nat) : (plain depth).after c = plain depth := by
  rw [after, if_neg (by simp [hq]), if_neg hopen, if_neg hclose]

theorem after_blank {c : Char} (h : Text.isBlank c = true) (depth : Nat) :
    (plain depth).after c = plain depth := by
  have hne : ∀ d, Text.isBlank d = false → c ≠ d := by
    rintro d hd rfl
    rw [h] at hd
    cases hd
  have hq : Token.isQuote c = false := by
    simp [Token.isQuote, hne '"' (by decide), hne '\'' (by decide)]
  exact after_plain hq (hne '(' (by decide)) (hne ')' (by decide)) depth

theorem after_word {c : Char} (h : Token.isWordChar c = true) (depth : Nat) :
    (plain depth).after c = plain depth := by
  apply after_plain (Token.isQuote_of_isWordChar h)
  · rintro rfl
    revert h
    decide
  · rintro rfl
    revert h
    decide

theorem foldl_after_word (depth : Nat) : ∀ {w : List Char}, (∀ c ∈ w, Token.isWordChar c = true) →
    w.foldl after (plain depth) = plain depth
  | [], _ => rfl
  | c :: w, h => by
    rw [List.foldl_cons, after_word (h c List.mem_cons_self)]
    exact foldl_after_word depth fun d hd => h d (List.mem_cons_of_mem c hd)

end Place

namespace FromClause

/-! ## The word in a text -/

/-- The word stands in the text in some case, and what stands before and behind it is as wanted. -/
def Stands (P : List Char → List Char → Prop) (s : List Char) : Prop :=
  ∃ a w b, s = a ++ w ++ b ∧ w.map Char.toUpper = "FROM".toList ∧ P a b

def Spaced (a b : List Char) : Prop :=
  (∃ c ∈ a.getLast?, Text.isBlank c = true) ∧ ∃ c ∈ b.head?, Text.isBlank c = true

/-- No character of a word on either side. -/
def Delimited (a b : List Char) : Prop :=
  (∀ c ∈ a.getLast?, Token.isWordChar c = false) ∧ ∀ c ∈ b.head?, Token.isWordChar c = false

/-- Neither quotes nor parentheses are open behind a text that starts at a place. -/
def OuterFrom (p : Place) (a : List Char) : Prop := a.foldl Place.after p = .plain 0

instance (p : Place) (a : List Char) : Decidable (OuterFrom p a) :=
  inferInstanceAs (Decidable (_ = _))

abbrev Outer (a : List Char) : Prop := OuterFrom (.plain 0) a

/-- A `FROM` of the query itself: a word, outside quotes and parentheses. The text starts at a
place. -/
def OwnFrom (p : Place) (s : List Char) : Prop :=
  Stands (fun a b => Delimited a b ∧ OuterFrom p a) s

abbrev Own (s : List Char) : Prop := OwnFrom (.plain 0) s

theorem isWordChar_of_isBlank {c : Char} (h : Text.isBlank c = true) :
    Token.isWordChar c = false := by
  by_contra hw
  rw [Token.isBlank_of_isWordChar (by simpa using hw)] at h
  cases h

theorem Spaced.delimited {a b : List Char} (h : Spaced a b) : Delimited a b := by
  obtain ⟨⟨c, hc, hcb⟩, d, hd, hdb⟩ := h
  constructor
  · intro c' hc'
    rw [Option.mem_unique hc' hc]
    exact isWordChar_of_isBlank hcb
  · intro d' hd'
    rw [Option.mem_unique hd' hd]
    exact isWordChar_of_isBlank hdb

theorem spaced_iff (s : List Char) : Stands Spaced s ↔
    Stands (fun a b => Spaced a b ∧ Outer a) s ∨ Stands (fun a b => Spaced a b ∧ ¬ Outer a) s := by
  constructor
  · rintro ⟨a, w, b, hs, hw, h⟩
    by_cases ho : Outer a
    · exact .inl ⟨a, w, b, hs, hw, h, ho⟩
    · exact .inr ⟨a, w, b, hs, hw, h, ho⟩
  · rintro (⟨a, w, b, hs, hw, h, -⟩ | ⟨a, w, b, hs, hw, h, -⟩)
    · exact ⟨a, w, b, hs, hw, h⟩
    · exact ⟨a, w, b, hs, hw, h⟩

theorem own_of_spaced {s : List Char} (h : Stands (fun a b => Spaced a b ∧ Outer a) s) : Own s := by
  obtain ⟨a, w, b, hs, hw, hspaced, ho⟩ := h
  exact ⟨a, w, b, hs, hw, hspaced.delimited, ho⟩

/-! ## Finding the word between blanks -/

theorem stripBlanks?_isSome_iff (s : List Char) :
    (Text.stripBlanks? s).isSome = true ↔ ∃ c ∈ s.head?, Text.isBlank c = true := by
  cases s with
  | nil => simp [Text.stripBlanks?]
  | cons c r =>
    by_cases h : Text.isBlank c = true
    · simp [Text.stripBlanks?, h]
    · simp [Text.stripBlanks?, h]

/-- The letters of the word have no forms but their two cases. -/
theorem stripWord?_iff : ∀ {word s r : List Char}, 'S' ∉ word → 'K' ∉ word →
    (Text.stripWord? word s = some r ↔ ∃ w, s = w ++ r ∧ w.map Char.toUpper = word)
  | [], s, r, _, _ => by simp [Text.stripWord?]
  | l :: word, [], r, _, _ => by simp [Text.stripWord?]
  | l :: word, c :: s, r, hs, hk => by
    rw [List.mem_cons, not_or] at hs hk
    have ih := stripWord?_iff (s := s) (r := r) hs.2 hk.2
    have hform : Text.isLetterForm l c = true ↔ c.toUpper = l := by
      simp [Text.isLetterForm, Ne.symm hs.1, Ne.symm hk.1]
    rw [Text.stripWord?]
    by_cases hc : c.toUpper = l
    · rw [if_pos (hform.mpr hc), ih]
      constructor
      · rintro ⟨w, rfl, hw⟩
        exact ⟨c :: w, rfl, by rw [List.map_cons, hc, hw]⟩
      · rintro ⟨w, hw, hword⟩
        cases w with
        | nil => cases hword
        | cons d w =>
          obtain ⟨-, rfl⟩ := List.cons.inj hw
          exact ⟨w, rfl, (List.cons.inj hword).2⟩
    · rw [if_neg (mt hform.mp hc)]
      constructor
      · intro h
        cases h
      · rintro ⟨w, hw, hword⟩
        cases w with
        | nil => cases hword
        | cons d w =>
          obtain ⟨rfl, -⟩ := List.cons.inj hw
          exact absurd (List.cons.inj hword).1 hc

theorem isSome_strip_iff (r : List Char) :
    ((Text.stripWord? "FROM".toList r).bind Text.stripBlanks?).isSome = true ↔
      ∃ w b, r = w ++ b ∧ w.map Char.toUpper = "FROM".toList ∧
        ∃ c ∈ b.head?, Text.isBlank c = true := by
  have hstrip {b : List Char} : Text.stripWord? "FROM".toList r = some b ↔
      ∃ w, r = w ++ b ∧ w.map Char.toUpper = "FROM".toList := stripWord?_iff (by decide) (by decide)
  constructor
  · intro h
    obtain ⟨t, ht⟩ := Option.isSome_iff_exists.mp h
    obtain ⟨b, hb, hblank⟩ := Option.bind_eq_some_iff.mp ht
    obtain ⟨w, hr, hw⟩ := hstrip.mp hb
    have hsome : (Text.stripBlanks? b).isSome = true := by rw [hblank, Option.isSome_some]
    exact ⟨w, b, hr, hw, (stripBlanks?_isSome_iff b).mp hsome⟩
  · rintro ⟨w, b, hr, hw, hb⟩
    rw [hstrip.mpr ⟨w, hr, hw⟩, Option.bind_some]
    exact (stripBlanks?_isSome_iff b).mpr hb

theorem hasWord_iff (s : List Char) : Text.hasWord "FROM".toList s = true ↔ Stands Spaced s := by
  induction s with
  | nil =>
    constructor
    · intro h
      cases h
    · rintro ⟨a, w, b, hs, hw, -⟩
      simp only [List.nil_eq, List.append_eq_nil_iff] at hs
      simp [hs.1.2] at hw
  | cons c r ih =>
    rw [Text.hasWord, Bool.or_eq_true, Bool.and_eq_true, ih, isSome_strip_iff]
    constructor
    · rintro (⟨hc, w, b, rfl, hw, hb⟩ | ⟨a, w, b, rfl, hw, ⟨d, hd, hblank⟩, hb⟩)
      · exact ⟨[c], w, b, rfl, hw, ⟨c, rfl, hc⟩, hb⟩
      · refine ⟨c :: a, w, b, rfl, hw, ⟨d, ?_, hblank⟩, hb⟩
        rw [Option.mem_def] at hd ⊢
        rw [List.getLast?_cons, hd]
        rfl
    · rintro ⟨a, w, b, hs, hw, ⟨d, hd, hblank⟩, hb⟩
      cases a with
      | nil => cases hd
      | cons e a =>
        obtain ⟨rfl, rfl⟩ := List.cons.inj hs
        cases a with
        | nil =>
          -- the blank in front of the word is the first character
          cases hd
          exact .inl ⟨hblank, w, b, rfl, hw, hb⟩
        | cons e a =>
          refine .inr ⟨e :: a, w, b, rfl, hw, ⟨d, ?_, hblank⟩, hb⟩
          rw [Option.mem_def, List.getLast?_cons_cons] at hd
          exact hd

/-! ## The word among the tokens -/

theorem isWordChar_of_toUpper {c : Char} (h : c.toUpper.isAlphanum = true) :
    Token.isWordChar c = true := by
  by_cases hc : 'a'.val ≤ c.val ∧ c.val ≤ 'z'.val
  · have hlower : c.isLower = true :=
      Bool.and_eq_true_iff.mpr ⟨decide_eq_true hc.1, decide_eq_true hc.2⟩
    have hletters : (c.isUpper || c.isLower || c.isDigit) = true := by simp [hlower]
    have halphanum : c.isAlphanum = true := hletters
    simp [Token.isWordChar, halphanum]
  · have : c.toUpper = c := dif_neg hc
    rw [this] at h
    simp [Token.isWordChar, h]

theorem isWordChar_of_letters {w : List Char} (h : w.map Char.toUpper = "FROM".toList) :
    ∀ c ∈ w, Token.isWordChar c = true := by
  intro c hc
  have hmem : c.toUpper ∈ "FROM".toList := by
    rw [← h]
    exact List.mem_map_of_mem hc
  have hall : "FROM".toList.all Char.isAlphanum = true := by decide
  exact isWordChar_of_toUpper (List.all_eq_true.mp hall _ hmem)

theorem ne_nil_of_letters {w : List Char} (h : w.map Char.toUpper = "FROM".toList) : w ≠ [] := by
  rintro rfl
  cases h

/-- A character moves the place, unless it may belong to the word. -/
theorem ownFrom_cons {p : Place} {c : Char}
    (h : Token.isWordChar c = true → p ≠ .plain 0 ∧ p.after c ≠ .plain 0) (r : List Char) :
    OwnFrom p (c :: r) ↔ OwnFrom (p.after c) r := by
  constructor
  · rintro ⟨a, w, b, hs, hw, ⟨hbefore, hbehind⟩, ho⟩
    cases a with
    | nil =>
      cases w with
      | nil => exact absurd rfl (ne_nil_of_letters hw)
      | cons d w =>
        obtain ⟨rfl, -⟩ := List.cons.inj hs
        exact absurd ho (h (isWordChar_of_letters hw _ List.mem_cons_self)).1
    | cons d a =>
      obtain ⟨rfl, rfl⟩ := List.cons.inj hs
      refine ⟨a, w, b, rfl, hw, ⟨?_, hbehind⟩, ho⟩
      intro d hd
      apply hbefore
      rw [Option.mem_def] at hd ⊢
      rw [List.getLast?_cons, hd]
      rfl
  · rintro ⟨a, w, b, rfl, hw, ⟨hbefore, hbehind⟩, ho⟩
    refine ⟨c :: a, w, b, rfl, hw, ⟨?_, hbehind⟩, ho⟩
    intro d hd
    rw [Option.mem_def, List.getLast?_cons, Option.some_inj] at hd
    cases ha : a.getLast? with
    | some e =>
      rw [ha] at hd
      rw [← hd]
      exact hbefore e ha
    | none =>
      rw [ha] at hd
      rw [← hd]
      rw [List.getLast?_eq_none_iff.mp ha] at ho
      by_contra hc
      exact (h (by simpa using hc)).2 ho

theorem ownFrom_body {q : Char} (hq : Token.isQuote q = true) (depth : Nat) {s a rest : List Char}
    (h : Quoted.readBody q s = some (a, rest)) :
    OwnFrom (.quoted q depth) s ↔ OwnFrom (.plain depth) rest := by
  have hword : ∀ {p : Place}, Token.isWordChar q = true → p ≠ .plain 0 ∧ p.after q ≠ .plain 0 := by
    intro p hw
    rw [Token.isQuote_of_isWordChar hw] at hq
    cases hq
  have hclose : (Place.quoted q depth).after q = .plain depth := by
    rw [Place.after, if_pos rfl]
  have hother : ∀ {c : Char}, c ≠ q → ∀ r : List Char,
      OwnFrom (.quoted q depth) (c :: r) ↔ OwnFrom (.quoted q depth) r := by
    intro c hc r
    have hafter := Place.after_quoted_other hc depth
    rw [ownFrom_cons (fun _ => by rw [hafter]; simp), hafter]
  fun_induction Quoted.readBody q s generalizing a with
  | case1 => cases h
  | case2 =>
    cases h
    rw [ownFrom_cons hword, hclose]
  | case3 => cases h
  | case4 r ih =>
    obtain ⟨⟨b, u⟩, hb, hp⟩ := Option.map_eq_some_iff.mp h
    obtain ⟨-, rfl⟩ := Prod.mk.inj hp
    rw [ownFrom_cons hword, hclose, ownFrom_cons hword, Place.after_plain_quote hq]
    exact ih hb
  | case5 d r hd =>
    cases h
    rw [ownFrom_cons hword, hclose]
  | case6 c d r hc ih =>
    obtain ⟨⟨b, u⟩, hb, hp⟩ := Option.map_eq_some_iff.mp h
    obtain ⟨-, rfl⟩ := Prod.mk.inj hp
    rw [hother hc]
    exact ih hb

/-! The places along a word. -/

section Word

variable {depth : Nat} {v rest : List Char} (hne : v ≠ [])
  (hv : ∀ c ∈ v, Token.isWordChar c = true)

include hne hv

theorem not_delimited_word (b : List Char) : ¬ Delimited v b := by
  rintro ⟨h, -⟩
  have hlast := h _ (List.getLast?_eq_some_getLast hne)
  rw [hv _ (List.getLast_mem hne)] at hlast
  cases hlast

omit hne in
theorem eq_of_words {w b : List Char} (hw : ∀ c ∈ w, Token.isWordChar c = true)
    (hr : ∀ c ∈ rest.head?, Token.isWordChar c = false)
    (hb : ∀ c ∈ b.head?, Token.isWordChar c = false) (h : v ++ rest = w ++ b) : v = w := by
  have hdrop := congrArg (List.dropWhile Token.isWordChar) h
  rw [Text.dropWhile_append_of_head? hv hr, Text.dropWhile_append_of_head? hw hb] at hdrop
  rw [hdrop] at h
  exact List.append_cancel_right h

omit hne in
theorem outerFrom_word (a : List Char) :
    OuterFrom (.plain depth) (v ++ a) ↔ OuterFrom (.plain depth) a := by
  rw [OuterFrom, List.foldl_append, Place.foldl_after_word depth hv]
  rfl

/-- A whole word is read: it is the `FROM`, or the text behind it has one. -/
theorem ownFrom_word (hr : ∀ c ∈ rest.head?, Token.isWordChar c = false) :
    OwnFrom (.plain depth) (v ++ rest) ↔
      (depth = 0 ∧ v.map Char.toUpper = "FROM".toList) ∨ OwnFrom (.plain depth) rest := by
  constructor
  · rintro ⟨a, w, b, hs, hw, hd, ho⟩
    rw [List.append_assoc] at hs
    obtain ⟨u, rfl, hu⟩ | ⟨u, rfl, hu⟩ := List.append_eq_append_iff.mp hs
    · cases u with
      | nil =>
        rw [List.append_nil] at hd
        exact absurd hd (not_delimited_word hne hv b)
      | cons c u =>
        rw [outerFrom_word hv] at ho
        refine .inr ⟨c :: u, w, b, by rw [List.append_assoc, ← hu], hw, ⟨?_, hd.2⟩, ho⟩
        rw [← List.getLast?_append_of_ne_nil v (List.cons_ne_nil c u)]
        exact hd.1
    · by_cases ha : a = []
      · subst ha
        obtain rfl := eq_of_words hv (isWordChar_of_letters hw) hr hd.2 hu.symm
        exact .inl ⟨(Place.plain.inj ho), hw⟩
      · have hword : ∀ c ∈ a, Token.isWordChar c = true := fun c hc =>
          hv c (List.mem_append_left u hc)
        exact absurd hd (not_delimited_word ha hword b)
  · rintro (⟨rfl, hw⟩ | ⟨a, w, b, rfl, hw, hd, ho⟩)
    · exact ⟨[], v, rest, rfl, hw, ⟨by simp, hr⟩, rfl⟩
    · refine ⟨v ++ a, w, b, by simp, hw, ⟨?_, hd.2⟩, (outerFrom_word hv a).mpr ho⟩
      have ha : a ≠ [] := by
        rintro rfl
        cases w with
        | nil => exact ne_nil_of_letters hw rfl
        | cons c w =>
          have hc := hr c rfl
          rw [isWordChar_of_letters hw c List.mem_cons_self] at hc
          cases hc
      rw [List.getLast?_append_of_ne_nil v ha]
      exact hd.1

end Word

end FromClause

/-- Whether a `FROM` stands among tokens in as many parentheses as they start in. -/
def Token.selectsFrom (depth : Nat) : List Token → Bool
  | [] => false
  | word s :: ts =>
    (depth = 0 && s.toList.map Char.toUpper = "FROM".toList) || selectsFrom depth ts
  | symbol c :: ts =>
    if c = '(' then selectsFrom (depth + 1) ts
    else if c = ')' then selectsFrom (depth - 1) ts
    else selectsFrom depth ts
  | name _ :: ts | literal _ :: ts => selectsFrom depth ts

namespace FromClause

theorem selectsFrom_quoted (q : Char) (a : List Char) (depth : Nat) (ts : List Token) :
    Token.selectsFrom depth (Token.quoted q a :: ts) = Token.selectsFrom depth ts := by
  unfold Token.quoted
  split
  · rfl
  · rfl

theorem ownFrom_symbol {c : Char} (hq : Token.isQuote c = false) (hw : Token.isWordChar c = false)
    {r : List Char} {ts : List Token}
    (ih : ∀ depth, OwnFrom (.plain depth) r ↔ Token.selectsFrom depth ts = true) (depth : Nat) :
    OwnFrom (.plain depth) (c :: r) ↔ Token.selectsFrom depth (.symbol c :: ts) = true := by
  rw [ownFrom_cons (by simp [hw]), Token.selectsFrom]
  by_cases hopen : c = '('
  · rw [if_pos hopen, ← ih, hopen]
    rfl
  · by_cases hclose : c = ')'
    · rw [if_neg hopen, if_pos hclose, ← ih, hclose]
      rfl
    · rw [if_neg hopen, if_neg hclose, ← ih, Place.after_plain hq hopen hclose]

theorem ownFrom_run {c : Char} (hc : Token.isWordChar c = true) (depth : Nat) (r : List Char) :
    OwnFrom (.plain depth) (c :: r) ↔
      (depth = 0 ∧ (c :: r.takeWhile Token.isWordChar).map Char.toUpper = "FROM".toList) ∨
        OwnFrom (.plain depth) (r.dropWhile Token.isWordChar) := by
  have hsplit : c :: r = (c :: r.takeWhile Token.isWordChar) ++ r.dropWhile Token.isWordChar := by
    rw [List.cons_append, List.takeWhile_append_dropWhile]
  have hword : ∀ d ∈ c :: r.takeWhile Token.isWordChar, Token.isWordChar d = true := by
    intro d hd
    obtain rfl | hd := List.mem_cons.mp hd
    · exact hc
    · exact List.mem_takeWhile_imp hd
  rw [hsplit, ownFrom_word (List.cons_ne_nil _ _) hword]
  intro d hd
  have := List.head?_dropWhile_not Token.isWordChar r
  rw [Option.mem_def.mp hd] at this
  exact this

/-- Reading the characters with their places finds what reading the tokens does. -/
theorem ownFrom_iff {s : List Char} {ts : List Token} (h : Token.read? s = some ts)
    (depth : Nat) : OwnFrom (.plain depth) s ↔ Token.selectsFrom depth ts = true := by
  induction s using Token.read?.induct generalizing ts depth with
  | case1 =>
    rw [Token.read?_nil] at h
    cases h
    simp [OwnFrom, Stands, Token.selectsFrom]
  | case2 c r hb ih =>
    rw [Token.read?_blank hb] at h
    rw [ownFrom_cons (by simp [isWordChar_of_isBlank hb]), Place.after_blank hb, ih h]
  | case3 c r hb hq hbody =>
    rw [Token.read?_cons, if_neg hb, if_pos hq, hbody] at h
    cases h
  | case4 c r hb hq a rest hbody ih =>
    rw [Token.read?_cons, if_neg hb, if_pos hq, hbody] at h
    obtain ⟨us, hus, rfl⟩ := Option.map_eq_some_iff.mp h
    have hw : Token.isWordChar c ≠ true := fun hw => by
      rw [Token.isQuote_of_isWordChar hw] at hq
      cases hq
    rw [ownFrom_cons (absurd · hw), Place.after_plain_quote hq, ownFrom_body hq depth hbody, ih hus,
      selectsFrom_quoted]
  | case5 c r hb hq hw ih =>
    rw [Token.read?_cons, if_neg hb, if_neg hq, if_pos hw] at h
    obtain ⟨us, hus, rfl⟩ := Option.map_eq_some_iff.mp h
    rw [ownFrom_run hw, ih hus, Token.selectsFrom]
    simp
  | case6 c r hb hq hw ih =>
    rw [Token.read?_cons, if_neg hb, if_neg hq, if_neg hw] at h
    obtain ⟨us, hus, rfl⟩ := Option.map_eq_some_iff.mp h
    exact ownFrom_symbol (by simpa using hq) (by simpa using hw) (ih hus) depth

end FromClause

open FromClause

theorem Page.inner_eq_dual_iff (query : String) :
    inner query = query ++ " FROM dual" ↔ ¬ Stands Spaced query.toList := by
  have hne : query ≠ query ++ " FROM dual" := by
    intro h
    have := congrArg String.length h
    simp [String.length_append] at this
  rw [← hasWord_iff, inner, hasFrom]
  by_cases h : Text.hasWord "FROM".toList query.toList = true
  · rw [if_pos h]
    exact iff_of_false hne (not_not_intro h)
  · rw [if_neg h]
    exact iff_of_true rfl h

/-- A wrapped query gets something to select from exactly if no `FROM` stands between blanks, its
own or not. That meets the queries without a `FROM` of their own, and only those, if one of the
query's own stands between blanks. If none does, then one that is not its own has to stand between
blanks exactly if it has one of its own. -/
theorem Page.dual_appended_iff (p : Page) (hs : isSelect p.query = true)
    (hl : 0 < (p.limit.getD 0).toNat) :
    ∃ w, Window.read? p.sql = some w ∧
      (w.inner = p.query ∨ w.inner = p.query ++ " FROM dual") ∧
      (w.inner = p.query ++ " FROM dual" ↔ ¬ Stands Spaced p.query.toList) ∧
      ((w.inner = p.query ++ " FROM dual" ↔ ¬ Own p.query.toList) ↔
        Stands (fun a b => Spaced a b ∧ Outer a) p.query.toList ∨
          (Stands (fun a b => Spaced a b ∧ ¬ Outer a) p.query.toList ↔ Own p.query.toList)) ∧
      ∀ ts, Token.ofText? p.query = some ts →
        (Own p.query.toList ↔ Token.selectsFrom 0 ts = true) := by
  refine ⟨window p.query (p.limit.getD 0).toNat (p.offset.getD 0).toNat, ?_, ?_, ?_, ?_, ?_⟩
  · rw [sql_eq_window hs hl, Window.read?_sql]
  · rw [window, inner]
    split
    · exact .inl rfl
    · exact .inr rfl
  · exact inner_eq_dual_iff p.query
  · have hown := own_of_spaced (s := p.query.toList)
    rw [window, inner_eq_dual_iff, spaced_iff, not_iff_not]
    tauto
  · intro ts hts
    exact ownFrom_iff hts 0

theorem Page.dual_appended_iff_nested :
    ∃ w, Window.read? (sql { query := " select (select \" from \") from t", limit := some 2 }) =
        some w ∧
      w.inner = " select (select \" from \") from t" ∧
      Own " select (select \" from \") from t".toList := by
  obtain ⟨w, hr, hi, hd, -, -⟩ := dual_appended_iff
    { query := " select (select \" from \") from t", limit := some 2 } (by decide) (by decide)
  have ho : Stands (fun a b => Spaced a b ∧ Outer a) " select (select \" from \") from t".toList :=
    ⟨" select (select \" from \") ".toList, "from".toList, " t".toList, by decide, by decide,
      ⟨⟨' ', by decide⟩, ' ', by decide⟩, by decide⟩
  refine ⟨w, hr, hi.resolve_right ?_, own_of_spaced ho⟩
  rw [hd, not_not]
  exact (spaced_iff _).mpr (.inl ho)

/-- A `FROM` in a literal counts, and one in front of a quoted name does not. -/
theorem Page.dual_appended_astray :
    (sql { query := "SELECT 'sent from here'", limit := some 1 } =
        "SELECT a.* FROM (SELECT 'sent from here') a WHERE ROWNUM <= 1" ∧
      ∃ ts, Token.ofText? "SELECT 'sent from here'" = some ts ∧ Token.selectsFrom 0 ts = false) ∧
    sql { query := "SELECT id FROM\"t\"", limit := some 1 } =
        "SELECT a.* FROM (SELECT id FROM\"t\" FROM dual) a WHERE ROWNUM <= 1" ∧
      ∃ ts, Token.ofText? "SELECT id FROM\"t\"" = some ts ∧ Token.selectsFrom 0 ts = true := by
  have hliteral : Token.ofText? "SELECT 'sent from here'" =
      some [.word "SELECT", .literal "sent from here"] :=
    ((Token.closed_phrase ["SELECT"] (by decide)).append_reads
      (Token.reads_literal "sent from here")).ofText?
  -- the name follows the word at once, so its reading is not that of a text apart from it
  have hfrom : Token.read? ("FROM".toList ++ (Quoted.quote '"' "t").toList) =
      some [.word "FROM", .name "t"] := by
    have hname : Token.read? (Quoted.quote '"' "t").toList = some [.name "t"] :=
      (Token.reads_name "t").ofText?
    have hword : "FROM".toList.map Char.toUpper = "FROM".toList := by decide
    have hquote : ∀ c ∈ (Quoted.quote '"' "t").toList.head?, Token.isWordChar c = false := by
      intro c hc
      rw [Quoted.toList_quote, Quoted.enclose, List.head?_cons, Option.mem_some_iff] at hc
      rw [← hc]
      decide
    rw [Token.read?_word (ne_nil_of_letters hword) (isWordChar_of_letters hword) hquote, hname]
    rfl
  have hname : Token.ofText? "SELECT id FROM\"t\"" =
      some [.word "SELECT", .word "id", .word "FROM", .name "t"] := by
    have hs : "SELECT id FROM\"t\"".toList = (Token.phrase ["SELECT", "id"]).toList ++
        ("FROM".toList ++ (Quoted.quote '"' "t").toList) := by decide
    rw [Token.ofText?, hs, Token.closed_phrase ["SELECT", "id"] (by decide), hfrom]
    rfl
  exact ⟨⟨by decide, _, hliteral, by decide⟩, by decide, _, hname, by decide⟩

end SqlSchema
