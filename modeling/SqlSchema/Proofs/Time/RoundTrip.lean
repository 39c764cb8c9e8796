import Mathlib.Data.List.Basic
import SqlSchema.Proofs.Text.Parts
import SqlSchema.Time.Reading

/-!
# Stored times, read back

The three formats in which the dialect stores dates and times write the same kind of text: a day,
a blank and a time of day, some of them with fixed parts. Such a text is never an internet
timestamp, since it has no offset, and the first of the lenient forms reads it back in full: the
numbers of two digits are padded, a year of four digits is followed by a hyphen, and a longer one
has the sign that lets the reader take all its digits.
-/

namespace SqlSchema

/-! ## Digits -/

theorem Text.skipBlanks_of_head? {s : List Char} (h : ∀ c ∈ s.head?, isBlank c = false) :
    skipBlanks s = s :=
  skipBlanks_append (s := "") (by decide) h

namespace TimeField

variable {width n : Nat}

theorem isDigit_of_mem_padded {c : Char} (h : c ∈ padded width n) : c.isDigit = true := by
  rcases List.mem_append.mp h with h | h
  · rw [List.eq_of_mem_replicate h]
    rfl
  · exact Nat.isDigit_of_mem_toDigits (by decide) (by decide) h

theorem padded_ne_nil : padded width n ≠ [] :=
  List.append_ne_nil_of_right_ne_nil _ Nat.toDigits_ne_nil

theorem exists_padded_eq_cons (width n : Nat) :
    ∃ d ds, padded width n = d :: ds ∧ d.isDigit = true := by
  obtain ⟨d, ds, hp⟩ := List.exists_cons_of_ne_nil (@padded_ne_nil width n)
  exact ⟨d, ds, hp, isDigit_of_mem_padded (hp ▸ List.mem_cons_self)⟩

theorem length_padded (h : (Nat.toDigits 10 n).length ≤ width) :
    (padded width n).length = width := by
  rw [padded, List.length_append, List.length_replicate]
  omega

theorem length_padded_two (hn : n < 100) : (padded 2 n).length = 2 :=
  length_padded ((Nat.length_toDigits_le_iff (by decide) (by decide)).mpr hn)

theorem length_padded_four (hn : n < 10000) : (padded 4 n).length = 4 :=
  length_padded ((Nat.length_toDigits_le_iff (by decide) (by decide)).mpr hn)

theorem ofDigitChars_padded : Nat.ofDigitChars 10 (padded width n) 0 = n := by
  rw [padded, Nat.ofDigitChars_append, Nat.ofDigitChars_replicate_zero, Nat.mul_zero,
    Nat.ofDigitChars_ten_toDigits]

theorem head?_padded_append (width n : Nat) (r : List Char) :
    ∀ c ∈ (padded width n ++ r).head?, c.isDigit = true := by
  obtain ⟨d, ds, hp, hd⟩ := exists_padded_eq_cons width n
  rw [hp]
  rintro c ⟨⟩
  exact hd

end TimeField

namespace LocalTime

open TimeField

variable {width n max : Nat} {r : List Char}

/-! ## Numbers -/

/-- Reading stops at the width or where the digits end, whichever is first. -/
theorem takeDigits_append {ds : List Char} (hds : ∀ c ∈ ds, c.isDigit = true)
    (hend : ds.length = max ∨ ds.length < max ∧ ∀ c ∈ r.head?, c.isDigit = false) (acc : Nat) :
    takeDigits max acc (ds ++ r) = (Nat.ofDigitChars 10 ds acc, r) := by
  induction ds generalizing max acc with
  | nil =>
    rw [List.nil_append, Nat.ofDigitChars_nil]
    cases max with
    | zero => rfl
    | succ max =>
      obtain h | ⟨-, h⟩ := hend
      · cases h
      · cases r with
        | nil => rfl
        | cons c r => rw [takeDigits, if_neg (by simp [h c rfl])]
  | cons d ds ih =>
    have hd := hds d List.mem_cons_self
    cases max with
    | zero => simp at hend
    | succ max =>
      rw [List.cons_append, takeDigits, if_pos hd, Nat.ofDigitChars_cons]
      refine ih (fun c hc => hds c (List.mem_cons_of_mem _ hc)) ?_ _
      simpa using hend

theorem number?_padded
    (hend : (padded width n).length = max ∨
      (padded width n).length < max ∧ ∀ c ∈ r.head?, c.isDigit = false) :
    number? max (padded width n ++ r) = some (n, r) := by
  have hhead : (padded width n ++ r).head?.any Char.isDigit = true := by
    obtain ⟨d, ds, hp, hd⟩ := exists_padded_eq_cons width n
    rw [hp]
    exact hd
  rw [number?, if_pos hhead, takeDigits_append (fun _ => isDigit_of_mem_padded) hend,
    ofDigitChars_padded]

theorem fixedNumber?_padded (hlen : (padded width n).length = width) :
    fixedNumber? width (padded width n ++ r) = some (n, r) := by
  have htake : (padded width n ++ r).take width = padded width n := List.take_left' hlen
  have hfits : width ≤ (padded width n ++ r).length := by
    rw [List.length_append]
    omega
  have hdigits : ((padded width n ++ r).take width).all Char.isDigit = true := by
    rw [htake]
    exact List.all_eq_true.mpr fun _ => isDigit_of_mem_padded
  rw [fixedNumber?, if_pos ⟨hfits, hdigits⟩,
    takeDigits_append (fun _ => isDigit_of_mem_padded) (.inl hlen), ofDigitChars_padded]

theorem skipBlanks_padded : Text.skipBlanks (padded width n ++ r) = padded width n ++ r :=
  Text.skipBlanks_of_head? fun c hc => Text.isBlank_of_isDigit (head?_padded_append width n r c hc)

theorem shortNumber?_padded (hn : n < 100) : shortNumber? (padded 2 n ++ r) = some (n, r) := by
  rw [shortNumber?, skipBlanks_padded, number?_padded (.inl (length_padded_two hn))]

/-! ## Years -/

theorem year?_padded : year? (padded width n ++ r) =
    (number? 4 (padded width n ++ r)).map fun (n, r) => ((n : Int), r) := by
  rw [year?, skipBlanks_padded]
  have hhead := head?_padded_append width n r
  split
  · rename_i s hs
    exact absurd (hhead '-' (by rw [hs]; rfl)) (by decide)
  · rename_i s hs
    exact absurd (hhead '+' (by rw [hs]; rfl)) (by decide)
  · rfl

theorem year?_yearText (y : Int) (r : List Char) :
    year? (yearText y ++ '-' :: r) = some (y, '-' :: r) := by
  unfold yearText
  by_cases hplain : 0 ≤ y ∧ y < 10000
  · have hlen : (padded 4 y.toNat).length = 4 := length_padded_four (by omega)
    have hy : (y.toNat : Int) = y := Int.toNat_of_nonneg hplain.1
    rw [if_pos hplain, year?_padded, number?_padded (.inl hlen)]
    simp only [Option.map_some, hy]
  · -- behind a sign the hyphen ends the digits, which are fewer than the characters left
    have hnumber : number? (padded 4 y.natAbs ++ '-' :: r).length (padded 4 y.natAbs ++ '-' :: r) =
        some (y.natAbs, '-' :: r) := by
      refine number?_padded (.inr ⟨?_, ?_⟩)
      · rw [List.length_append, List.length_cons]
        omega
      · intro c hc
        obtain rfl : '-' = c := by simpa using hc
        rfl
    rw [if_neg hplain]
    by_cases hneg : y < 0
    · have hy : -(y.natAbs : Int) = y := by omega
      rw [if_pos hneg, List.cons_append, year?, Text.skipBlanks_of_head? (by simp; decide)]
      simp only [hnumber, Option.map_some, hy]
    · have hy : (y.natAbs : Int) = y := by omega
      rw [if_neg hneg, List.cons_append, year?, Text.skipBlanks_of_head? (by simp; decide)]
      simp only [hnumber, Option.map_some, hy]

/-! ## Days and times of day -/

def text (t : LocalTime) : List Char :=
  yearText t.year ++ '-' :: (padded 2 t.month ++ '-' :: (padded 2 t.day ++ ' ' ::
    (padded 2 t.hour ++ ':' :: (padded 2 t.minute ++ ':' :: padded 2 t.second))))

variable {t : LocalTime}

theorem bounds_of_isValid (h : t.isValid = true) :
    t.month < 100 ∧ t.day < 100 ∧ t.hour < 100 ∧ t.minute < 100 ∧ t.second < 100 := by
  have hmonth : daysInMonth t.year t.month ≤ 31 := by
    unfold daysInMonth
    split_ifs <;> decide
  simp only [isValid, Bool.and_eq_true, decide_eq_true_eq] at h
  omega

theorem expect?_self (c : Char) (r : List Char) : expect? c (c :: r) = some r := if_pos rfl

/-- Read as an internet timestamp, the text ends where the offset should stand, or it begins
with a sign. -/
theorem ofInternet?_text (h : t.isValid = true) : ofInternet? t.text = none := by
  obtain ⟨hmonth, hday, hhour, hminute, hsecond⟩ := bounds_of_isValid h
  unfold text yearText
  by_cases hplain : 0 ≤ t.year ∧ t.year < 10000
  · have hyear : (padded 4 t.year.toNat).length = 4 := length_padded_four (by omega)
    have htwo : ∀ {n : Nat}, n < 100 → ∀ r, fixedNumber? 2 (padded 2 n ++ r) = some (n, r) :=
      fun hn _ => fixedNumber?_padded (length_padded_two hn)
    have hlast : fixedNumber? 2 (padded 2 t.second) = some (t.second, []) := by
      simpa using htwo hsecond []
    have hblank : ∀ r, (expect? 'T' (' ' :: r) <|> expect? 't' (' ' :: r) <|> some r) = some r :=
      fun _ => rfl
    simp only [if_pos hplain, ofInternet?, fixedNumber?_padded hyear, expect?_self,
      htwo hmonth, htwo hday, htwo hhour, htwo hminute, hlast, hblank, skipFraction?,
      skipOffset?, Option.bind_eq_bind, Option.bind_some, Option.bind_none]
  · have hsign : ∀ s, fixedNumber? 4 ((if t.year < 0 then '-' else '+') :: s) = none := by
      intro s
      split <;> exact if_neg (by simp)
    rw [if_neg hplain, ofInternet?, List.cons_append, hsign]
    rfl

theorem day?_append (h : t.isValid = true) (r : List Char) :
    day? (yearText t.year ++ '-' :: (padded 2 t.month ++ '-' :: (padded 2 t.day ++ r))) =
      some ({ year := t.year, month := t.month, day := t.day }, r) := by
  obtain ⟨hmonth, hday, -⟩ := bounds_of_isValid h
  simp only [day?, year?_yearText, expect?_self, shortNumber?_padded hmonth,
    shortNumber?_padded hday, Option.bind_eq_bind, Option.bind_some]

theorem timeOn?_text (h : t.isValid = true) (on : LocalTime) :
    timeOn? on (padded 2 t.hour ++ ':' :: (padded 2 t.minute ++ ':' :: padded 2 t.second)) =
      some ({ on with hour := t.hour, minute := t.minute, second := t.second }, []) := by
  obtain ⟨-, -, hhour, hminute, hsecond⟩ := bounds_of_isValid h
  have hlast : shortNumber? (padded 2 t.second) = some (t.second, []) := by
    simpa using shortNumber?_padded (r := []) hsecond
  simp only [timeOn?, expect?_self, shortNumber?_padded hhour, shortNumber?_padded hminute, hlast,
    skipFraction?, Option.bind_eq_bind, Option.bind_some]

theorem ofDayAndTime?_text (h : t.isValid = true) :
    ofDayAndTime? (fun s => some (Text.skipBlanks s)) t.text = some t := by
  have hskip : ∀ s, Text.skipBlanks (' ' :: (padded 2 t.hour ++ s)) = padded 2 t.hour ++ s :=
    fun s => skipBlanks_padded (r := s)
  simp only [ofDayAndTime?, text, day?_append h, hskip, timeOn?_text h, Option.bind_eq_bind,
    Option.bind_some, List.isEmpty_nil, if_true]
  exact if_pos h

theorem head?_text (t : LocalTime) : ∀ c ∈ t.text.head?, Text.isBlank c = false := by
  unfold text yearText
  split
  · intro c hc
    exact Text.isBlank_of_isDigit (head?_padded_append _ _ _ c hc)
  · rw [List.cons_append, List.head?_cons]
    rintro c ⟨⟩
    split <;> decide

theorem getLast?_text (t : LocalTime) : ∀ c ∈ t.text.getLast?, Text.isBlank c = false := by
  have hsplit : t.text = (yearText t.year ++ '-' :: (padded 2 t.month ++ '-' :: (padded 2 t.day ++
      ' ' :: (padded 2 t.hour ++ ':' :: (padded 2 t.minute ++ [':']))))) ++ padded 2 t.second := by
    simp [text]
  intro c hc
  rw [hsplit, List.getLast?_append_of_ne_nil _ padded_ne_nil] at hc
  exact Text.isBlank_of_isDigit (isDigit_of_mem_padded (List.mem_of_getLast? hc))

theorem trimWhile_text (t : LocalTime) : Text.trimWhile Text.isBlank t.text = t.text := by
  have h := Text.trimWhile_between (a := []) (b := []) (by simp) (by simp) (head?_text t)
    (getLast?_text t)
  rwa [List.nil_append, List.append_nil] at h

theorem ofString?_text (h : t.isValid = true) : ofString? (String.ofList t.text) = some t := by
  rw [ofString?, String.toList_ofList, trimWhile_text, ofInternet?_text h, ofDayAndTime?_text h]
  rfl

/-! ## Every time that is read exists -/

/-- Nothing but times that exist. -/
def OnlyValid (found : Option LocalTime) : Prop := ∀ t ∈ found, t.isValid = true

theorem OnlyValid.bind {α : Type} {o : Option α} {f : α → Option LocalTime}
    (h : ∀ a, OnlyValid (f a)) : OnlyValid (o >>= f) := by
  intro t ht
  obtain ⟨a, -, hf⟩ := Option.bind_eq_some_iff.mp ht
  exact h a t hf

theorem OnlyValid.orElse {a b : Option LocalTime} (ha : OnlyValid a) (hb : OnlyValid b) :
    OnlyValid (a <|> b) := by
  cases a with
  | none => exact hb
  | some _ => exact ha

theorem onlyValid_checked (b : Bool) (t : LocalTime) :
    OnlyValid (if b then checked t else none) := by
  intro u hu
  cases b with
  | false => cases hu
  | true =>
    obtain ⟨ht, rfl⟩ : t.isValid = true ∧ t = u := by simpa [checked] using hu
    exact ht

theorem onlyValid_ofInternet? (s : List Char) : OnlyValid (ofInternet? s) := by
  unfold ofInternet?
  repeat refine .bind fun _ => ?_
  exact onlyValid_checked _ _

theorem onlyValid_ofDayAndTime? (skip : List Char → Option (List Char)) (s : List Char) :
    OnlyValid (ofDayAndTime? skip s) :=
  .bind fun _ => .bind fun _ => .bind fun _ => onlyValid_checked _ _

theorem onlyValid_ofDay? (s : List Char) : OnlyValid (ofDay? s) :=
  .bind fun _ => onlyValid_checked _ _

theorem isValid_of_ofString? {s : String} (h : ofString? s = some t) : t.isValid = true := by
  have honly : OnlyValid (ofString? s) :=
    .orElse (onlyValid_ofInternet? _) (.orElse (onlyValid_ofDayAndTime? _ _)
      (.orElse (onlyValid_ofDayAndTime? _ _) (onlyValid_ofDay? _)))
  exact honly t h

end LocalTime

/-! ## The formats -/

namespace TimeFormat

/-- A format that writes the day and the time of day that `g` makes of a time. -/
structure Stores (f : TimeFormat) (g : LocalTime → LocalTime) : Prop where
  render : ∀ t, f.render? t = some (String.ofList (g t).text)
  valid : ∀ {t : LocalTime}, t.isValid = true → (g t).isValid = true
  again : ∀ t, g (g t) = g t

theorem stores_datetime : Stores datetime id where
  render t := by simp [render?, datetime, ymd, hms, TimeField.render?, LocalTime.text]
  valid h := h
  again _ := rfl

theorem stores_date : Stores date fun t => { year := t.year, month := t.month, day := t.day } where
  render t := by
    have hzero : TimeField.padded 2 0 = ['0', '0'] := rfl
    simp [render?, date, ymd, TimeField.render?, LocalTime.text, hzero]
  valid h := by
    simp only [LocalTime.isValid, Bool.and_eq_true, decide_eq_true_eq] at h ⊢
    omega
  again _ := rfl

theorem stores_time : Stores time fun t => { t with year := 1900, month := 1, day := 1 } where
  render t := by
    have hyear : TimeField.yearText 1900 = ['1', '9', '0', '0'] := rfl
    have hone : TimeField.padded 2 1 = ['0', '1'] := rfl
    simp [render?, time, hms, TimeField.render?, LocalTime.text, hyear, hone]
  valid h := by
    simp only [LocalTime.isValid, Bool.and_eq_true, decide_eq_true_eq] at h ⊢
    have hdays : 1 ≤ daysInMonth 1900 1 := by decide
    omega
  again _ := rfl

theorem exists_stores {f : TimeFormat} (h : f ∈ [date, time, datetime]) : ∃ g, Stores f g := by
  simp only [List.mem_cons, List.not_mem_nil, or_false] at h
  rcases h with rfl | rfl | rfl
  · exact ⟨_, stores_date⟩
  · exact ⟨_, stores_time⟩
  · exact ⟨_, stores_datetime⟩

/-- What a format writes reads back as a time of which it writes the same. -/
theorem Stores.reads_back {f : TimeFormat} {g : LocalTime → LocalTime} (hf : Stores f g)
    {t : LocalTime} (ht : t.isValid = true) :
    ∃ s, f.render? t = some s ∧ LocalTime.ofString? s = some (g t) ∧ f.render? (g t) = some s := by
  refine ⟨_, hf.render t, LocalTime.ofString?_text (hf.valid ht), ?_⟩
  rw [hf.render, hf.again]

end TimeFormat

end SqlSchema
