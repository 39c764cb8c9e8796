import Mathlib.Data.List.Forall2
import SqlSchema.Operation.InsertId
import SqlSchema.Proofs.Session.Row
import SqlSchema.Proofs.Time.RoundTrip

/-!
# Reformatting results

What reformatting leaves of a result, column by column: a timestamp column whose text reads as a
time gets the text of that time, all else stays where it is. The columns are treated one after the
other, so what is true of one of them is composed along the list of names. In the formats of the
dialect a text that was written reads back, and a second pass finds nothing to change.
-/

namespace SqlSchema

theorem forall₂_comp {α β γ : Type} {R : α → β → Prop} {S : β → γ → Prop} {T : α → γ → Prop}
    (h : ∀ a b c, R a b → S b c → T a c) {l : List α} {m : List β} {n : List γ}
    (hl : List.Forall₂ R l m) (hm : List.Forall₂ S m n) : List.Forall₂ T l n := by
  induction hl generalizing n with
  | nil =>
    cases hm
    exact .nil
  | cons hab _ ih =>
    cases hm with
    | cons hbc hm => exact .cons (h _ _ _ hab hbc) (ih hm)

theorem eq_of_forall₂_forall₂ {α β : Type} {R : α → β → Prop} {S : β → β → Prop}
    (h : ∀ a b c, R a b → S b c → c = b) {l : List α} {m n : List β} (hl : List.Forall₂ R l m)
    (hm : List.Forall₂ S m n) : n = m := by
  induction hl generalizing n with
  | nil =>
    cases hm
    rfl
  | cons hab _ ih =>
    cases hm with
    | cons hbc hm => rw [h _ _ _ hab hbc, ih hm]

theorem exists_mapM {α β : Type} {f : α → Option β} {R : α → β → Prop}
    (h : ∀ a, ∃ b, f a = some b ∧ R a b) :
    ∀ l : List α, ∃ m, l.mapM f = some m ∧ List.Forall₂ R l m
  | [] => ⟨[], rfl, .nil⟩
  | a :: l => by
    obtain ⟨b, hb, hR⟩ := h a
    obtain ⟨m, hm, hl⟩ := exists_mapM h l
    exact ⟨b :: m, by rw [List.mapM_cons, hb, hm]; rfl, .cons hR hl⟩

namespace Timestamps

open LocalTime TimeFormat

variable {f : TimeFormat} {g : LocalTime → LocalTime} {names : List String}
  {c d e : String × Datum}

/-! ## One column -/

/-- The time that a value is the text of, if it is text that can be read as one. -/
def timeOf? (value : Datum) : Option LocalTime := value.asText?.bind ofString?

/-- A column before and after the columns of the given names were reformatted: text that reads
as a time is replaced by the text of that time, anything else is kept. -/
inductive Reformatted (f : TimeFormat) (names : List String) :
    String × Datum → String × Datum → Prop
  | written {name : String} {value : Datum} {t : LocalTime} {s : String}
      (hname : names.any (Text.sameIgnoringCase name) = true) (htime : timeOf? value = some t)
      (htext : f.render? t = some s) : Reformatted f names (name, value) (name, .text s)
  | kept {c : String × Datum}
      (h : names.any (Text.sameIgnoringCase c.1) = true → timeOf? c.2 = none) :
      Reformatted f names c c

theorem Reformatted.fst_eq (h : Reformatted f names c d) : d.1 = c.1 := by
  cases h <;> rfl

theorem isValid_of_timeOf? {value : Datum} {t : LocalTime} (h : timeOf? value = some t) :
    t.isValid = true := by
  obtain ⟨s, -, hs⟩ := Option.bind_eq_some_iff.mp h
  exact isValid_of_ofString? hs

/-- What was written for a time is read, and written again, as it stands. -/
theorem reads_written (hf : Stores f g) {value : Datum} {t u : LocalTime} {s : String}
    (ht : timeOf? value = some t) (hs : f.render? t = some s) (hu : timeOf? (.text s) = some u) :
    f.render? u = some s := by
  obtain ⟨w, hw, hread, hagain⟩ := hf.reads_back (isValid_of_timeOf? ht)
  obtain rfl := Option.some.inj (hw.symm.trans hs)
  obtain rfl := Option.some.inj (hread.symm.trans hu)
  exact hagain

theorem Reformatted.settled (hf : Stores f g) (h : Reformatted f names c d)
    (h' : Reformatted f names d e) : e = d := by
  cases h' with
  | kept _ => rfl
  | written hname hu hw =>
    cases h with
    | written _ ht hs =>
      obtain rfl := Option.some.inj ((reads_written hf ht hs hu).symm.trans hw)
      rfl
    | kept hkept =>
      rw [hkept hname] at hu
      cases hu

theorem Reformatted.cons (hf : Stores f g) {name : String} (h : Reformatted f [name] c d)
    (h' : Reformatted f names d e) : Reformatted f (name :: names) c e := by
  have hany : ∀ n : String, (name :: names).any (Text.sameIgnoringCase n) =
      ([name].any (Text.sameIgnoringCase n) || names.any (Text.sameIgnoringCase n)) := by simp
  cases h with
  | written hname ht hs =>
    have hname' := (hany _).trans (Bool.or_eq_true_iff.mpr (.inl hname))
    cases h' with
    | written _ hu hw =>
      -- a later name of the list is the same up to case, and finds the text that was written
      obtain rfl := Option.some.inj ((reads_written hf ht hs hu).symm.trans hw)
      exact .written hname' ht hs
    | kept _ => exact .written hname' ht hs
  | kept hkept =>
    cases h' with
    | written hname ht hs =>
      exact .written ((hany _).trans (Bool.or_eq_true_iff.mpr (.inr hname))) ht hs
    | kept hkept' =>
      refine .kept fun hname => ?_
      rw [hany, Bool.or_eq_true_iff] at hname
      exact hname.elim hkept hkept'

/-! ## Rows -/

theorem time?_eq_bind (row : Row) (name : String) : time? row name = (row.get? name).bind timeOf? :=
  Option.bind_assoc _ _ _

theorem exists_reformatColumn? (hf : Stores f g) (row : Row) (name : String) :
    ∃ new, reformatColumn? f row name = some new ∧
      List.Forall₂ (Reformatted f [name]) row.columns new.columns := by
  have hread : ∀ c ∈ row.columns, [name].any (Text.sameIgnoringCase c.1) = true →
      time? row name = timeOf? c.2 := by
    intro c hc hname
    rw [List.any_cons, List.any_nil, Bool.or_false] at hname
    rw [time?_eq_bind, Row.get?_of_same hc hname, Option.bind_some]
  cases htime : time? row name with
  | none =>
    refine ⟨row, by rw [reformatColumn?, htime], List.forall₂_same.mpr fun c hc => .kept ?_⟩
    intro hname
    rw [← hread c hc hname, htime]
  | some t =>
    have hthere : (row.get? name).isSome := by
      rw [time?_eq_bind] at htime
      obtain ⟨value, hvalue, -⟩ := Option.bind_eq_some_iff.mp htime
      rw [hvalue]
      rfl
    refine ⟨row.set name (.text (String.ofList (g t).text)), ?_, ?_⟩
    · simp only [reformatColumn?, htime, hf.render t, Option.map_some]
    · rw [Row.columns_set hthere, List.forall₂_map_right_iff, List.forall₂_same]
      intro c hc
      have hasked : [name].any (Text.sameIgnoringCase c.1) = Text.sameIgnoringCase c.1 name :=
        Bool.or_false _
      split
      · rename_i hname
        rw [← hasked] at hname
        exact .written hname ((hread c hc hname).symm.trans htime) (hf.render t)
      · rename_i hname
        exact .kept fun h => absurd (hasked.symm.trans h) hname

theorem exists_foldlM (hf : Stores f g) : ∀ (names : List String) (row : Row),
    ∃ new, names.foldlM (reformatColumn? f) row = some new ∧
      List.Forall₂ (Reformatted f names) row.columns new.columns
  | [], row => ⟨row, rfl, List.forall₂_same.mpr fun _ _ => .kept (by simp)⟩
  | name :: names, row => by
    obtain ⟨mid, hmid, hfirst⟩ := exists_reformatColumn? hf row name
    obtain ⟨new, hnew, hrest⟩ := exists_foldlM hf names mid
    refine ⟨new, ?_, forall₂_comp (fun _ _ _ h h' => h.cons hf h') hfirst hrest⟩
    rw [List.foldlM_cons, hmid]
    exact hnew

def ReformattedRow (f : TimeFormat) (row new : Row) : Prop :=
  List.Forall₂ (Reformatted f columns) row.columns new.columns

theorem ReformattedRow.names_eq {row new : Row} (h : ReformattedRow f row new) :
    new.names = row.names := by
  rw [Row.names, Row.names, ← List.forall₂_eq_eq_eq, List.forall₂_map_left_iff,
    List.forall₂_map_right_iff]
  exact h.flip.imp fun _ _ => Reformatted.fst_eq

theorem ReformattedRow.settled (hf : Stores f g) {row new again : Row}
    (h : ReformattedRow f row new) (h' : ReformattedRow f new again) : again = new := by
  have hcolumns : again.columns = new.columns :=
    eq_of_forall₂_forall₂ (fun _ _ _ h h' => h.settled hf h') h h'
  cases again
  cases new
  cases hcolumns
  rfl

/-! ## Results -/

theorem exists_reformat? (hf : Stores f g) (rows : List Row) :
    ∃ out, reformat? f rows = some out ∧ List.Forall₂ (ReformattedRow f) rows out :=
  exists_mapM (fun row => exists_foldlM hf columns row) rows

/-- Reformatting in a format of the dialect always gives a result. It has the rows and the columns
of before, and only timestamps that can be read are rewritten. It is settled: reformatting it again
changes nothing, since what the format writes for any time reads back as a time of which it
writes the same. -/
theorem reformat_settles {f : TimeFormat} (hf : f ∈ [date, TimeFormat.time, datetime])
    (rows : List Row) :
    (∃ out, reformat? f rows = some out ∧
      out.map Row.names = rows.map Row.names ∧
      List.Forall₂ (fun row new => List.Forall₂ (Reformatted f columns) row.columns new.columns)
        rows out ∧
      reformat? f out = some out) ∧
    ∀ t : LocalTime, t.isValid = true → ∃ s u,
      f.render? t = some s ∧ ofString? s = some u ∧ f.render? u = some s := by
  obtain ⟨g, hg⟩ := exists_stores hf
  refine ⟨?_, fun t ht => ?_⟩
  · obtain ⟨out, hout, hrows⟩ := exists_reformat? hg rows
    obtain ⟨again, hagain, hsecond⟩ := exists_reformat? hg out
    have hsame : again = out :=
      eq_of_forall₂_forall₂ (fun _ _ _ h h' => h.settled hg h') hrows hsecond
    refine ⟨out, hout, ?_, hrows, hsame ▸ hagain⟩
    rw [← List.forall₂_eq_eq_eq, List.forall₂_map_left_iff, List.forall₂_map_right_iff]
    exact hrows.flip.imp fun _ _ => ReformattedRow.names_eq
  · obtain ⟨s, hs, hread, hagain⟩ := hg.reads_back ht
    exact ⟨s, g t, hs, hread, hagain⟩

/-- A leap second loses its fraction and its offset, a year of five digits gets its sign, and what
was written for them is left alone by the second pass. So is a year before the first. -/
theorem reformat_settles_leap_second :
    let row := Row.ofList [("CREATED_AT", .text " 2016-12-31T23:59:60.75+05:30 "),
      ("Updated_At", .text "+12024-2-29"), ("name", .text "2024-01-01"), ("deleted_at", .int 0)]
    let new := [("CREATED_AT", Datum.text "2016-12-31 23:59:60"),
      ("Updated_At", .text "+12024-02-29 00:00:00"), ("name", .text "2024-01-01"),
      ("deleted_at", .int 0)]
    let early : LocalTime := { year := -44, month := 3, day := 15, hour := 12 }
    datetime ∈ [date, TimeFormat.time, datetime] ∧ early.isValid = true ∧
      (∃ out, reformat? datetime [row] = some out ∧ out.map Row.columns = [new] ∧
        reformat? datetime out = some out) ∧
      ∃ u, datetime.render? early = some "-0044-03-15 12:00:00" ∧
        ofString? "-0044-03-15 12:00:00" = some u ∧
        datetime.render? u = some "-0044-03-15 12:00:00" := by
  intro row new early
  have hmem : datetime ∈ [date, TimeFormat.time, datetime] := by simp
  have hearly : early.isValid = true := by decide
  obtain ⟨⟨out, hout, -, -, hagain⟩, htimes⟩ := reformat_settles hmem [row]
  have hnew : (reformat? datetime [row]).map (·.map Row.columns) = some [new] := by rfl
  rw [hout] at hnew
  obtain ⟨s, u, hs, hread, hsame⟩ := htimes early hearly
  have htext : datetime.render? early = some "-0044-03-15 12:00:00" := by decide
  obtain rfl := Option.some.inj (htext.symm.trans hs)
  exact ⟨hmem, hearly, ⟨out, hout, Option.some.inj hnew, hagain⟩, u, hs, hread, hsame⟩

end Timestamps

end SqlSchema
