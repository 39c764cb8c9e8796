import Mathlib.Data.List.DropRight
import SqlSchema.Proofs.Text.Integer
import SqlSchema.Sql.Page

/-!
# The rows of a page

The text of a page is read back as the query it wraps and the bounds on the row number.
The bounds are sums that stop at the greatest 64-bit number. Over any list of rows
shorter than that they keep exactly the rows behind the offset, up to the limit.
-/

namespace SqlSchema

/-- A wrapped query. Of its rows those up to number `last` are kept; if there is
a `first`, those numbered below it are left out. -/
structure Window where
  inner : String
  last : Nat
  first : Option Nat
  deriving DecidableEq

namespace Window

def sql (w : Window) : String :=
  match w.first with
  | none => Page.firstRows w.inner w.last
  | some first => Page.rowsBetween w.inner first w.last

def rows {α : Type} (w : Window) (rs : List α) : List α :=
  match w.first with
  | none => rs.take w.last
  | some first => (((rs.take w.last).zipIdx 1).filter fun r => first ≤ r.2).map (·.1)

/-- A number at the end of a text, behind `front`, and what stands before. -/
def bound? (front : String) (s : List Char) : Option (List Char × Nat) := do
  let n ← Text.natural? (s.rtakeWhile Char.isDigit)
  let r ← (s.rdropWhile Char.isDigit).dropSuffix? front.toList
  return (r, n)

/-- Reads a wrapped query from its end, since the inner query may contain anything. -/
def read? (s : String) : Option Window :=
  match bound? ") WHERE doctrine_rownum >= " s.toList with
  | some (r, first) => do
    let (r, last) ← bound? ") a WHERE rownum <= " r
    let inner ← r.dropPrefix?
      "SELECT * FROM (SELECT a.*, rownum AS doctrine_rownum FROM (".toList
    return { inner := String.ofList inner, last, first := some first }
  | none => do
    let (r, last) ← bound? ") a WHERE ROWNUM <= " s.toList
    let inner ← r.dropPrefix? "SELECT a.* FROM (".toList
    return { inner := String.ofList inner, last, first := none }

/-! ## Reading the text back -/

theorem rtakeWhile_digits {r : List Char} (h : r.getLast? = some ' ') (n : Nat) :
    (r ++ (toString n).toList).rtakeWhile Char.isDigit = (toString n).toList := by
  obtain ⟨r, rfl⟩ := List.getLast?_eq_some_iff.mp h
  have hd : ∀ c ∈ (toString n).toList.reverse, c.isDigit = true := fun c hc =>
    Text.isDigit_of_mem_toString (List.mem_reverse.mp hc)
  rw [List.rtakeWhile, List.reverse_append, List.takeWhile_append_of_pos hd]
  simp

theorem rdropWhile_digits {r : List Char} (h : r.getLast? = some ' ') (n : Nat) :
    (r ++ (toString n).toList).rdropWhile Char.isDigit = r := by
  obtain ⟨r, rfl⟩ := List.getLast?_eq_some_iff.mp h
  have hd : ∀ c ∈ (toString n).toList.reverse, c.isDigit = true := fun c hc =>
    Text.isDigit_of_mem_toString (List.mem_reverse.mp hc)
  rw [List.rdropWhile, List.reverse_append, List.dropWhile_append_of_pos hd]
  simp

theorem bound?_digits (front : String) {r : List Char} (h : r.getLast? = some ' ') (n : Nat) :
    bound? front (r ++ (toString n).toList) = (r.dropSuffix? front.toList).map (·, n) := by
  rw [bound?, rtakeWhile_digits h, rdropWhile_digits h, Text.natural?_toString]
  simp only [Option.bind_eq_bind, Option.bind_some, Option.pure_def]
  cases r.dropSuffix? front.toList <;> rfl

theorem bound?_append {front : String} (h : front.toList.getLast? = some ' ') (r : List Char)
    (n : Nat) : bound? front (r ++ front.toList ++ (toString n).toList) = some (r, n) := by
  have hr : (r ++ front.toList).dropSuffix? front.toList = some r :=
    List.dropSuffix?_eq_some_iff.mpr ⟨_, rfl, beq_self_eq_true _⟩
  rw [bound?_digits front (by rw [List.getLast?_append, h]; rfl), hr]
  rfl

theorem bound?_firstRows (inner : String) (last : Nat) :
    bound? ") WHERE doctrine_rownum >= " (Page.firstRows inner last).toList = none := by
  have hl : ") a WHERE ROWNUM <= ".toList.getLast? = some ' ' := by simp
  unfold Page.firstRows
  rw [String.toList_append, String.toList_append,
    bound?_digits _ (by rw [List.getLast?_append, hl]; rfl), Option.map_eq_none_iff,
    Option.eq_none_iff_forall_ne_some]
  intro r hr
  obtain ⟨s, he, hs⟩ := List.dropSuffix?_eq_some_iff.mp hr
  rw [eq_of_beq hs] at he
  have := congrArg List.reverse he
  rw [List.reverse_append, List.reverse_append] at this
  simp at this

/-- What a wrapped query is made of can be told from its text. -/
theorem read?_sql (w : Window) : read? w.sql = some w := by
  obtain ⟨inner, last, first⟩ := w
  cases first with
  | none =>
    have hs : (Page.firstRows inner last).toList =
        "SELECT a.* FROM (".toList ++ inner.toList ++ ") a WHERE ROWNUM <= ".toList ++
          (toString last).toList := by
      unfold Page.firstRows
      rw [String.toList_append, String.toList_append, String.toList_append]
    rw [read?, sql, bound?_firstRows, hs]
    dsimp only
    rw [bound?_append (by simp)]
    simp only [Option.bind_eq_bind, Option.bind_some, Option.pure_def,
      List.dropPrefix?_append_of_beq _ (beq_self_eq_true _), String.ofList_toList]
  | some first =>
    have hs : (Page.rowsBetween inner first last).toList =
        "SELECT * FROM (SELECT a.*, rownum AS doctrine_rownum FROM (".toList ++ inner.toList ++
          ") a WHERE rownum <= ".toList ++ (toString last).toList ++
          ") WHERE doctrine_rownum >= ".toList ++ (toString first).toList := by
      unfold Page.rowsBetween
      simp only [String.toList_append]
    rw [read?, sql, hs, bound?_append (by simp)]
    dsimp only
    rw [bound?_append (by simp)]
    simp only [Option.bind_eq_bind, Option.bind_some, Option.pure_def,
      List.dropPrefix?_append_of_beq _ (beq_self_eq_true _), String.ofList_toList]

/-! ## The rows that are left -/

theorem map_filter_zipIdx {α : Type} (first : Nat) : ∀ (k : Nat) (rs : List α),
    ((rs.zipIdx k).filter fun r => first ≤ r.2).map (·.1) = rs.drop (first - k)
  | _, [] => by simp
  | k, a :: rs => by
    have ih := map_filter_zipIdx first (k + 1) rs
    rw [List.zipIdx_cons, List.filter_cons]
    by_cases h : first ≤ k
    · have h₀ : first - k = 0 := by omega
      have h₁ : first - (k + 1) = 0 := by omega
      rw [h₁, List.drop_zero] at ih
      rw [if_pos (by simpa using h), List.map_cons, ih, h₀, List.drop_zero]
    · have hs : first - k = (first - (k + 1)) + 1 := by omega
      rw [if_neg (by simpa using h), ih, hs, List.drop_succ_cons]

/-- Bounds that stop at a number do no harm to fewer rows than that. -/
theorem drop_take_bounded {α : Type} {rs : List α} {bound : Nat} (offset limit : Nat)
    (h : rs.length < bound) :
    (rs.take (min (offset + limit) bound)).drop (min (offset + 1) bound - 1) =
      (rs.drop offset).take limit := by
  have ht : rs.take (min (offset + limit) bound) = rs.take (offset + limit) := by
    rcases Nat.le_total (offset + limit) bound with hle | hle
    · rw [Nat.min_eq_left hle]
    · rw [Nat.min_eq_right hle, List.take_of_length_le (by omega),
        List.take_of_length_le (by omega)]
  rw [ht]
  rcases Nat.le_total (offset + 1) bound with hle | hle
  · rw [Nat.min_eq_left hle, Nat.add_sub_cancel, List.drop_take, Nat.add_sub_cancel_left]
  · -- the offset lies behind the last row, and so does the bound in its place
    have hd : rs.drop offset = [] := List.drop_eq_nil_of_le (by omega)
    have hb : (rs.take (offset + limit)).drop (bound - 1) = [] :=
      List.drop_eq_nil_of_le (by rw [List.length_take]; omega)
    rw [Nat.min_eq_right hle, hb, hd, List.take_nil]

end Window

def Page.window (query : String) (limit offset : Nat) : Window where
  inner := inner query
  last := boundedAdd offset limit
  first := if offset = 0 then none else some (boundedAdd offset 1)

theorem Page.rows_window {α : Type} (query : String) (limit offset : Nat) {rs : List α}
    (h : rs.length < UInt64.size - 1) :
    (window query limit offset).rows rs = (rs.drop offset).take limit := by
  have hw := Window.drop_take_bounded offset limit h
  by_cases hz : offset = 0
  · subst hz
    have : min (0 + 1) (UInt64.size - 1) - 1 = 0 := by decide
    rw [this, List.drop_zero] at hw
    exact hw
  · rw [Window.rows, window, if_neg hz]
    exact (Window.map_filter_zipIdx _ 1 _).trans hw

theorem Page.sql_eq_window {p : Page} (hs : isSelect p.query = true)
    (hl : 0 < (p.limit.getD 0).toNat) :
    p.sql = (window p.query (p.limit.getD 0).toNat (p.offset.getD 0).toNat).sql := by
  have hc : ¬ ((p.limit.getD 0).toNat = 0 ∨ isSelect p.query = false) := by
    rw [hs]
    simp
    omega
  unfold Page.sql
  simp only [if_neg hc]
  split
  · rename_i hz
    simp [window, Window.sql, hz]
  · rename_i hz
    simp [window, Window.sql, hz]

/-- With a positive limit a query is wrapped, as it is or with ` FROM dual` behind it, once
without and twice with an offset, and the bounds in the text keep the rows wanted, also
where they stop at the greatest number. Any other text stays as it is. -/
theorem Page.sql_selects_window (p : Page) :
    (isSelect p.query = true ∧ 0 < (p.limit.getD 0).toNat →
      ∃ w : Window, p.sql = w.sql ∧ Window.read? p.sql = some w ∧
        w.inner = (if hasFrom p.query then p.query else p.query ++ " FROM dual") ∧
        (w.first = none ↔ (p.offset.getD 0).toNat = 0) ∧
        ∀ (α : Type) (rs : List α), rs.length < UInt64.size - 1 →
          w.rows rs = (rs.drop (p.offset.getD 0).toNat).take (p.limit.getD 0).toNat) ∧
    (¬ (isSelect p.query = true ∧ 0 < (p.limit.getD 0).toNat) → p.sql = p.query) := by
  constructor
  · rintro ⟨hs, hl⟩
    have hp := sql_eq_window hs hl
    refine ⟨_, hp, ?_, rfl, ?_, fun α rs h => rows_window p.query _ _ h⟩
    · rw [hp, Window.read?_sql]
    · by_cases hz : (p.offset.getD 0).toNat = 0
      · simp [window, hz]
      · simp [window, hz]
  · intro h
    have hc : (p.limit.getD 0).toNat = 0 ∨ isSelect p.query = false := by
      by_contra hn
      rw [not_or, Bool.not_eq_false] at hn
      exact h ⟨hn.2, Nat.pos_of_ne_zero hn.1⟩
    unfold Page.sql
    simp only [if_pos hc]

theorem Page.sql_selects_window_unbounded :
    (∃ w : Window,
      Window.read? (sql
        { query := " Select 7", limit := some 18446744073709551615, offset := some 2 }) = some w ∧
      w.inner = " Select 7 FROM dual" ∧ w.rows [10, 20, 30, 40] = [30, 40]) ∧
    sql { query := " Select 7", offset := some 2 } = " Select 7" := by
  constructor
  · obtain ⟨w, -, hr, hi, -, hw⟩ := (sql_selects_window
      { query := " Select 7", limit := some 18446744073709551615, offset := some 2 }).1 (by decide)
    exact ⟨w, hr, hi.trans (by decide), hw Nat [10, 20, 30, 40] (by decide)⟩
  · exact (sql_selects_window { query := " Select 7", offset := some 2 }).2 (by decide)

end SqlSchema
