import SqlSchema.Proofs.Operation.Creation
import SqlSchema.Proofs.Sql.Remark

/-!
# Comments, the last one in effect

The comments of a table and its columns, replayed into a store in which a later text on the same
thing takes the place of an earlier one. A column may be declared more than once and may have a
comment kept apart as well; that one stands above all declarations.
-/

namespace SqlSchema

/-! ## Stores -/

/-- The texts that things have, where they have one. -/
abbrev Remarks := Commented → Option String

namespace Remarks

def put (store : Remarks) (r : Remark) : Remarks := fun x =>
  if x = r.subject then some r.text else store x

def read? (store : Remarks) (sql : String) : Option Remarks := (Remark.read? sql).map store.put

/-- The texts on one thing, in order. -/
def textsOn (x : Commented) (l : List Remark) : List String :=
  (l.filter fun r => x = r.subject).map (·.text)

/-- The last text on a thing is in effect. -/
theorem foldl_put (l : List Remark) (store : Remarks) (x : Commented) :
    l.foldl put store x = (textsOn x l).getLast?.or (store x) := by
  induction l generalizing store with
  | nil => rfl
  | cons r l ih =>
    rw [List.foldl_cons, ih]
    by_cases h : x = r.subject
    · simp [textsOn, put, h, List.getLast?_cons]
    · simp [textsOn, put, h]

theorem foldlM_read? (l : List Remark) (store : Remarks) :
    (l.map fun r => r.statement.sql .standard).foldlM read? store = some (l.foldl put store) := by
  induction l generalizing store with
  | nil => rfl
  | cons r l ih =>
    rw [List.map_cons, List.foldlM_cons, read?, Remark.read?_statement]
    exact ih (store.put r)

theorem textsOn_append (x : Commented) (l l' : List Remark) :
    textsOn x (l ++ l') = textsOn x l ++ textsOn x l' := by
  simp [textsOn]

theorem textsOn_eq_nil {x : Commented} {l : List Remark} (h : ∀ r ∈ l, x ≠ r.subject) :
    textsOn x l = [] := by
  simpa [textsOn] using h

end Remarks

/-! ## The comments of a table -/

/-- In a map no name has a second comment. -/
theorem ColumnComments.texts_eq (m : ColumnComments) (name : String) :
    (m.entries.filter fun e => name = e.1).map (·.2) = (m.get? name).toList := by
  obtain ⟨entries, hincreasing⟩ := m
  unfold get?
  dsimp only
  induction entries with
  | nil => rfl
  | cons e rest ih =>
    obtain ⟨key, text⟩ := e
    obtain ⟨hfirst, hrest⟩ := List.pairwise_cons.mp hincreasing
    by_cases h : name = key
    · subst h
      have hothers : rest.filter (fun e => name = e.1) = [] := by
        rw [List.filter_eq_nil_iff]
        intro e he hname
        have hlt := hfirst e he
        rw [← of_decide_eq_true hname] at hlt
        exact String.lt_irrefl name hlt
      simp [hothers]
    · have hne : (name == key) = false := by simpa using h
      simp [List.lookup_cons, h, hne, ih hrest]

namespace Table

/-- The text of the last declaration of a column that has one. -/
def declaredComment? (t : Table) (name : String) : Option String :=
  ((t.columns.filter fun c => name = c.name).filterMap (·.comment)).getLast?

def ownRemarks (t : Table) (fullName : String) : List Remark :=
  (t.comment.map fun text => ⟨.table fullName, text⟩).toList

def declaredRemarks (t : Table) (fullName : String) : List Remark :=
  t.columns.filterMap fun c => c.comment.map fun text => ⟨.column fullName c.name, text⟩

def separateRemarks (t : Table) (fullName : String) : List Remark :=
  t.columnComments.entries.map fun e => ⟨.column fullName e.1, e.2⟩

def remarks (t : Table) (fullName : String) : List Remark :=
  t.ownRemarks fullName ++ t.declaredRemarks fullName ++ t.separateRemarks fullName

variable (t : Table) (fullName : String)

theorem commentStatements_eq :
    t.commentStatements fullName = (t.remarks fullName).map Remark.statement := by
  have hown : (t.ownRemarks fullName).map Remark.statement =
      (t.comment.map (.commentOnTable fullName)).toList := by
    unfold ownRemarks
    cases t.comment <;> rfl
  have hdeclared : (t.declaredRemarks fullName).map Remark.statement =
      t.columns.filterMap fun c => c.comment.map (.commentOnColumn fullName c.name) := by
    rw [declaredRemarks, List.map_filterMap]
    congr 1
    funext c
    cases c.comment <;> rfl
  have hseparate : (t.separateRemarks fullName).map Remark.statement =
      t.columnComments.entries.map fun e => .commentOnColumn fullName e.1 e.2 := by
    rw [separateRemarks, List.map_map]
    rfl
  rw [commentStatements, remarks, List.map_append, List.map_append, hown, hdeclared, hseparate]

theorem length_remarks : (t.remarks fullName).length =
    (if t.comment.isSome then 1 else 0) + t.columns.countP (fun c => c.comment.isSome) +
      t.columnComments.entries.length := by
  have hown : (t.ownRemarks fullName).length = if t.comment.isSome then 1 else 0 := by
    unfold ownRemarks
    cases t.comment <;> rfl
  have hdeclared : (t.declaredRemarks fullName).length =
      t.columns.countP fun c => c.comment.isSome := by
    simp [declaredRemarks, List.length_filterMap_eq_countP]
  rw [remarks, List.length_append, List.length_append, hown, hdeclared, separateRemarks,
    List.length_map]

open Remarks

theorem textsOn_table : textsOn (.table fullName) (t.remarks fullName) = t.comment.toList := by
  have hown : textsOn (.table fullName) (t.ownRemarks fullName) = t.comment.toList := by
    unfold ownRemarks
    cases t.comment <;> simp [textsOn]
  have hdeclared : textsOn (.table fullName) (t.declaredRemarks fullName) = [] := by
    apply textsOn_eq_nil
    simp only [declaredRemarks, List.mem_filterMap, Option.map_eq_some_iff]
    rintro r ⟨c, -, text, -, rfl⟩
    simp
  have hseparate : textsOn (.table fullName) (t.separateRemarks fullName) = [] := by
    apply textsOn_eq_nil
    simp only [separateRemarks, List.mem_map]
    rintro r ⟨e, -, rfl⟩
    simp
  rw [remarks, textsOn_append, textsOn_append, hown, hdeclared, hseparate, List.append_nil,
    List.append_nil]

theorem textsOn_declared (name : String) : textsOn (.column fullName name)
    (t.declaredRemarks fullName) =
      (t.columns.filter fun c => name = c.name).filterMap (·.comment) := by
  unfold declaredRemarks
  induction t.columns with
  | nil => rfl
  | cons c columns ih =>
    unfold textsOn at ih ⊢
    by_cases h : name = c.name
    · cases hc : c.comment with
      | none => simpa [hc, h] using ih
      | some text => simpa [hc, h] using ih
    · cases hc : c.comment with
      | none => simpa [hc, h] using ih
      | some text => simpa [hc, h] using ih

theorem textsOn_separate (name : String) : textsOn (.column fullName name)
    (t.separateRemarks fullName) = (t.columnComments.get? name).toList := by
  rw [← ColumnComments.texts_eq, textsOn, separateRemarks, List.filter_map, List.map_map]
  simp [Function.comp_def]

theorem getLast?_textsOn_column (name : String) :
    (textsOn (.column fullName name) (t.remarks fullName)).getLast? =
      (t.columnComments.get? name).or (t.declaredComment? name) := by
  have hown : textsOn (.column fullName name) (t.ownRemarks fullName) = [] := by
    apply textsOn_eq_nil
    simp [ownRemarks]
  rw [remarks, textsOn_append, textsOn_append, hown, List.nil_append, textsOn_declared,
    textsOn_separate, List.getLast?_append, declaredComment?]
  cases t.columnComments.get? name <;> rfl

theorem textsOn_other {x : Commented} (htable : x ≠ .table fullName)
    (hcolumn : ∀ name, x ≠ .column fullName name) : textsOn x (t.remarks fullName) = [] := by
  apply textsOn_eq_nil
  simp only [remarks, ownRemarks, declaredRemarks, separateRemarks, List.mem_append,
    Option.mem_toList, List.mem_filterMap, List.mem_map, Option.map_eq_some_iff]
  rintro r ((⟨text, -, rfl⟩ | ⟨c, -, text, -, rfl⟩) | ⟨e, -, rfl⟩)
  · exact htable
  · exact hcolumn _
  · exact hcolumn _

end Table

/-- If nothing is rejected, all statements are executed and counted. -/
theorem Comment.run_apply_accepted {s : Server} {t : Table}
    (h : ∀ u ∈ t.commentStatements (s.fullName t.name), s.rejection? (u.sql .standard) = none) :
    let o := (Comment.apply t).run s
    o.result = .ok (t.commentStatements (s.fullName t.name)).length ∧
      o.executed = (t.commentStatements (s.fullName t.name)).map (Statement.sql .standard) := by
  intro o
  have hplain : ∀ u ∈ t.commentStatements (s.fullName t.name), u.sequence? = none :=
    fun u hu => Table.sequence?_of_mem_commentStatements hu
  have heach := (Comment.follows_applyEach (s := s) t.name hplain).of_accepted (by
    intro sql hsql
    obtain ⟨u, hu, rfl⟩ := List.mem_map.mp hsql
    simp [Server.accepts, h u hu])
  have hresult : o.result = .ok (t.commentStatements (s.fullName t.name)).length := by
    have hstatements : (Comment.statements t).run s =
        ⟨.ok (t.commentStatements (s.fullName t.name)), []⟩ := rfl
    cases hrun : (Comment.applyEach t.name (t.commentStatements (s.fullName t.name))).run s with
    | mk result events =>
      rw [hrun] at heach
      obtain rfl : result = .ok () := heach
      simp only [o, Comment.apply, Session.run_bind_ok hstatements, Session.run_bind_ok hrun]
      rfl
  exact ⟨hresult, (Comment.follows_apply t).executes_all hresult⟩

/-- Each statement that comments on a table is read back as its remark and as no other. Replayed
in order, whatever was there before, they leave the table with its own comment and each column
with the comment kept apart for it, else with that of its last declaration that has one, and touch
nothing else. Their number is the result if none is rejected. -/
theorem comments_last_in_effect (s : Server) (t : Table) :
    let q := s.tablePrefix ++ t.name
    ∃ l, (Comment.statements t).run s = ⟨.ok l, []⟩ ∧
      (∀ u ∈ l, ∃ r : Remark, u = r.statement ∧ Remark.read? (u.sql .standard) = some r ∧
        ∀ r' : Remark, r'.statement.sql .standard = u.sql .standard → r' = r) ∧
      (∀ start : Remarks, ∃ after,
        (l.map (Statement.sql .standard)).foldlM Remarks.read? start = some after ∧
        after (.table q) = t.comment.or (start (.table q)) ∧
        (∀ name, after (.column q name) =
          ((t.columnComments.get? name).or (t.declaredComment? name)).or (start (.column q name))) ∧
        ∀ x, x ≠ .table q → (∀ name, x ≠ .column q name) → after x = start x) ∧
      l.length = (if t.comment.isSome then 1 else 0) +
        t.columns.countP (fun c => c.comment.isSome) + t.columnComments.entries.length ∧
      ((∀ u ∈ l, s.rejection? (u.sql .standard) = none) →
        ((Comment.apply t).run s).result = .ok l.length ∧
        ((Comment.apply t).run s).executed = l.map (Statement.sql .standard)) := by
  intro q
  have hl : t.commentStatements q = (t.remarks q).map Remark.statement := t.commentStatements_eq q
  refine ⟨t.commentStatements q, rfl, fun u hu => ?_, fun start => ?_, ?_, fun h => ?_⟩
  · rw [hl] at hu
    obtain ⟨r, -, rfl⟩ := List.mem_map.mp hu
    refine ⟨r, rfl, r.read?_statement, fun r' h => ?_⟩
    have hread := r'.read?_statement
    rw [h, r.read?_statement] at hread
    exact (Option.some.inj hread).symm
  · refine ⟨(t.remarks q).foldl Remarks.put start, ?_, ?_, fun name => ?_, fun x ht hc => ?_⟩
    · rw [hl, List.map_map]
      exact Remarks.foldlM_read? _ start
    · rw [Remarks.foldl_put, t.textsOn_table]
      cases t.comment <;> rfl
    · rw [Remarks.foldl_put, t.getLast?_textsOn_column]
    · rw [Remarks.foldl_put, t.textsOn_other q ht hc]
      rfl
  · rw [hl, List.length_map, t.length_remarks]
  · exact Comment.run_apply_accepted h

theorem comments_last_in_effect_repeated :
    let t : Table := {
      name := "us\"ers", comment := some "it's"
      columns := [{ name := "a", type := .integer, comment := some "1" },
        { name := "a", type := .integer, comment := some "' IS '" },
        { name := "b", type := .integer, comment := some "" }, { name := "a", type := .integer }]
      columnComments := .ofList [("c", "new"), ("b", "2"), ("b", "3")] }
    let s : Script := { database := "app", tablePrefix := "p_", failures := [("DROP", "no")] }
    let o := (Comment.apply t).run s.server
    o.result = .ok 6 ∧ ∃ after, o.executed.foldlM Remarks.read? (fun _ => none) = some after ∧
      after (.table "p_us\"ers") = some "it's" ∧ after (.column "p_us\"ers" "a") = some "' IS '" ∧
      after (.column "p_us\"ers" "b") = some "3" ∧ after (.column "p_us\"ers" "c") = some "new" ∧
      after (.column "users" "a") = none := by
  intro t s o
  obtain ⟨l, hl, -, hreplay, hlength, hall⟩ := comments_last_in_effect s.server t
  have hstatements : l = t.commentStatements "p_us\"ers" := by
    have := congrArg Outcome.result hl
    exact (Except.ok.inj this).symm
  have haccepted : ∀ u ∈ l, s.server.rejection? (u.sql .standard) = none := by
    subst hstatements
    decide
  obtain ⟨hresult, hexecuted⟩ := hall haccepted
  obtain ⟨after, hafter, htable, hcolumn, hother⟩ := hreplay fun _ => none
  refine ⟨hresult.trans (congrArg Except.ok hlength), after, ?_, htable, ?_, ?_, ?_, ?_⟩
  · rw [hexecuted]
    exact hafter
  · exact (hcolumn "a").trans (by decide)
  · exact (hcolumn "b").trans (by decide)
  · exact (hcolumn "c").trans (by decide)
  · exact hother _ (by decide) fun name h => absurd (Commented.column.inj h).1 (by decide)

end SqlSchema
