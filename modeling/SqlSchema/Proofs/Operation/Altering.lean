import SqlSchema.Operation.Tables
import SqlSchema.Proofs.Schema.Alteration
import SqlSchema.Proofs.Session.Plan

/-!
# Altering a table, all or nothing

A structural change is refused before the server hears of the alteration. An alteration in
place is carried out like any plan: the changed columns, their comments, then the comment of
the table.
-/

namespace SqlSchema

def Alteration.plan (a : Alteration) (tablePrefix : String) : List String :=
  let fullName := tablePrefix ++ a.name
  { a with name := fullName }.texts ++
    (a.comment.map fun comment =>
      "COMMENT ON TABLE " ++ Quoted.quote '"' fullName ++ " IS " ++ Quoted.literal comment).toList

namespace Alteration

variable {a : Alteration}

theorem InPlace.withName (h : a.InPlace) (name : String) : { a with name := name }.InPlace :=
  ⟨h.added, h.removed, h.renamed, h.newName, h.names⟩

theorem First.withName {u : Structural} (h : a.First u) (name : String) :
    { a with name := name }.First u := by
  have hu : { a with name := name }.structural? = a.structural? := rfl
  exact first_of_structural? (hu.trans h.structural?)

theorem sequence?_of_mem_statements {l : List Statement} (h : a.statements = .ok l) {u : Statement}
    (hu : u ∈ l) : u.sequence? = none := by
  obtain ⟨c, -, rfl | ⟨comment, rfl⟩⟩ := Alteration.of_mem_statements h hu
  · rfl
  · rfl

end Alteration

namespace Tables

variable {a : Alteration} {s : Server}

/-- A refused alteration leaves nothing behind, not even a notice. -/
theorem run_alter_refused {u : Alteration.Structural} (h : a.First u) :
    (alter a).run s = ⟨.error (.refused (.unsupported (s.fullName a.name) u.describe)), []⟩ := by
  have hs : { a with name := s.fullName a.name }.statements =
      .error (.unsupported (s.fullName a.name) u.describe) :=
    (Alteration.statements_error_iff _ _).mpr ⟨u, h.withName _, rfl⟩
  rw [alter, Session.run_bind_ok (Session.run_fullName a.name s)]
  rw [hs]
  rfl

theorem follows_alter (h : a.InPlace) : (alter a).Follows s (a.plan s.tablePrefix) := by
  obtain ⟨l, hl⟩ := (Alteration.statements_ok_iff _).mpr (h.withName (s.fullName a.name))
  have hplain : ∀ u ∈ l, u.sequence? = none :=
    fun u hu => Alteration.sequence?_of_mem_statements hl hu
  have hcolumns := Session.follows_performAll (s := s) hplain
  rw [Alteration.map_sql_statements hl] at hcolumns
  rw [alter, Alteration.plan]
  apply Session.Follows.of_run (Session.run_fullName a.name s)
  rw [hl]
  refine (hcolumns.bind fun _ => ?_).after_note _ _ _
  cases a.comment with
  | none => exact Session.follows_pure ()
  | some comment =>
    apply Session.Follows.of_run (Session.run_fullName a.name s)
    exact Session.follows_perform_plain rfl

end Tables

/-- An alteration is written exactly if it is in place, and otherwise refused for the structural
change that comes first. What is written are the changed columns, then the comments on them. A
declaration differs from the one that creates the column by the fragment on nulls alone, and
only if that stays as it was. On any scripted server a refused alteration leaves nothing, and
one in place is carried out up to the first text that contains a needle. -/
theorem alter_all_or_nothing (a : Alteration) (s : Script) :
    ((∃ l, a.statements = .ok l) ↔ a.InPlace) ∧
    (∀ e, a.statements = .error e ↔ ∃ u, a.First u ∧ e = .unsupported a.name u.describe) ∧
    (∀ l, a.statements = .ok l → l.map (Statement.sql .standard) = a.texts) ∧
    (∀ c ∈ a.changed, c.new.definition = none →
      Dialect.standard.declaration c.new .stated =
        c.new.beforeNulls ++ c.new.nullsFragment ++ c.new.afterNulls ∧
      (c.old.nullable = c.new.nullable →
        c.declaration = c.new.beforeNulls ++ c.new.afterNulls) ∧
      (c.old.nullable ≠ c.new.nullable →
        c.declaration = Dialect.standard.declaration c.new .stated)) ∧
    (∀ u, a.First u → (Tables.alter a).run s.server =
      ⟨.error (.refused (.unsupported (s.tablePrefix ++ a.name) u.describe)), []⟩) ∧
    (a.InPlace → ((Tables.alter a).run s.server).CarriesOut s (a.plan s.tablePrefix)) := by
  refine ⟨a.statements_ok_iff, a.statements_error_iff, fun l hl => Alteration.map_sql_statements hl,
    fun c _ hdef => ?_, fun u hu => Tables.run_alter_refused hu,
    fun h => (Tables.follows_alter h).carriesOut⟩
  have hstated := Dialect.declaration_around hdef .stated
  refine ⟨hstated, fun hn => ?_, fun hn => ?_⟩
  · simp [ColumnChange.declaration, hdef, hn]
  · simp [ColumnChange.declaration, hdef, hn, hstated]

theorem alter_all_or_nothing_adverse :
    let old : Column := { name := "no\"te", type := .varchar (some 20) }
    let new : Column := { old with
      type := .varchar (some 40), default := some (.string " NOT NULL"), unique := true,
      check := some "1 = 1", comment := some "it's", collation := some "b\"in" }
    let a : Alteration := { name := "t", changed := [⟨old, new⟩], comment := some "" }
    let refused : Alteration := { a with removed := ["x", "y"], newName := some "u" }
    let s : Script := { database := "app", tablePrefix := "p_", failures := [("IS ''", "no")] }
    (∃ l, a.statements = .ok l) ∧
      (ColumnChange.mk old new).declaration = new.beforeNulls ++ new.afterNulls ∧
      refused.statements = .error (.unsupported "t" "drop column 'x'") ∧
      (Tables.alter refused).run s.server =
        ⟨.error (.refused (.unsupported "p_t" "drop column 'x'")), []⟩ ∧
      ((Tables.alter a).run s.server).CarriesOut s (a.plan "p_") := by
  intro old new a refused s
  obtain ⟨hok, -, -, hnulls, -, hrun⟩ := alter_all_or_nothing a s
  obtain ⟨-, herror, -, -, hrefused, -⟩ := alter_all_or_nothing refused s
  have hplace : a.InPlace := ⟨rfl, rfl, rfl, rfl, fun c hc => by cases List.mem_singleton.mp hc; rfl⟩
  have hfirst : refused.First (.dropColumn "x") := .removed rfl rfl
  exact ⟨hok.mpr hplace, (hnulls ⟨old, new⟩ List.mem_cons_self rfl).2.1 rfl,
    (herror _).mpr ⟨_, hfirst, by decide⟩, hrefused _ hfirst, hrun hplace⟩

end SqlSchema
