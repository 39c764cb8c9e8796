import SqlSchema.Operation.Tables
import SqlSchema.Session.Lemmas

/-!
# Statements without parameters

A session is bare when no statement it executes has parameters. Statements about the schema have
none, so creating and altering tables is bare.
-/

namespace SqlSchema

def Event.isBare : Event → Bool
  | statement _ params => params.isEmpty
  | _ => true

namespace Session

variable {α β : Type} {s : Server}

def Bare (m : Session α) (s : Server) : Prop := ∀ e ∈ (m.run s).events, e.isBare = true

theorem bare_pure (a : α) : (pure a : Session α).Bare s := by simp [Bare]

theorem bare_fail (e : Failure) : (fail e : Session α).Bare s := by simp [Bare]

theorem bare_fullName (table : String) : (fullName table).Bare s := by simp [Bare]

theorem bare_note (level : Level) (message : String) (values : List (String × String)) :
    (note level message values).Bare s := by
  simp [Bare, Event.isBare]

theorem Bare.bind {m : Session α} {f : α → Session β} (hm : m.Bare s) (hf : ∀ a, (f a).Bare s) :
    (m >>= f).Bare s := by
  unfold Bare at hm
  cases ho : m.run s with
  | mk r l =>
    rw [ho] at hm
    cases r with
    | error e =>
      rw [Bare, run_bind_error ho]
      exact hm
    | ok a =>
      rw [Bare, run_bind_ok ho]
      intro e he
      exact (List.mem_append.mp he).elim (hm e) (hf a e)

theorem Bare.after_note {m : Session α} (hm : m.Bare s) (level : Level) (message : String)
    (values : List (String × String)) :
    (note level message values >>= fun _ => m).Bare s :=
  (bare_note level message values).bind fun _ => hm

theorem bare_ofDialect (r : Except DialectError α) : (ofDialect r).Bare s := by
  cases r with
  | ok a => exact bare_pure a
  | error e => exact bare_fail _

theorem bare_execute (sql : String) : (execute sql []).Bare s := by
  cases h : s.rejection? sql with
  | none => simp [Bare, run_execute_accepted h, Event.isBare]
  | some message => simp [Bare, run_execute_rejected h]

theorem bare_perform (u : Statement) : (perform u).Bare s :=
  (bare_ofDialect _).bind fun sql => bare_execute sql

theorem bare_performAll : ∀ statements : List Statement, (performAll statements).Bare s
  | [] => bare_pure ()
  | u :: rest => (bare_perform u).bind fun _ => bare_performAll rest

end Session

variable {s : Server}

theorem Comment.bare_applyEach (table : String) : ∀ statements : List Statement,
    (applyEach table statements).Bare s
  | [] => Session.bare_pure ()
  | u :: rest =>
    ((Session.bare_perform u).bind fun _ => bare_applyEach table rest).after_note _ _ _

theorem Comment.bare_apply (t : Table) : (Comment.apply t).Bare s := by
  have hstatements : (Comment.statements t).Bare s :=
    (Session.bare_fullName t.name).bind fun _ => Session.bare_pure _
  exact hstatements.bind fun _ =>
    (bare_applyEach t.name _).bind fun _ => Session.bare_pure _

theorem Comment.bare_onTable (table comment : String) : (Comment.onTable table comment).Bare s :=
  (Session.bare_fullName table).bind fun _ => Session.bare_perform _

theorem Sequence.bare_create (name : String) (first step : Int64) :
    (Sequence.create name first step).Bare s := by
  unfold Sequence.create
  split
  · exact (Session.bare_pure false).after_note _ _ _
  · exact ((Session.bare_perform _).bind fun _ => Session.bare_pure true).after_note _ _ _

theorem AutoIncrement.bare_create (t : Table) : (AutoIncrement.create t).Bare s := by
  unfold AutoIncrement.create
  split
  · exact (Session.bare_pure none).after_note _ _ _
  · next c _ =>
    refine (Session.bare_fullName t.name).bind fun table => Session.Bare.after_note ?_ _ _ _
    exact (Sequence.bare_create _ _ _).bind fun _ =>
      (Session.bare_perform _).bind fun _ => Session.bare_pure _

theorem Tables.bare_create (t : Table) : (Tables.create t).Bare s := by
  refine (Session.bare_fullName t.name).bind fun name => Session.Bare.after_note ?_ _ _ _
  exact (Session.bare_performAll _).bind fun _ => (Comment.bare_apply t).bind fun _ =>
    (AutoIncrement.bare_create t).bind fun _ => Session.bare_pure ()

theorem Tables.bare_alter (a : Alteration) : (Tables.alter a).Bare s := by
  refine (Session.bare_fullName a.name).bind fun name => (Session.bare_ofDialect _).bind
    fun statements => Session.Bare.after_note ?_ _ _ _
  refine (Session.bare_performAll statements).bind fun _ => ?_
  cases a.comment with
  | none => exact Session.bare_pure ()
  | some comment => exact Comment.bare_onTable a.name comment

end SqlSchema
