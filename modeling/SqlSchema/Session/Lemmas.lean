import SqlSchema.Session.Basic

/-!
# Sessions, step by step

What one step of a session leaves. An operation after another sees the same server and
adds its events behind; so sessions obey the laws of a monad.
-/

namespace SqlSchema

namespace Session

variable {α β γ : Type}

@[simp] theorem run_pure (a : α) (s : Server) : (pure a : Session α).run s = ⟨.ok a, []⟩ := rfl

@[simp] theorem run_fail (e : Failure) (s : Server) : (fail e : Session α).run s = ⟨.error e, []⟩ :=
  rfl

@[simp] theorem run_note (level : Level) (message : String) (values : List (String × String))
    (s : Server) : (note level message values).run s = ⟨.ok (), [.notice ⟨level, message, values⟩]⟩ :=
  rfl

@[simp] theorem run_fullName (table : String) (s : Server) :
    (fullName table).run s = ⟨.ok (s.fullName table), []⟩ := rfl

@[simp] theorem run_database (s : Server) : database.run s = ⟨.ok s.database, []⟩ := rfl

theorem run_bind_ok {m : Session α} {f : α → Session β} {s : Server} {a : α} {l : List Event}
    (h : m.run s = ⟨.ok a, l⟩) :
    (m >>= f).run s = ⟨((f a).run s).result, l ++ ((f a).run s).events⟩ := by
  simp only [run, bind, andThen] at h ⊢
  rw [h]

theorem run_bind_error {m : Session α} {f : α → Session β} {s : Server} {e : Failure}
    {l : List Event} (h : m.run s = ⟨.error e, l⟩) : (m >>= f).run s = ⟨.error e, l⟩ := by
  simp only [run, bind, andThen] at h ⊢
  rw [h]

/-- A text that is rejected leaves nothing. -/
theorem run_execute_rejected {sql message : String} {params : List Datum} {s : Server}
    (h : s.rejection? sql = some message) :
    (execute sql params).run s = ⟨.error (.rejected sql message), []⟩ := by
  simp [run, execute, h]

theorem run_execute_accepted {sql : String} {params : List Datum} {s : Server}
    (h : s.rejection? sql = none) :
    (execute sql params).run s = ⟨.ok (), [.statement sql params]⟩ := by
  simp [run, execute, h]

theorem run_select_rejected {sql message : String} {s : Server}
    (h : s.rejection? sql = some message) :
    (select sql).run s = ⟨.error (.rejected sql message), []⟩ := by
  simp [run, select, h]

theorem run_select_accepted {sql : String} {s : Server} (h : s.rejection? sql = none) :
    (select sql).run s = ⟨.ok (s.answer sql), [.query sql]⟩ := by
  simp [run, select, h]

/-! ## Laws -/

theorem pure_andThen (a : α) (f : α → Session β) : andThen (give a) f = f a := by
  funext s
  simp [andThen, give]

theorem andThen_pure (m : Session α) : andThen m give = m := by
  funext s
  unfold andThen give
  cases h : m s with
  | mk r l => cases r <;> simp

theorem andThen_assoc (m : Session α) (f : α → Session β) (g : β → Session γ) :
    andThen (andThen m f) g = andThen m fun a => andThen (f a) g := by
  funext s
  unfold andThen
  cases m s with
  | mk r l =>
    cases r with
    | error e => rfl
    | ok a =>
      cases h : f a s with
      | mk r' l' => cases r' <;> simp [h]

instance : LawfulMonad Session :=
  LawfulMonad.mk' Session
    (fun m => andThen_pure m)
    (fun a f => pure_andThen a f)
    (fun m f g => andThen_assoc m f g)

end Session

namespace Outcome

theorem executed_mk {α : Type} (r : Except Failure α) (a b : List Event) :
    (⟨r, a ++ b⟩ : Outcome α).executed = a.filterMap Event.statement? ++ b.filterMap Event.statement? :=
  List.filterMap_append

theorem queries_mk {α : Type} (r : Except Failure α) (a b : List Event) :
    (⟨r, a ++ b⟩ : Outcome α).queries = a.filterMap Event.query? ++ b.filterMap Event.query? :=
  List.filterMap_append

end Outcome

end SqlSchema
