import SqlSchema.Proofs.Session.Alike
import SqlSchema.Proofs.Session.Plan

/-!
# Paths

A session that asks as well as executes takes a path through the server: the texts that it
would pass in order if none were rejected, and the result it would give in the end. The first
text rejected ends it. Paths of sessions one after the other are put one after the other; what
a session asks for decides how its path goes on.
-/

namespace SqlSchema

namespace Event

def text? : Event → Option String
  | statement sql _ => some sql
  | query sql => some sql
  | notice _ => none

def failure? (s : Server) (e : Event) : Option Failure := e.text?.bind s.failure?

def passes (s : Server) (e : Event) : Bool := (e.failure? s).isNone

end Event

namespace Session

variable {α β : Type} {s : Server}

/-- The session passes the texts of the path up to the first rejected one, which is its
failure; if none is, it comes to the result. -/
structure Takes (m : Session α) (s : Server) (path : List Event) (r : Except Failure α) : Prop where
  exchanges : (m.run s).exchanges = path.takeWhile (Event.passes s)
  result : (m.run s).result = (path.findSome? (Event.failure? s)).elim r .error

theorem passes_of_findSome?_none {path : List Event}
    (h : path.findSome? (Event.failure? s) = none) : ∀ e ∈ path, e.passes s = true := by
  intro e he
  have := List.findSome?_eq_none_iff.mp h e he
  simp [Event.passes, this]

theorem takeWhile_passes_append {path : List Event} {f : Failure}
    (h : path.findSome? (Event.failure? s) = some f) (more : List Event) :
    (path ++ more).takeWhile (Event.passes s) = path.takeWhile (Event.passes s) := by
  induction path with
  | nil => cases h
  | cons e path ih =>
    rw [List.cons_append, List.takeWhile_cons, List.takeWhile_cons]
    cases hf : e.failure? s with
    | none =>
      rw [List.findSome?_cons, hf] at h
      simp [Event.passes, hf, ih h]
    | some g => simp [Event.passes, hf]

theorem takes_pure (a : α) : (pure a : Session α).Takes s [] (.ok a) := ⟨rfl, rfl⟩

theorem takes_fail (e : Failure) : (fail e : Session α).Takes s [] (.error e) := ⟨rfl, rfl⟩

theorem takes_note (level : Level) (message : String) (values : List (String × String)) :
    (note level message values).Takes s [] (.ok ()) := ⟨rfl, rfl⟩

theorem takes_one {m : Session α} {e : Event} {sql : String} {a : α} (he : e.text? = some sql)
    (haccepted : s.rejection? sql = none → m.run s = ⟨.ok a, [e]⟩)
    (hrejected : ∀ message, s.rejection? sql = some message →
      m.run s = ⟨.error (.rejected sql message), []⟩) : m.Takes s [e] (.ok a) := by
  have hx : e.isExchange = true := by
    cases e with
    | notice n => cases he
    | _ => rfl
  cases h : s.rejection? sql with
  | none =>
    have hf : e.failure? s = none := by simp [Event.failure?, he, Server.failure?, h]
    constructor
    · simp [haccepted h, Outcome.exchanges, hx, Event.passes, hf]
    · simp [haccepted h, hf]
  | some message =>
    have hf : e.failure? s = some (.rejected sql message) := by
      simp [Event.failure?, he, Server.failure?, h]
    constructor
    · simp [hrejected message h, Outcome.exchanges, Event.passes, hf]
    · simp [hrejected message h, hf]

theorem takes_execute (sql : String) (params : List Datum) :
    (execute sql params).Takes s [.statement sql params] (.ok ()) :=
  takes_one rfl run_execute_accepted fun _ => run_execute_rejected

theorem takes_select (sql : String) : (select sql).Takes s [.query sql] (.ok (s.answer sql)) :=
  takes_one rfl run_select_accepted fun _ => run_select_rejected

theorem Takes.bind {m : Session α} {f : α → Session β} {first second : List Event} {a : α}
    {r : Except Failure β} (hm : m.Takes s first (.ok a)) (hf : (f a).Takes s second r) :
    (m >>= f).Takes s (first ++ second) r := by
  obtain ⟨hx, hr⟩ := hm
  cases ho : m.run s with
  | mk result l =>
    rw [ho] at hx hr
    cases hfirst : first.findSome? (Event.failure? s) with
    | none =>
      rw [hfirst] at hr
      simp only [Option.elim_none] at hr
      subst hr
      have hall := passes_of_findSome?_none hfirst
      have hl : l.filter Event.isExchange = first := by
        rw [List.takeWhile_eq_self_iff.mpr hall] at hx
        exact hx
      have hb := run_bind_ok (f := f) ho
      constructor
      · rw [hb, Outcome.exchanges, List.filter_append, hl, List.takeWhile_append_of_pos hall]
        exact congrArg (first ++ ·) hf.exchanges
      · rw [hb, List.findSome?_append, hfirst, Option.none_or]
        exact hf.result
    | some e =>
      rw [hfirst] at hr
      simp only [Option.elim_some] at hr
      subst hr
      have hb := run_bind_error (f := f) ho
      constructor
      · rw [hb, takeWhile_passes_append hfirst]
        exact hx
      · rw [hb, List.findSome?_append, hfirst]
        rfl

/-- A session that only finds out something leaves the path of the next one as it is. -/
theorem Takes.of_run {m : Session α} {f : α → Session β} {a : α} {path : List Event}
    {r : Except Failure β} (h : m.run s = ⟨.ok a, []⟩) (hf : (f a).Takes s path r) :
    (m >>= f).Takes s path r := by
  have hb : (m >>= f).run s = (f a).run s := by
    rw [run_bind_ok h]
    rfl
  exact ⟨hb ▸ hf.exchanges, hb ▸ hf.result⟩

theorem Takes.after_note {m : Session α} {path : List Event} {r : Except Failure α}
    (h : m.Takes s path r) (level : Level) (message : String) (values : List (String × String)) :
    (note level message values >>= fun _ => m).Takes s path r :=
  (takes_note level message values).bind h

theorem takes_perform {statement : Statement} {sql : String}
    (h : statement.checkedSql .standard = .ok sql) :
    (perform statement).Takes s [.statement sql []] (.ok ()) := by
  rw [perform, h]
  exact takes_execute sql []

theorem takes_askFirst {query : Query} {sql : String} (h : query.checkedSql .standard = .ok sql) :
    (askFirst query).Takes s [.query sql] (.ok (s.answer sql).head?) := by
  have hask : (ask query).Takes s [.query sql] (.ok (s.answer sql)) := by
    rw [ask, h]
    exact takes_select sql
  exact hask.bind (takes_pure _)

theorem takes_selectFirst (sql : String) :
    (selectFirst sql).Takes s [.query sql] (.ok (s.answer sql).head?) :=
  (takes_select sql).bind (takes_pure _)

/-! ## Sessions that come to their result -/

theorem Takes.passes_all {m : Session α} {path : List Event} {r : Except Failure α} {a : α}
    (h : m.Takes s path r) (ha : (m.run s).result = .ok a) :
    r = .ok a ∧ (m.run s).exchanges = path := by
  have hr := h.result
  cases hp : path.findSome? (Event.failure? s) with
  | none =>
    rw [hp, ha] at hr
    refine ⟨hr.symm, ?_⟩
    rw [h.exchanges]
    exact List.takeWhile_eq_self_iff.mpr (passes_of_findSome?_none hp)
  | some e =>
    rw [hp, ha] at hr
    cases hr

theorem Takes.of_accepted {m : Session α} {path : List Event} {r : Except Failure α}
    (h : m.Takes s path r) (hs : ∀ e ∈ path, e.passes s = true) : (m.run s).result = r := by
  have hnone : path.findSome? (Event.failure? s) = none := by
    rw [List.findSome?_eq_none_iff]
    intro e he
    simpa [Event.passes] using hs e he
  rw [h.result, hnone]
  rfl

theorem Takes.executed_sublist {m : Session α} {path : List Event} {r : Except Failure α}
    (h : m.Takes s path r) : (m.run s).executed.Sublist (path.filterMap Event.statement?) := by
  rw [Outcome.executed_eq_exchanges, h.exchanges]
  exact (List.takeWhile_sublist _).filterMap _

end Session

end SqlSchema
