import Mathlib.Data.List.TakeWhile
import SqlSchema.Session.Lemmas
import SqlSchema.Session.Script

/-!
# Plans

A session that follows a plan executes its texts in order and asks nothing. The first
text that the server rejects ends it with that rejection. Sessions one after the other
follow their plans one after the other, so a long plan is put together from short ones.
-/

namespace SqlSchema

def Server.accepts (s : Server) (sql : String) : Bool := (s.rejection? sql).isNone

def Server.failure? (s : Server) (sql : String) : Option Failure :=
  (s.rejection? sql).map (.rejected sql)

def Outcome.failure? {α : Type} (o : Outcome α) : Option Failure :=
  match o.result with
  | .ok _ => none
  | .error e => some e

namespace Session

variable {α β : Type} {s : Server}

/-- The session executes the texts of the plan up to the first rejected one, which is its
failure, and asks nothing. -/
structure Follows (m : Session α) (s : Server) (plan : List String) : Prop where
  executed : (m.run s).executed = plan.takeWhile s.accepts
  queries : (m.run s).queries = []
  failure : (m.run s).failure? = plan.findSome? s.failure?

theorem accepts_of_findSome?_none {plan : List String} (h : plan.findSome? s.failure? = none) :
    ∀ sql ∈ plan, s.accepts sql = true := by
  intro sql hs
  have := List.findSome?_eq_none_iff.mp h sql hs
  simpa [Server.failure?, Server.accepts] using this

theorem takeWhile_append_of_findSome? {plan : List String} {e : Failure}
    (h : plan.findSome? s.failure? = some e) (more : List String) :
    (plan ++ more).takeWhile s.accepts = plan.takeWhile s.accepts := by
  induction plan with
  | nil => cases h
  | cons sql plan ih =>
    rw [List.cons_append, List.takeWhile_cons, List.takeWhile_cons]
    by_cases ha : s.accepts sql = true
    · have hn : s.failure? sql = none := by simpa [Server.failure?, Server.accepts] using ha
      rw [List.findSome?_cons, hn] at h
      rw [if_pos ha, if_pos ha, ih h]
    · rw [if_neg ha, if_neg ha]

/-- A session that only finds out something leaves the plan of the next one as it is. -/
theorem Follows.of_run {m : Session α} {f : α → Session β} {a : α} {plan : List String}
    (h : m.run s = ⟨.ok a, []⟩) (hf : (f a).Follows s plan) : (m >>= f).Follows s plan := by
  have hb : (m >>= f).run s = (f a).run s := by rw [run_bind_ok h]; rfl
  exact ⟨hb ▸ hf.executed, hb ▸ hf.queries, hb ▸ hf.failure⟩

/-- Two sessions, one after the other, follow their plans one after the other. -/
theorem Follows.bind {m : Session α} {f : α → Session β} {first second : List String}
    (hm : m.Follows s first) (hf : ∀ a, (f a).Follows s second) :
    (m >>= f).Follows s (first ++ second) := by
  obtain ⟨he, hq, hr⟩ := hm
  cases ho : m.run s with
  | mk r l =>
    rw [ho] at he hq hr
    cases r with
    | ok a =>
      have hnone : first.findSome? s.failure? = none := hr.symm
      have hall := accepts_of_findSome?_none hnone
      have hb := run_bind_ok (f := f) ho
      have ha := hf a
      constructor
      · rw [List.takeWhile_eq_self_iff.mpr hall] at he
        rw [hb, Outcome.executed_mk, List.takeWhile_append_of_pos hall, ← ha.executed,
          show l.filterMap Event.statement? = first from he]
        rfl
      · rw [hb, Outcome.queries_mk]
        rw [show l.filterMap Event.query? = [] from hq]
        exact ha.queries
      · rw [hb, List.findSome?_append, hnone, Option.none_or, ← ha.failure]
        rfl
    | error e =>
      have hsome : first.findSome? s.failure? = some e := hr.symm
      have hb := run_bind_error (f := f) ho
      constructor
      · rw [hb, takeWhile_append_of_findSome? hsome]
        exact he
      · rw [hb]
        exact hq
      · rw [hb, List.findSome?_append, hsome]
        rfl

theorem follows_pure (a : α) : (pure a : Session α).Follows s [] := ⟨rfl, rfl, rfl⟩

theorem follows_note (level : Level) (message : String) (values : List (String × String)) :
    (note level message values).Follows s [] := ⟨rfl, rfl, rfl⟩

theorem follows_execute (sql : String) (params : List Datum) :
    (execute sql params).Follows s [sql] := by
  cases h : s.rejection? sql with
  | none =>
    have hr : (execute sql params).run s = _ := run_execute_accepted h
    constructor
    · rw [hr]; simp [Outcome.executed, Event.statement?, Server.accepts, h]
    · rw [hr]; rfl
    · rw [hr]; simp [Outcome.failure?, Server.failure?, h]
  | some message =>
    have hr : (execute sql params).run s = _ := run_execute_rejected h
    constructor
    · rw [hr]; simp [Outcome.executed, Server.accepts, h]
    · rw [hr]; rfl
    · rw [hr]; simp [Outcome.failure?, Server.failure?, h]

theorem Follows.after_note {m : Session α} {plan : List String} (h : m.Follows s plan)
    (level : Level) (message : String) (values : List (String × String)) :
    (note level message values >>= fun _ => m).Follows s plan :=
  (follows_note level message values).bind fun _ => h

theorem follows_perform {statement : Statement} {sql : String}
    (h : statement.checkedSql .standard = .ok sql) : (perform statement).Follows s [sql] := by
  rw [perform, h]
  exact follows_execute sql []

/-- A statement that is about no sequence is never refused. -/
theorem follows_perform_plain {u : Statement} (h : u.sequence? = none) :
    (perform u).Follows s [u.sql .standard] := by
  apply follows_perform
  rw [Statement.checkedSql, h]

theorem follows_performAll : ∀ {statements : List Statement},
    (∀ u ∈ statements, u.sequence? = none) →
    (performAll statements).Follows s (statements.map (Statement.sql .standard))
  | [], _ => follows_pure ()
  | u :: _, h =>
    (follows_perform_plain (h u List.mem_cons_self)).bind
      fun _ => follows_performAll fun v hv => h v (List.mem_cons_of_mem u hv)

end Session

/-! ## Plans that are carried out to the end -/

theorem Outcome.failure?_of_ok {α : Type} {o : Outcome α} {a : α} (h : o.result = .ok a) :
    o.failure? = none := by
  rw [Outcome.failure?, h]

theorem Session.Follows.executes_all {α : Type} {m : Session α} {s : Server} {plan : List String}
    (h : m.Follows s plan) {a : α} (ha : (m.run s).result = .ok a) :
    (m.run s).executed = plan := by
  have hnone : plan.findSome? s.failure? = none := by
    rw [← h.failure]
    exact Outcome.failure?_of_ok ha
  rw [h.executed]
  exact List.takeWhile_eq_self_iff.mpr (accepts_of_findSome?_none hnone)

theorem Session.Follows.of_accepted {m : Session Unit} {s : Server} {plan : List String}
    (h : m.Follows s plan) (hs : ∀ sql ∈ plan, s.accepts sql = true) :
    (m.run s).result = .ok () := by
  have hnone : (m.run s).failure? = none := by
    rw [h.failure, List.findSome?_eq_none_iff]
    intro sql hsql
    simpa [Server.failure?, Server.accepts] using hs sql hsql
  unfold Outcome.failure? at hnone
  cases hr : (m.run s).result with
  | ok u => rfl
  | error e => rw [hr] at hnone; cases hnone

/-! ## Plans on scripted servers -/

namespace Script

/-- A text that contains none of the needles to be rejected. -/
def Spares (s : Script) (sql : String) : Prop := ∀ f ∈ s.failures, ¬ f.1.toList <:+: sql.toList

/-- The message of the first needle that a text contains. -/
def FirstMessage (s : Script) (sql message : String) : Prop :=
  ∃ before needle after, s.failures = before ++ (needle, message) :: after ∧
    needle.toList <:+: sql.toList ∧ ∀ f ∈ before, ¬ f.1.toList <:+: sql.toList

theorem spares_iff (s : Script) (sql : String) : s.Spares sql ↔ s.server.accepts sql = true := by
  simp [Spares, Server.accepts, server, rejection?, ← Text.contains_iff]

theorem firstMessage_of_rejection? {s : Script} {sql message : String}
    (h : s.server.rejection? sql = some message) : s.FirstMessage sql message := by
  obtain ⟨f, hf, rfl⟩ := Option.map_eq_some_iff.mp h
  obtain ⟨hc, before, after, he, hb⟩ := List.find?_eq_some_iff_append.mp hf
  refine ⟨before, f.1, after, he, (Text.contains_iff _ _).mp hc, ?_⟩
  intro g hg hi
  have := hb g hg
  rw [(Text.contains_iff _ _).mpr hi] at this
  cases this

end Script

/-- An outcome of carrying out a plan on a scripted server. What was executed is the longest
part of the plan from its start whose texts contain no needle. -/
structure Outcome.CarriesOut (o : Outcome Unit) (s : Script) (plan : List String) : Prop where
  queries : o.queries = []
  executed : o.executed <+: plan
  spared : ∀ sql ∈ o.executed, s.Spares sql
  completed : o.result = .ok () ↔ o.executed = plan
  stopped : ∀ sql rest, plan = o.executed ++ sql :: rest →
    ∃ message, s.FirstMessage sql message ∧ o.result = .error (.rejected sql message)

theorem Server.findSome?_failure? (s : Server) : ∀ plan : List String,
    plan.findSome? s.failure? = (plan.dropWhile s.accepts).head?.bind s.failure?
  | [] => rfl
  | sql :: plan => by
    rw [List.findSome?_cons, List.dropWhile_cons]
    cases h : s.rejection? sql with
    | none => simp [Server.failure?, Server.accepts, h, findSome?_failure? s plan]
    | some message => simp [Server.failure?, Server.accepts, h]

theorem Server.rejection?_of_dropWhile {s : Server} {plan rest : List String} {sql : String}
    (h : plan.dropWhile s.accepts = sql :: rest) : ∃ message, s.rejection? sql = some message := by
  have := List.head?_dropWhile_not s.accepts plan
  rw [h] at this
  simp only [List.head?_cons, Server.accepts, Option.isNone_eq_false_iff] at this
  exact Option.isSome_iff_exists.mp this

theorem Outcome.result_eq_ok_iff (o : Outcome Unit) : o.result = .ok () ↔ o.failure? = none := by
  unfold Outcome.failure?
  cases o.result with
  | ok u => simp
  | error e => simp

theorem Outcome.result_of_failure? {o : Outcome Unit} {e : Failure} (h : o.failure? = some e) :
    o.result = .error e := by
  unfold Outcome.failure? at h
  cases hr : o.result with
  | ok u => rw [hr] at h; cases h
  | error e' => rw [hr] at h; cases h; rfl

/-- A session that follows a plan carries it out up to the first text with a needle. -/
theorem Session.Follows.carriesOut {m : Session Unit} {s : Script} {plan : List String}
    (h : m.Follows s.server plan) : (m.run s.server).CarriesOut s plan := by
  have hsplit := List.takeWhile_append_dropWhile (p := s.server.accepts) (l := plan)
  have hfail := h.failure
  rw [Server.findSome?_failure?] at hfail
  rw [← h.executed] at hsplit
  constructor
  · exact h.queries
  · exact ⟨_, hsplit⟩
  · intro sql hs
    rw [h.executed] at hs
    exact (s.spares_iff sql).mpr (List.mem_takeWhile_imp hs)
  · rw [Outcome.result_eq_ok_iff, hfail]
    cases hd : plan.dropWhile s.server.accepts with
    | nil => rw [hd, List.append_nil] at hsplit; simp [hsplit]
    | cons sql rest =>
      obtain ⟨message, hm⟩ := Server.rejection?_of_dropWhile hd
      rw [hd] at hsplit
      constructor
      · intro hn
        simp [Server.failure?, hm] at hn
      · intro he
        rw [he] at hsplit
        simp at hsplit
  · intro sql rest hp
    have hd : plan.dropWhile s.server.accepts = sql :: rest :=
      List.append_cancel_left (hsplit.trans hp)
    obtain ⟨message, hm⟩ := Server.rejection?_of_dropWhile hd
    refine ⟨message, Script.firstMessage_of_rejection? hm, Outcome.result_of_failure? ?_⟩
    rw [hfail, hd]
    simp [Server.failure?, hm]

end SqlSchema
