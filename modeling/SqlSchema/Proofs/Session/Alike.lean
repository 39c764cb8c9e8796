import SqlSchema.Session.Lemmas

/-!
# Sessions under two prefixes

Two outcomes are alike when they have the same result and the same texts passed between
session and server; what notices say is left open. Sessions are compared on two servers
that differ in their table prefix only: step by step, a session that is alike in each of
its steps is alike as a whole.
-/

namespace SqlSchema

def Server.withPrefix (s : Server) (p : String) : Server := { s with tablePrefix := p }

/-- Whether an event passes between session and server, as a notice does not. -/
def Event.isExchange : Event → Bool
  | notice _ => false
  | _ => true

namespace Outcome

variable {α : Type}

def exchanges (o : Outcome α) : List Event := o.events.filter Event.isExchange

/-- Two outcomes with the same result, the same failure included, and the same exchanges. -/
structure Alike (a b : Outcome α) : Prop where
  result : a.result = b.result
  exchanges : a.exchanges = b.exchanges

theorem executed_eq_exchanges (o : Outcome α) :
    o.executed = o.exchanges.filterMap Event.statement? := by
  rw [executed, exchanges, List.filterMap_filter]
  congr 1
  funext e
  cases e <;> rfl

theorem queries_eq_exchanges (o : Outcome α) :
    o.queries = o.exchanges.filterMap Event.query? := by
  rw [queries, exchanges, List.filterMap_filter]
  congr 1
  funext e
  cases e <;> rfl

theorem Alike.executed {a b : Outcome α} (h : a.Alike b) : a.executed = b.executed := by
  rw [executed_eq_exchanges, executed_eq_exchanges, h.exchanges]

theorem Alike.queries {a b : Outcome α} (h : a.Alike b) : a.queries = b.queries := by
  rw [queries_eq_exchanges, queries_eq_exchanges, h.exchanges]

end Outcome

namespace Session

variable {α β : Type} {s : Server} {p : String}

/-- The sessions are alike, the first on the server as it is, the second under the prefix. -/
def Alike (s : Server) (p : String) (m n : Session α) : Prop :=
  (m.run s).Alike (n.run (s.withPrefix p))

theorem alike_pure (a : α) : Alike s p (pure a) (pure a) := ⟨rfl, rfl⟩

theorem alike_fail (e : Failure) : Alike s p (fail e : Session α) (fail e) := ⟨rfl, rfl⟩

theorem alike_database : Alike s p database database := ⟨rfl, rfl⟩

theorem alike_execute (sql : String) (params : List Datum) :
    Alike s p (execute sql params) (execute sql params) := ⟨rfl, rfl⟩

theorem alike_select (sql : String) : Alike s p (select sql) (select sql) := ⟨rfl, rfl⟩

theorem alike_note (level₁ level₂ : Level) (message₁ message₂ : String)
    (values₁ values₂ : List (String × String)) :
    Alike s p (note level₁ message₁ values₁) (note level₂ message₂ values₂) := ⟨rfl, rfl⟩

theorem alike_fullName (table : String) :
    Alike s "" (fullName table) (fullName (s.tablePrefix ++ table)) := by
  constructor
  · simp [Server.withPrefix, Server.fullName]
  · rfl

theorem Alike.bind {m n : Session α} {f g : α → Session β} (h : Alike s p m n)
    (hf : ∀ a, Alike s p (f a) (g a)) : Alike s p (m >>= f) (n >>= g) := by
  obtain ⟨hr, hx⟩ := h
  cases hm : m.run s with
  | mk r l =>
    cases hn : n.run (s.withPrefix p) with
    | mk r' l' =>
      rw [hm, hn] at hr hx
      simp only at hr
      subst hr
      have hl : l.filter Event.isExchange = l'.filter Event.isExchange := hx
      cases r with
      | error e =>
        rw [Alike, run_bind_error hm, run_bind_error hn]
        exact ⟨rfl, hx⟩
      | ok a =>
        obtain ⟨hfr, hfx⟩ := hf a
        rw [Alike, run_bind_ok hm, run_bind_ok hn]
        refine ⟨hfr, ?_⟩
        rw [Outcome.exchanges, Outcome.exchanges, List.filter_append, List.filter_append, hl]
        exact congrArg _ hfx

theorem Alike.attempt {m n : Session α} (h : Alike s p m n) : Alike s p (attempt m) (attempt n) :=
  ⟨congrArg Except.ok h.result, h.exchanges⟩

theorem alike_ofDialect (r : Except DialectError α) : Alike s p (ofDialect r) (ofDialect r) := by
  cases r with
  | ok a => exact alike_pure a
  | error e => exact alike_fail _

theorem alike_perform (u : Statement) : Alike s p (perform u) (perform u) :=
  (alike_ofDialect _).bind fun sql => alike_execute sql []

theorem alike_performAll : ∀ statements : List Statement,
    Alike s p (performAll statements) (performAll statements)
  | [] => alike_pure ()
  | u :: rest => (alike_perform u).bind fun _ => alike_performAll rest

theorem alike_ask (q : Query) : Alike s p (ask q) (ask q) :=
  (alike_ofDialect _).bind fun sql => alike_select sql

theorem alike_askFirst (q : Query) : Alike s p (askFirst q) (askFirst q) :=
  (alike_ask q).bind fun _ => alike_pure _

theorem alike_selectFirst (sql : String) : Alike s p (selectFirst sql) (selectFirst sql) :=
  (alike_select sql).bind fun _ => alike_pure _

end Session

end SqlSchema
