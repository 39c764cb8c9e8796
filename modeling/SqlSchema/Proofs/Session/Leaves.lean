import SqlSchema.Proofs.Session.Alike

/-!
# What a session leaves

The result of a session and what passed between it and the server, taken together. Sessions one
after the other leave their exchanges one after the other, and the first failure ends them. A list
of ways that a session can go, of which one always fits, says what it leaves.
-/

namespace SqlSchema

namespace Session

variable {α β : Type} {m : Session α} {f : α → Session β} {s : Server} {l l' : List Event}

/-- The session ends with the result after the exchanges. -/
structure Leaves (m : Session α) (s : Server) (r : Except Failure α) (l : List Event) : Prop where
  result : (m.run s).result = r
  exchanges : (m.run s).exchanges = l

theorem leaves_of_run {r : Except Failure α} (h : m.run s = ⟨r, l⟩) :
    m.Leaves s r (l.filter Event.isExchange) :=
  ⟨by rw [h], by rw [h]; rfl⟩

theorem leaves_pure (a : α) : (pure a : Session α).Leaves s (.ok a) [] := ⟨rfl, rfl⟩

theorem leaves_fail (e : Failure) : (fail e : Session α).Leaves s (.error e) [] := ⟨rfl, rfl⟩

theorem leaves_note (level : Level) (message : String) (values : List (String × String)) :
    (note level message values).Leaves s (.ok ()) [] := ⟨rfl, rfl⟩

theorem Leaves.bind {a : α} {r : Except Failure β} (hm : m.Leaves s (.ok a) l)
    (hf : (f a).Leaves s r l') : (m >>= f).Leaves s r (l ++ l') := by
  obtain ⟨hr, hx⟩ := hm
  cases ho : m.run s with
  | mk result events =>
    rw [ho] at hr hx
    obtain rfl : result = .ok a := hr
    have hb := leaves_of_run (run_bind_ok (f := f) ho)
    rw [List.filter_append] at hb
    rw [← hx, ← hf.result, ← hf.exchanges]
    exact hb

theorem Leaves.bind_error {e : Failure} (hm : m.Leaves s (.error e) l) :
    (m >>= f).Leaves s (.error e) l := by
  obtain ⟨hr, hx⟩ := hm
  cases ho : m.run s with
  | mk result events =>
    rw [ho] at hr hx
    obtain rfl : result = .error e := hr
    rw [← hx]
    exact leaves_of_run (run_bind_error ho)

/-- A session that only finds out something adds nothing to what the next one leaves. -/
theorem Leaves.of_run {a : α} {r : Except Failure β} (h : m.run s = ⟨.ok a, []⟩)
    (hf : (f a).Leaves s r l) : (m >>= f).Leaves s r l :=
  (leaves_of_run h).bind hf

theorem Leaves.giving {r : Except Failure α} (h : m.Leaves s r l) (b : β) :
    (m >>= fun _ => pure b).Leaves s (r.map fun _ => b) l := by
  cases r with
  | ok a =>
    rw [← List.append_nil l]
    exact h.bind (leaves_pure b)
  | error e => exact h.bind_error

theorem Leaves.attempt {r : Except Failure α} (h : m.Leaves s r l) :
    (attempt m).Leaves s (.ok r) l :=
  ⟨congrArg Except.ok h.result, h.exchanges⟩

theorem leaves_execute_accepted {sql : String} (params : List Datum) (h : s.rejection? sql = none) :
    (execute sql params).Leaves s (.ok ()) [.statement sql params] :=
  leaves_of_run (run_execute_accepted h)

theorem leaves_execute_rejected {sql message : String} (params : List Datum)
    (h : s.rejection? sql = some message) :
    (execute sql params).Leaves s (.error (.rejected sql message)) [] :=
  leaves_of_run (run_execute_rejected h)

theorem leaves_selectFirst_accepted {sql : String} (h : s.rejection? sql = none) :
    (selectFirst sql).Leaves s (.ok (s.answer sql).head?) [.query sql] :=
  (leaves_of_run (run_select_accepted h)).bind (leaves_pure _)

theorem leaves_selectFirst_rejected {sql message : String} (h : s.rejection? sql = some message) :
    (selectFirst sql).Leaves s (.error (.rejected sql message)) [] :=
  (leaves_of_run (run_select_rejected h)).bind_error

/-- If each way leads to what the session leaves, and there is a way, there is no other. -/
theorem leaves_iff_of_ways {Way : List Event → Except Failure α → Prop}
    (hway : ∀ {l r}, Way l r → m.Leaves s r l) (hsome : ∃ l r, Way l r) (l : List Event)
    (r : Except Failure α) : m.Leaves s r l ↔ Way l r := by
  constructor
  · rintro ⟨rfl, rfl⟩
    obtain ⟨l, r, h⟩ := hsome
    obtain ⟨rfl, rfl⟩ := hway h
    exact h
  · exact hway

end Session

end SqlSchema
