import SqlSchema.Proofs.Operation.SequencePath
import SqlSchema.Proofs.Sql.Hazard

/-!
# Attempts

Everything a session sends to the server, with what became of it: the log has only what was
accepted, the text that ended the session is in its failure. A hazardous text needs a license
from what was sent just before it. A session is careful if it sends no hazardous text without
one; careful sessions one after the other are careful.
-/

namespace SqlSchema

inductive Attempt
  | accepted (sql : String)
  | rejected (sql : String)
  deriving DecidableEq

namespace Attempt

def sql : Attempt → String
  | accepted sql => sql
  | rejected sql => sql

def accepted? : Attempt → Option String
  | accepted sql => some sql
  | rejected _ => none

def rejected? : Attempt → Option String
  | accepted _ => none
  | rejected sql => some sql

end Attempt

namespace Failure

mutual

def texts : Failure → List String
  | rejected sql _ => [sql]
  | several failures => textsOfAll failures
  | _ => []

def textsOfAll : List Failure → List String
  | [] => []
  | e :: rest => e.texts ++ textsOfAll rest

end

theorem textsOfAll_filterMap {β : Type} (f : β → Option Failure) (l : List β) :
    textsOfAll (l.filterMap f) = l.flatMap fun b => (f b).elim [] texts := by
  induction l with
  | nil => rfl
  | cons b rest ih =>
    rw [List.filterMap_cons, List.flatMap_cons]
    cases f b with
    | none => exact ih
    | some e => rw [textsOfAll, ih, Option.elim_some]

end Failure

namespace Outcome

variable {α : Type}

def accepted (o : Outcome α) : List String := o.events.filterMap Event.text?

def rejected (o : Outcome α) : List String := o.failure?.elim [] Failure.texts

def attempts (o : Outcome α) : List Attempt :=
  o.accepted.map .accepted ++ o.rejected.map .rejected

theorem accepted_eq_exchanges (o : Outcome α) :
    o.accepted = o.exchanges.filterMap Event.text? := by
  rw [accepted, exchanges, List.filterMap_filter]
  congr 1
  funext e
  cases e <;> rfl

theorem accepted_of_attempts (o : Outcome α) :
    o.attempts.filterMap Attempt.accepted? = o.accepted := by
  have haccepted : Attempt.accepted? ∘ Attempt.accepted = some := rfl
  have hrejected : Attempt.accepted? ∘ Attempt.rejected = fun _ => none := rfl
  rw [attempts, List.filterMap_append, List.filterMap_map, List.filterMap_map, haccepted,
    hrejected, List.filterMap_some]
  simp

theorem rejected_of_attempts (o : Outcome α) :
    o.attempts.filterMap Attempt.rejected? = o.rejected := by
  have haccepted : Attempt.rejected? ∘ Attempt.accepted = fun _ => none := rfl
  have hrejected : Attempt.rejected? ∘ Attempt.rejected = some := rfl
  rw [attempts, List.filterMap_append, List.filterMap_map, List.filterMap_map, haccepted,
    hrejected, List.filterMap_some]
  simp

end Outcome

/-! ## Licenses -/

namespace Server

variable {s : Server}

/-- What the attempts before a text must end with. A sequence is dropped and its current value
read only right after the probe for it, which found it; a table with a name is dropped only
after the lookup of its key, with the probe and the drop of a sequence at most in between. -/
def Licenses (s : Server) (before : List Attempt) (sql : String) : Prop :=
  match Hazard.read? sql with
  | none => True
  | some (.dropSequence name) | some (.currentValue name) =>
    [.accepted (s.probe name)] <:+ before ∧ s.answer (s.probe name) ≠ []
  | some (.dropTable table) => table ≠ "" → ∃ name between,
    between <+: [s.probe name, (Statement.dropSequence name).sql .standard] ∧
      (s.keyLookup table :: between).map .accepted <:+ before

/-- Every attempt has its license from those before it. -/
def Allows (s : Server) (l : List Attempt) : Prop :=
  ∀ before a after, l = before ++ a :: after → s.Licenses before a.sql

theorem licenses_of_harmless {sql : String} (h : Hazard.read? sql = none)
    (before : List Attempt) : s.Licenses before sql := by
  rw [Licenses, h]
  trivial

/-- What was sent earlier takes no license away. -/
theorem Licenses.after {before : List Attempt} {sql : String} (h : s.Licenses before sql)
    (earlier : List Attempt) : s.Licenses (earlier ++ before) sql := by
  have hsuffix : before <:+ earlier ++ before := List.suffix_append earlier before
  unfold Licenses at h ⊢
  split at h
  · trivial
  · exact ⟨h.1.trans hsuffix, h.2⟩
  · exact ⟨h.1.trans hsuffix, h.2⟩
  · intro hne
    obtain ⟨name, between, hbetween, hlookup⟩ := h hne
    exact ⟨name, between, hbetween, hlookup.trans hsuffix⟩

theorem allows_nil : s.Allows [] := by
  intro before a after h
  simp at h

theorem Allows.append {l more : List Attempt} (hl : s.Allows l) (hmore : s.Allows more) :
    s.Allows (l ++ more) := by
  intro before a after h
  rcases List.append_eq_append_iff.mp h with ⟨rest, rfl, hrest⟩ | ⟨rest, rfl, hrest⟩
  · exact (hmore rest a after hrest).after l
  · cases rest with
    | nil =>
      have ha := (hmore [] a after hrest.symm).after before
      rwa [List.append_nil] at ha
    | cons b rest =>
      obtain ⟨rfl, -⟩ := List.cons_eq_cons.mp hrest
      exact hl before a rest rfl

theorem Allows.concat {l : List Attempt} {a : Attempt} (hl : s.Allows l)
    (ha : s.Licenses l a.sql) : s.Allows (l ++ [a]) := by
  intro before b after h
  rcases List.append_eq_append_iff.mp h with ⟨rest, rfl, hrest⟩ | ⟨rest, rfl, hrest⟩
  · rw [List.singleton_eq_append_iff] at hrest
    rcases hrest with ⟨rfl, hb⟩ | ⟨-, hb⟩
    · obtain ⟨rfl, -⟩ := List.cons_eq_cons.mp hb
      rwa [List.append_nil]
    · simp at hb
  · cases rest with
    | nil =>
      obtain ⟨rfl, -⟩ := List.cons_eq_cons.mp hrest
      rwa [List.append_nil] at ha
    | cons c rest =>
      obtain ⟨rfl, -⟩ := List.cons_eq_cons.mp hrest
      exact hl before b rest rfl

/-! ## Texts sent one after the other -/

/-- What becomes of texts that are sent in order until one is rejected. -/
def send (s : Server) : List String → List Attempt
  | [] => []
  | sql :: rest => if s.accepts sql then .accepted sql :: s.send rest else [.rejected sql]

theorem send_append_of_accepted {texts : List String} (h : ∀ sql ∈ texts, s.accepts sql = true)
    (more : List String) : s.send (texts ++ more) = texts.map .accepted ++ s.send more := by
  induction texts with
  | nil => rfl
  | cons sql rest ih =>
    have hrest := ih fun x hx => h x (List.mem_cons_of_mem sql hx)
    rw [List.cons_append, send, if_pos (h sql List.mem_cons_self), hrest, List.map_cons,
      List.cons_append]

theorem send_append_of_rejected {texts : List String} (h : ¬ ∀ sql ∈ texts, s.accepts sql = true)
    (more : List String) : s.send (texts ++ more) = s.send texts := by
  induction texts with
  | nil => exact absurd (by simp) h
  | cons sql rest ih =>
    rw [List.cons_append, send, send]
    by_cases hsql : s.accepts sql = true
    · rw [if_pos hsql, if_pos hsql, ih fun hrest => h (List.forall_mem_cons.mpr ⟨hsql, hrest⟩)]
    · rw [if_neg hsql, if_neg hsql]

theorem Allows.send_append {texts more : List String} (h : s.Allows (s.send texts))
    (hmore : s.Allows (s.send more)) : s.Allows (s.send (texts ++ more)) := by
  by_cases htexts : ∀ t ∈ texts, s.accepts t = true
  · have hsend := send_append_of_accepted htexts []
    rw [List.append_nil, send, List.append_nil] at hsend
    rw [hsend] at h
    rw [send_append_of_accepted htexts]
    exact h.append hmore
  · rw [send_append_of_rejected htexts]
    exact h

/-- A text needs a license only if those before it were accepted. -/
theorem Allows.send_concat {texts : List String} {sql : String} (h : s.Allows (s.send texts))
    (hsql : (∀ t ∈ texts, s.accepts t = true) → s.Licenses (texts.map .accepted) sql) :
    s.Allows (s.send (texts ++ [sql])) := by
  by_cases htexts : ∀ t ∈ texts, s.accepts t = true
  · have hsend := send_append_of_accepted htexts []
    rw [List.append_nil, send, List.append_nil] at hsend
    rw [hsend] at h
    rw [send_append_of_accepted htexts, send]
    split
    · exact h.concat (hsql htexts)
    · exact h.concat (hsql htexts)
  · rw [send_append_of_rejected htexts]
    exact h

end Server

/-! ## Careful sessions -/

namespace Session

variable {α β : Type} {s : Server} {m : Session α} {f : α → Session β}

/-- The session sends no hazardous text without its license. -/
def Careful (m : Session α) (s : Server) : Prop := s.Allows (m.run s).attempts

theorem attempts_bind_ok {a : α} {l : List Event} (h : m.run s = ⟨.ok a, l⟩) :
    ((m >>= f).run s).attempts = (m.run s).accepted.map .accepted ++ ((f a).run s).attempts := by
  rw [run_bind_ok h, h]
  simp only [Outcome.attempts, Outcome.accepted, Outcome.rejected, Outcome.failure?,
    List.filterMap_append, List.map_append, List.append_assoc]

theorem attempts_bind_error {e : Failure} {l : List Event} (h : m.run s = ⟨.error e, l⟩) :
    ((m >>= f).run s).attempts = (m.run s).attempts := by
  rw [run_bind_error h, h]
  rfl

theorem attempts_ok {a : α} {l : List Event} (h : m.run s = ⟨.ok a, l⟩) :
    (m.run s).attempts = (m.run s).accepted.map .accepted := by
  rw [Outcome.attempts, Outcome.rejected, h]
  simp [Outcome.failure?]

theorem Careful.bind (hm : m.Careful s) (hf : ∀ a, (f a).Careful s) : (m >>= f).Careful s := by
  unfold Careful at hm ⊢
  cases ho : m.run s with
  | mk r l =>
    cases r with
    | ok a =>
      rw [attempts_ok ho] at hm
      rw [attempts_bind_ok ho]
      exact hm.append (hf a)
    | error e =>
      rw [attempts_bind_error ho]
      exact hm

theorem careful_pure (a : α) : (pure a : Session α).Careful s := Server.allows_nil

theorem careful_note (level : Level) (message : String) (values : List (String × String)) :
    (note level message values).Careful s := Server.allows_nil

theorem careful_fullName (table : String) : (fullName table).Careful s := Server.allows_nil

theorem careful_database : database.Careful s := Server.allows_nil

theorem careful_ofDialect (r : Except DialectError α) : (ofDialect r).Careful s := by
  cases r with
  | ok a => exact Server.allows_nil
  | error e => exact Server.allows_nil

/-! ## Sessions that send texts in order -/

def Sends (m : Session α) (s : Server) (texts : List String) : Prop :=
  (m.run s).attempts = s.send texts

theorem Sends.careful {texts : List String} (h : m.Sends s texts)
    (hallows : s.Allows (s.send texts)) : m.Careful s := by
  rw [Careful, h]
  exact hallows

theorem sends_execute (sql : String) (params : List Datum) :
    (execute sql params).Sends s [sql] := by
  rw [Sends, Server.send]
  cases h : s.rejection? sql with
  | none =>
    rw [run_execute_accepted h, if_pos (by simp [Server.accepts, h])]
    rfl
  | some message =>
    rw [run_execute_rejected h, if_neg (by simp [Server.accepts, h])]
    rfl

theorem sends_select (sql : String) : (select sql).Sends s [sql] := by
  rw [Sends, Server.send]
  cases h : s.rejection? sql with
  | none =>
    rw [run_select_accepted h, if_pos (by simp [Server.accepts, h])]
    rfl
  | some message =>
    rw [run_select_rejected h, if_neg (by simp [Server.accepts, h])]
    rfl

/-- The texts of a path, up to the first rejected one. -/
theorem send_texts_of_failure {path : List Event} {e : Failure}
    (h : path.findSome? (Event.failure? s) = some e) :
    s.send (path.filterMap Event.text?) =
      ((path.takeWhile (Event.passes s)).filterMap Event.text?).map .accepted ++
        e.texts.map .rejected := by
  induction path with
  | nil => cases h
  | cons first path ih =>
    cases hf : first.failure? s with
    | none =>
      rw [List.findSome?_cons, hf] at h
      have ih := ih h
      rw [List.takeWhile_cons, if_pos (by simp [Event.passes, hf]), List.filterMap_cons,
        List.filterMap_cons]
      cases ht : first.text? with
      | none => exact ih
      | some sql =>
        have hsql : s.accepts sql = true := by
          simpa [Event.failure?, ht, Server.failure?, Server.accepts] using hf
        simp only [Server.send, hsql, if_pos, List.map_cons, List.cons_append, ih]
    | some e' =>
      rw [List.findSome?_cons, hf] at h
      obtain rfl : e' = e := Option.some.inj h
      obtain ⟨sql, ht, hsql⟩ := Option.bind_eq_some_iff.mp hf
      obtain ⟨message, hm, rfl⟩ := Option.map_eq_some_iff.mp hsql
      rw [List.takeWhile_cons, if_neg (by simp [Event.passes, hf]), List.filterMap_cons, ht,
        Server.send, if_neg (by simp [Server.accepts, hm])]
      rfl

theorem all_accepted_iff {path : List Event} :
    (∀ sql ∈ path.filterMap Event.text?, s.accepts sql = true) ↔
      path.findSome? (Event.failure? s) = none := by
  rw [List.findSome?_eq_none_iff]
  constructor
  · intro h e he
    cases ht : e.text? with
    | none => rw [Event.failure?, ht, Option.bind_none]
    | some sql =>
      have hsql := h sql (List.mem_filterMap.mpr ⟨e, he, ht⟩)
      simpa [Event.failure?, ht, Server.failure?, Server.accepts] using hsql
  · intro h sql hsql
    obtain ⟨e, he, ht⟩ := List.mem_filterMap.mp hsql
    have hfailure := h e he
    simpa [Event.failure?, ht, Server.failure?, Server.accepts] using hfailure

/-- A session that comes to its result goes on with the texts that follow on it. -/
theorem Takes.sends_bind {path : List Event} {a : α} {texts : List String}
    (hm : m.Takes s path (.ok a)) (hf : (f a).Sends s texts) :
    (m >>= f).Sends s (path.filterMap Event.text? ++ texts) := by
  obtain ⟨hx, hr⟩ := hm
  have haccepted := (m.run s).accepted_eq_exchanges
  rw [hx] at haccepted
  cases ho : m.run s with
  | mk r l =>
    rw [ho] at hr haccepted
    cases hpath : path.findSome? (Event.failure? s) with
    | none =>
      -- nothing on the path is rejected, so the session goes on behind all of it
      rw [hpath] at hr
      obtain rfl : r = .ok a := hr
      rw [List.takeWhile_eq_self_iff.mpr (passes_of_findSome?_none hpath)] at haccepted
      rw [Sends, Server.send_append_of_accepted (all_accepted_iff.mpr hpath),
        attempts_bind_ok ho, ho, haccepted, hf]
    | some e =>
      rw [hpath] at hr
      obtain rfl : r = .error e := hr
      have hsend := send_texts_of_failure hpath
      have hrejected : ¬ ∀ sql ∈ path.filterMap Event.text?, s.accepts sql = true := by
        rw [all_accepted_iff, hpath]
        simp
      rw [Sends, Server.send_append_of_rejected hrejected, attempts_bind_error ho, ho, hsend,
        ← haccepted]
      rfl

theorem Takes.sends {path : List Event} {a : α} (h : m.Takes s path (.ok a)) :
    m.Sends s (path.filterMap Event.text?) := by
  have hpure : (pure a : Session α).Sends s [] := rfl
  have hbind := h.sends_bind (f := pure) hpure
  rwa [bind_pure, List.append_nil] at hbind

end Session

end SqlSchema
