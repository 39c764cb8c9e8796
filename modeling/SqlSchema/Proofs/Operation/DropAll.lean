import SqlSchema.Proofs.Operation.TablePrefix
import SqlSchema.Proofs.Session.Leaves
import SqlSchema.Proofs.Session.Plan

/-!
# Dropping every table

The tables of the listing are dropped one after the other, each as it would be by itself:
neither the prefix nor what became of the tables before it makes a difference. Those that
cannot be dropped are reported together in the end.
-/

namespace SqlSchema

namespace Tables

variable (s : Server)

/-- Dropping one table and nothing else, on a server without a prefix. -/
def dropAlone (fullName : String) : Outcome Unit := (drop fullName).run (s.withPrefix "")

theorem leaves_dropFullName (fullName : String) : (dropFullName fullName).Leaves s
    (dropAlone s fullName).result (dropAlone s fullName).exchanges := by
  have h : dropAlone s fullName = (dropFullName fullName).run (s.withPrefix "") := by
    have hname : (s.withPrefix "").fullName fullName = fullName := String.empty_append
    rw [dropAlone, drop, Session.run_bind_ok (Session.run_fullName fullName _), hname]
    rfl
  rw [h]
  have halike := alike_dropFullName (s := s) (p := "") fullName
  exact ⟨halike.result, halike.exchanges⟩

theorem leaves_tryToDrop (fullName : String) : (tryToDrop fullName).Leaves s
    (.ok (dropAlone s fullName).result) (dropAlone s fullName).exchanges := by
  have hattempt := (leaves_dropFullName s fullName).attempt
  rw [tryToDrop, ← List.append_nil (dropAlone s fullName).exchanges]
  refine hattempt.bind ?_
  cases (dropAlone s fullName).result with
  | ok u => exact Session.leaves_pure _
  | error e => exact (Session.leaves_note _ _ _).bind (Session.leaves_pure _)

/-- Whatever becomes of the tables before it, each table adds what dropping it alone leaves. -/
theorem leaves_dropEach : ∀ tables : List String, (dropEach tables).Leaves s
    (.ok (tables.filter fun table => (dropAlone s table).failure?.isNone,
      tables.filterMap fun table => (dropAlone s table).failure?))
    (tables.flatMap fun table => (dropAlone s table).exchanges)
  | [] => Session.leaves_pure _
  | table :: rest => by
    have htable := leaves_tryToDrop s table
    have hrest := leaves_dropEach rest
    rw [dropEach, List.flatMap_cons, List.filter_cons, List.filterMap_cons,
      ← List.append_nil (rest.flatMap _)]
    refine htable.bind (hrest.bind ?_)
    unfold Outcome.failure?
    cases (dropAlone s table).result with
    | ok u => exact Session.leaves_pure _
    | error e => exact Session.leaves_pure _

theorem failures_eq_nil_iff (tables : List String) :
    (tables.filterMap fun table => (dropAlone s table).failure?) = [] ↔
      ∀ table ∈ tables, (dropAlone s table).result = .ok () := by
  simp only [List.filterMap_eq_nil_iff, Outcome.result_eq_ok_iff]

def listing : String := Query.tables.sql .standard

def listed : List String := Listing.texts "TABLE_NAME" (s.answer listing)

theorem run_all_accepted (h : s.rejection? listing = none) :
    all.run s = ⟨.ok (listed s), [.query listing]⟩ := by
  have hask : (Session.ask .tables).run s = ⟨.ok (s.answer listing), [.query listing]⟩ :=
    Session.run_select_accepted h
  exact Session.run_bind_ok hask

theorem run_all_rejected {message : String} (h : s.rejection? listing = some message) :
    all.run s = ⟨.error (.rejected listing message), []⟩ := by
  have hask : (Session.ask .tables).run s = ⟨.error (.rejected listing message), []⟩ :=
    Session.run_select_rejected h
  exact Session.run_bind_error hask

theorem leaves_dropAll_rejected {message : String} (h : s.rejection? listing = some message) :
    dropAll.Leaves s (.error (.rejected listing message)) [] :=
  (Session.leaves_of_run (run_all_rejected s h)).bind_error

theorem leaves_dropAll (h : s.rejection? listing = none) :
    let failures := (listed s).filterMap fun name => (dropAlone s name).failure?
    dropAll.Leaves s (if failures = [] then .ok (listed s) else .error (.several failures))
      (.query listing :: (listed s).flatMap fun name => (dropAlone s name).exchanges) := by
  intro failures
  have hall : all.Leaves s (.ok (listed s)) [.query listing] :=
    Session.leaves_of_run (run_all_accepted s h)
  have heach := leaves_dropEach s (listed s)
  rw [dropAll, ← List.singleton_append, ← List.append_nil ((listed s).flatMap _)]
  refine hall.bind (heach.bind ?_)
  dsimp only
  by_cases hf : failures = []
  · have hdropped :
        (listed s).filter (fun name => (dropAlone s name).failure?.isNone) = listed s := by
      rw [List.filter_eq_self]
      intro name hname
      rw [List.filterMap_eq_nil_iff.mp hf name hname]
      rfl
    rw [if_pos hf, if_pos (List.isEmpty_iff.mpr hf), hdropped]
    exact Session.leaves_pure _
  · rw [if_neg hf, if_neg (by rwa [List.isEmpty_iff])]
    exact Session.leaves_fail _

end Tables

/-- If the listing is rejected, that is the failure and nothing is done. Otherwise every listed
table is dropped as it would be alone, in order and without the prefix. If all of these drops
succeed the names are the result; else it is the failures of those that fail, and no others. -/
theorem dropAll_drops_each_alone (s : Server) :
    let names := Tables.listed s
    let alone := Tables.dropAlone s
    let o := Tables.dropAll.run s
    match s.rejection? Tables.listing with
    | some message => o.result = .error (.rejected Tables.listing message) ∧ o.exchanges = []
    | none =>
      o.exchanges = .query Tables.listing :: names.flatMap (fun name => (alone name).exchanges) ∧
      o.executed = names.flatMap (fun name => (alone name).executed) ∧
      o.queries = Tables.listing :: names.flatMap (fun name => (alone name).queries) ∧
      (o.result = .ok names ↔ ∀ name ∈ names, (alone name).result = .ok ()) ∧
      (o.result = .error (.several (names.filterMap fun name => (alone name).failure?)) ↔
        ∃ name ∈ names, (alone name).result ≠ .ok ()) := by
  intro names alone o
  cases h : s.rejection? Tables.listing with
  | some message =>
    have hleaves := Tables.leaves_dropAll_rejected s h
    exact ⟨hleaves.result, hleaves.exchanges⟩
  | none =>
    obtain ⟨hr, hx⟩ := Tables.leaves_dropAll s h
    have hnone := Tables.failures_eq_nil_iff s (Tables.listed s)
    refine ⟨hx, ?_, ?_, ?_, ?_⟩
    · rw [Outcome.executed_eq_exchanges, hx, List.filterMap_cons, List.filterMap_flatMap]
      simp only [Event.statement?, ← Outcome.executed_eq_exchanges]
      rfl
    · rw [Outcome.queries_eq_exchanges, hx, List.filterMap_cons, List.filterMap_flatMap]
      simp only [Event.query?, ← Outcome.queries_eq_exchanges]
      rfl
    · constructor
      · intro ho
        rw [hr] at ho
        by_contra hall
        rw [if_neg (hnone.not.mpr hall)] at ho
        cases ho
      · intro hall
        rw [hr, if_pos (hnone.mpr hall)]
    · constructor
      · intro ho
        rw [hr] at ho
        by_contra hall
        rw [if_pos (hnone.mpr (by simpa using hall))] at ho
        cases ho
      · rintro ⟨name, hname, hfail⟩
        rw [hr, if_neg (hnone.not.mpr fun hall => hfail (hall name hname))]

end SqlSchema
