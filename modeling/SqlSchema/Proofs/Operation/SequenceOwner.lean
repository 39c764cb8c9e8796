import SqlSchema.Proofs.Operation.SequenceLife

/-!
# Whose sequence it is

The name of a sequence joins table and column by an underscore, which may itself occur in both.
So two tables have sequences of their own except where their names overlap, and where they do
the one goes with the other.
-/

namespace SqlSchema

open SequenceUse

theorem Tables.name_of_created {s : Server} {t : Table} {c : Column} {name : String}
    (hc : t.autoIncrementColumn? = some c)
    (h : .create name ∈ ((Tables.create t).run s).executed.filterMap read?) :
    name = Name.ofSequence (s.fullName t.name) c.name := by
  rw [(follows_create t).executed] at h
  have hplan := ((List.takeWhile_sublist s.accepts).filterMap read?).mem h
  rw [Table.uses_creationPlan hc] at hplan
  rcases List.mem_cons.mp hplan with e | e
  · cases e
    rfl
  · cases List.mem_singleton.mp e

/-- The names of the sequences of two tables that fit are the same exactly if one table overlaps
with the column of the other. If neither does, dropping the one table, on a server that answers
its column as the key, never drops the sequence that was created with the other. -/
theorem same_sequence_iff_overlap {p a b x y : String} (hab : a ≠ b)
    (ha : (p ++ a ++ "_" ++ x ++ "_seq").length ≤ 30)
    (hb : (p ++ b ++ "_" ++ y ++ "_seq").length ≤ 30) :
    (Name.ofSequence (p ++ a) x = Name.ofSequence (p ++ b) y ↔
      Name.Overlap a x b y ∨ Name.Overlap b y a x) ∧
    (¬ (Name.Overlap a x b y ∨ Name.Overlap b y a x) →
      ∀ (before s : Server) (t : Table) (c : Column), before.tablePrefix = p →
        s.tablePrefix = p → t.name = b → t.autoIncrementColumn? = some c → c.name = y →
        s.key? (p ++ a) = some x →
        ∀ name, .create name ∈ ((Tables.create t).run before).executed.filterMap read? →
          .drop name ∉ ((Tables.drop a).run s).executed.filterMap read?) := by
  have hiff := Name.ofSequence_eq_iff hab ha hb
  refine ⟨hiff, ?_⟩
  rintro hapart before s t c hbefore hs rfl hc rfl hkey name hcreated hdropped
  have hname := Tables.name_of_created hc hcreated
  obtain ⟨column, hcolumn, hdrop⟩ := Tables.mem_drops_of_run hdropped
  rw [Server.fullName, hbefore] at hname
  rw [Server.fullName, hs] at hcolumn hdrop
  obtain rfl : x = column := Option.some.inj (hkey.symm.trans hcolumn)
  exact hapart (hiff.mp (hdrop.trans hname))

theorem same_sequence_iff_overlap_roles :
    let t : Table := {
      name := "user"
      columns := [{ name := "role_key", type := .bigInt, primaryKey := true, autoIncrement := true }] }
    let created := (Tables.create t).run (Server.keeping "app" "p_" t.primaryKey [])
    let after := Server.keeping "app" "p_" ["id"] created.executed
    Name.ofSequence "p_user_role" "id" ≠ Name.ofSequence "p_user" "role_key" ∧
      .create "p_user_role_key_seq" ∈ created.executed.filterMap read? ∧
      .drop "p_user_role_key_seq" ∉ ((Tables.drop "user_role").run after).executed.filterMap read? := by
  intro t created after
  have hapart : ¬ (Name.Overlap "user_role" "id" "user" "role_key" ∨
      Name.Overlap "user" "role_key" "user_role" "id") := by
    rw [Name.overlap_iff, Name.overlap_iff]
    rintro (⟨part, hb, -⟩ | ⟨part, ha, hy⟩)
    · simp at hb
    · obtain rfl : ['r', 'o', 'l', 'e'] = part := by simpa using ha
      simp at hy
  obtain ⟨hiff, hkept⟩ := same_sequence_iff_overlap (p := "p_") (a := "user_role")
    (b := "user") (x := "id") (y := "role_key") (by decide) (by decide) (by decide)
  have hkey : after.key? "p_user_role" = some "id" :=
    Server.key?_of_rows (Server.keyRows_keeping "app" "p_" ["id"] created.executed "p_user_role")
  have hcreate : created.result = .ok () := (Tables.follows_create t).of_accepted fun _ _ => rfl
  have huses : .create "p_user_role_key_seq" ∈ created.executed.filterMap read? := by
    have hname : Name.ofSequence ((Server.keeping "app" "p_" t.primaryKey []).fullName t.name)
        "role_key" = "p_user_role_key_seq" := by decide
    rw [Tables.uses_create rfl hcreate, hname]
    exact List.mem_cons_self
  exact ⟨fun h => hapart (hiff.mp h), huses,
    hkept hapart _ after t _ rfl rfl rfl rfl rfl hkey _ huses⟩

/-- Dropping a table takes the sequence of another with it where their names overlap. -/
theorem drop_takes_overlapping_sequence :
    let t : Table := {
      name := "order_item"
      columns := [{ name := "id", type := .bigInt, primaryKey := true, autoIncrement := true }] }
    let created := (Tables.create t).run (Server.keeping "app" "" t.primaryKey [])
    let after := Server.keeping "app" "" ["item_id"] created.executed
    let dropped := (Tables.drop "order").run after
    "order" ≠ t.name ∧ ("order" ++ "_" ++ "item_id" ++ "_seq").length ≤ 30 ∧
      (t.name ++ "_" ++ "id" ++ "_seq").length ≤ 30 ∧
      Name.ofSequence "order" "item_id" = Name.ofSequence t.name "id" ∧
      after.key? "order" = some "item_id" ∧
      .create "order_item_id_seq" ∈ created.executed.filterMap read? ∧
      .drop "order_item_id_seq" ∈ dropped.executed.filterMap read? := by
  intro t created after dropped
  have hkey : after.key? "order" = some "item_id" :=
    Server.key?_of_rows (Server.keyRows_keeping "app" "" ["item_id"] created.executed "order")
  have hcreate : created.result = .ok () := (Tables.follows_create t).of_accepted fun _ _ => rfl
  have hdrop : dropped.result = .ok () := (Tables.takes_drop "order").of_accepted fun _ _ =>
    Server.passes_keeping _ _ _ _ _
  have hname : Name.ofSequence ((Server.keeping "app" "" t.primaryKey []).fullName t.name) "id" =
      "order_item_id_seq" := by decide
  have huses := Tables.uses_create rfl hcreate
  rw [hname] at huses
  have hstands : after.hasSequence "order_item_id_seq" = true := by
    rw [(keepsSequences_keeping "app" "" ["item_id"]).hasSequence]
    exact stands_created [] huses
  refine ⟨by decide, by decide, by decide, by decide, hkey, ?_, ?_⟩
  · rw [huses]
    exact List.mem_cons_self
  · exact (Tables.mem_drops_iff hdrop).mpr ⟨"item_id", hkey, by decide, hstands⟩

end SqlSchema
