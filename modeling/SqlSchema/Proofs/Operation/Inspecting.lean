import Mathlib.Data.List.Nodup
import Mathlib.Data.List.Perm.Basic
import SqlSchema.Proofs.Operation.Gathering

/-!
# Indexes and foreign keys of a table

The indexes of a table have the columns of their own rows in the order of the answer, however the
rows are mixed. The columns of a foreign key stand by their positions, so that the order of the
answer does not matter to any of them.
-/

namespace SqlSchema

namespace Inspection

variable {s : Server} {table : String}

theorem run_askAbout {α : Type} (q : String → Query) (f : List Row → α)
    (hq : ∀ name, (q name).checkedSql .standard = .ok ((q name).sql .standard))
    (h : s.rejection? ((q (s.fullName table)).sql .standard) = none) :
    (Session.fullName table >>= fun name => Session.ask (q name) >>= fun rows =>
        pure (f rows)).run s =
      ⟨.ok (f (s.answer ((q (s.fullName table)).sql .standard))),
        [.query ((q (s.fullName table)).sql .standard)]⟩ := by
  have hask : (Session.ask (q (s.fullName table))).run s =
      ⟨.ok (s.answer ((q (s.fullName table)).sql .standard)),
        [.query ((q (s.fullName table)).sql .standard)]⟩ := by
    rw [Session.ask, hq]
    exact Session.run_select_accepted h
  rw [Session.run_bind_ok (Session.run_fullName table s), Session.run_bind_ok hask]
  rfl

/-! ## Indexes -/

def tellsOfIndex (row : Row) : Bool :=
  (row.text? "name").isSome && (row.text? "column_name").isSome

def indexing : Gathering IndexInfo where
  name? row := (row.text? "column_name").bind fun _ => row.text? "name"
  nameOf i := i.name
  opening row name := {
    name
    type := row.text? "type"
    unique := row.int? "is_unique" = some 1
    primary := row.text? "is_primary" = some "P"
    columns := (row.text? "column_name").toList }
  adding row i := { i with columns := i.columns ++ (row.text? "column_name").toList }
  nameOf_opening _ _ := rfl
  nameOf_adding _ _ := rfl

theorem addToIndexes_eq_put {row : Row} {name column : String}
    (h : row.text? "column_name" = some column) (l : List IndexInfo) :
    addToIndexes row name column l = indexing.put row name l := by
  induction l with
  | nil => simp [addToIndexes, Gathering.put, indexing, h]
  | cons i l ih =>
    rw [addToIndexes, Gathering.put, ih]
    simp [indexing, h]

theorem indexesOf_eq_gather (rows : List Row) : indexesOf rows = indexing.gather rows := by
  have hstep : gatherIndex = indexing.take := by
    funext l row
    rw [gatherIndex, Gathering.take]
    cases hcolumn : row.text? "column_name" with
    | none => cases hname : row.text? "name" <;> simp [indexing, hcolumn]
    | some column =>
      cases hname : row.text? "name" with
      | none => simp [indexing, hcolumn, hname]
      | some name =>
        have hkey : indexing.name? row = some name := by simp [indexing, hcolumn, hname]
        rw [hkey]
        exact addToIndexes_eq_put hcolumn l
  rw [indexesOf, Gathering.gather, hstep]

theorem indexing_name?_eq_some_iff {row : Row} {name : String} :
    indexing.name? row = some name ↔ tellsOfIndex row = true ∧ row.text? "name" = some name := by
  cases hcolumn : row.text? "column_name" with
  | none => simp [indexing, tellsOfIndex, hcolumn]
  | some column =>
    cases hname : row.text? "name" with
    | none => simp [indexing, tellsOfIndex, hcolumn, hname]
    | some n => simp [indexing, tellsOfIndex, hcolumn, hname]

theorem rowsOf_indexing (name : String) (rows : List Row) :
    indexing.rowsOf name rows =
      (rows.filter tellsOfIndex).filter fun row => row.text? "name" = some name := by
  rw [Gathering.rowsOf, List.filter_filter]
  refine List.filter_congr fun row _ => ?_
  rw [Bool.eq_iff_iff]
  simp only [decide_eq_true_eq, Bool.and_eq_true, indexing_name?_eq_some_iff]
  exact and_comm

theorem filterMap_indexing (rows : List Row) :
    rows.filterMap indexing.name? = (rows.filter tellsOfIndex).filterMap (·.text? "name") := by
  rw [List.filterMap_filter]
  refine List.filterMap_congr fun row _ => ?_
  ext name
  rw [indexing_name?_eq_some_iff]
  cases tellsOfIndex row <;> simp

theorem foldl_indexing_adding (rows : List Row) (i : IndexInfo) :
    rows.foldl (fun i row => indexing.adding row i) i =
      { i with columns := i.columns ++ rows.filterMap (·.text? "column_name") } := by
  induction rows generalizing i with
  | nil => simp
  | cons row rows ih =>
    rw [List.foldl_cons, ih]
    cases hcolumn : row.text? "column_name" <;> simp [indexing, hcolumn]

theorem of_indexing_gathered? {name : String} {rows : List Row} {i : IndexInfo}
    (h : indexing.gathered? name rows = some i) : ∃ first rest, rows = first :: rest ∧
      i.columns = rows.filterMap (·.text? "column_name") ∧
      i.type = first.text? "type" ∧ i.unique = decide (first.int? "is_unique" = some 1) ∧
      i.primary = decide (first.text? "is_primary" = some "P") := by
  cases rows with
  | nil => cases h
  | cons first rest =>
    rw [Gathering.gathered?, foldl_indexing_adding] at h
    obtain rfl := Option.some.inj h
    refine ⟨first, rest, rfl, ?_, rfl, rfl, rfl⟩
    cases hfirst : first.text? "column_name" <;> simp [indexing, hfirst]

theorem map_some_filterMap {α β : Type} {f : α → Option β} {l : List α}
    (h : ∀ a ∈ l, (f a).isSome = true) : (l.filterMap f).map some = l.map f := by
  induction l with
  | nil => rfl
  | cons a l ih =>
    obtain ⟨b, hb⟩ := Option.isSome_iff_exists.mp (h a List.mem_cons_self)
    rw [List.filterMap_cons_some hb, List.map_cons, List.map_cons, hb,
      ih fun c hc => h c (List.mem_cons_of_mem a hc)]

theorem length_column {row : Row} {name : String} (h : indexing.name? row = some name) :
    (row.text? "column_name").toList.length = 1 := by
  have hrow := (indexing_name?_eq_some_iff.mp h).1
  obtain ⟨column, hcolumn⟩ := Option.isSome_iff_exists.mp (Bool.and_eq_true_iff.mp hrow).2
  rw [hcolumn]
  rfl

/-- Whatever rows the catalog answers, there is one index for each name, in the order in which
the names first occur among the rows with a name and a column. It has the columns of the rows of
its name, one for each of them in their order; all else is as the first of them says. Other rows
contribute nothing. -/
theorem indexes_have_their_rows (s : Server) (table : String)
    (h : s.rejection? ((Query.indexes (s.fullName table)).sql .standard) = none) :
    let sql := (Query.indexes (s.fullName table)).sql .standard
    let rows := (s.answer sql).filter tellsOfIndex
    ∃ found : List IndexInfo,
      (indexes table).run s = ⟨.ok found, [.query sql]⟩ ∧
      found.map (·.name) = (rows.filterMap (·.text? "name")).eraseDups ∧
      (found.map (·.name)).Nodup ∧
      (found.map (·.columns.length)).sum = rows.length ∧
      ∀ i ∈ found, ∃ first rest,
        rows.filter (fun row => row.text? "name" = some i.name) = first :: rest ∧
        i.columns.map some = (first :: rest).map (·.text? "column_name") ∧
        i.type = first.text? "type" ∧
        i.unique = decide (first.int? "is_unique" = some 1) ∧
        i.primary = decide (first.text? "is_primary" = some "P") := by
  intro sql rows
  have hrun : (indexes table).run s = ⟨.ok (indexesOf (s.answer sql)), [.query sql]⟩ :=
    run_askAbout .indexes indexesOf (fun _ => rfl) h
  rw [indexesOf_eq_gather] at hrun
  have hcolumn : ∀ row ∈ rows, (row.text? "column_name").isSome = true := fun row hrow =>
    (Bool.and_eq_true_iff.mp (List.mem_filter.mp hrow).2).2
  refine ⟨_, hrun, ?_, Gathering.nodup_gather (g := indexing) _, ?_, fun i hi => ?_⟩
  · rw [← filterMap_indexing]
    exact Gathering.names_gather (g := indexing) _
  · have hnames : (rows.filterMap (·.text? "name")).map some = rows.map (·.text? "name") :=
      map_some_filterMap fun row hrow =>
        (Bool.and_eq_true_iff.mp (List.mem_filter.mp hrow).2).1
    have hlength := congrArg List.length hnames
    rw [List.length_map, List.length_map] at hlength
    rw [← hlength, ← filterMap_indexing]
    apply Gathering.sum_gather
    · intro row name hname
      simp [indexing, length_column hname]
    · intro row name hname i
      simp [indexing, length_column hname]
  · have hentry := Gathering.gathered?_of_mem_gather hi
    rw [rowsOf_indexing] at hentry
    obtain ⟨first, rest, hown, hcolumns, hrest⟩ := of_indexing_gathered? hentry
    refine ⟨first, rest, hown, ?_, hrest⟩
    rw [hcolumns, ← hown]
    exact map_some_filterMap fun row hrow => hcolumn row (List.mem_filter.mp hrow).1

/-- Names are compared to the letter, while columns of a row are found in any case. -/
theorem indexes_have_their_rows_mixed :
    let first := Row.ofList [("NAME", .text "PK"), ("TYPE", .text "NORMAL"),
      ("is_unique", .text "1"), ("COLUMN_NAME", .text "ID"), ("IS_PRIMARY", .text "P")]
    let other := Row.ofList [("name", .text "pk"), ("column_name", .text "a")]
    let last := Row.ofList [("name", .text "PK"), ("Column_Name", .text "NO"), ("type", .null)]
    let s : Server := {
      database := "app", tablePrefix := "p_", rejection? := fun _ => none
      answer := fun _ => [first, other, Row.ofList [("name", .text "PK")], last] }
    let sql := (Query.indexes "p_users").sql .standard
    s.rejection? sql = none ∧ ∃ i j : IndexInfo,
      (indexes "users").run s = ⟨.ok [i, j], [.query sql]⟩ ∧
      i.name = "PK" ∧ i.columns = ["ID", "NO"] ∧ i.type = some "NORMAL" ∧ i.unique = true ∧
      i.primary = true ∧ j.name = "pk" ∧ j.columns = ["a"] ∧ j.unique = false := by
  intro first other last s sql
  obtain ⟨found, hrun, hnames, -, -, hrows⟩ := indexes_have_their_rows s "users" rfl
  have htwo : found.map (·.name) = ["PK", "pk"] := hnames.trans (by decide)
  obtain ⟨i, found, rfl, hi, hrest⟩ := List.map_eq_cons_iff.mp htwo
  obtain ⟨j, found, rfl, hj, hnone⟩ := List.map_eq_cons_iff.mp hrest
  obtain rfl := List.map_eq_nil_iff.mp hnone
  obtain ⟨fi, ri, hown, hcolumns, htype, hunique, hprimary⟩ := hrows i (by simp)
  obtain ⟨fj, rj, hown', hcolumns', htype', hunique', hprimary'⟩ := hrows j (by simp)
  rw [hi] at hown
  rw [hj] at hown'
  obtain ⟨rfl, rfl⟩ := List.cons.inj (hown.symm.trans (show _ = [first, last] from rfl))
  obtain ⟨rfl, rfl⟩ := List.cons.inj (hown'.symm.trans (show _ = [other] from rfl))
  refine ⟨rfl, i, j, hrun, hi, ?_, htype.trans (by decide), hunique.trans (by decide),
    hprimary.trans (by decide), hj, ?_, hunique'.trans (by decide)⟩
  · exact List.map_injective_iff.mpr (fun _ _ => Option.some.inj) (hcolumns.trans (by decide))
  · exact List.map_injective_iff.mpr (fun _ _ => Option.some.inj) (hcolumns'.trans (by decide))

/-! ## Foreign keys -/

def linking : Gathering ForeignKeyInfo where
  name? row := row.text? "constraint_name"
  nameOf k := k.name
  opening row name := withColumnsOf row {
    name
    localColumns := []
    foreignTable := row.text? "references_table"
    foreignColumns := []
    onDelete := row.text? "delete_rule" }
  adding := withColumnsOf
  nameOf_opening _ _ := rfl
  nameOf_adding _ _ := rfl

theorem addToForeignKeys_eq_put (row : Row) (name : String) (l : List ForeignKeyInfo) :
    addToForeignKeys row name l = linking.put row name l := by
  induction l with
  | nil => rfl
  | cons k l ih =>
    rw [addToForeignKeys, Gathering.put, ih]
    rfl

def byPosition (rows : List Row) : List Row := rows.mergeSort fun a b => position a ≤ position b

theorem foreignKeysOf_eq_gather (rows : List Row) :
    foreignKeysOf rows = linking.gather (byPosition rows) := by
  have hstep : gatherForeignKey = linking.take := by
    funext l row
    rw [gatherForeignKey, Gathering.take]
    cases hname : row.text? "constraint_name" with
    | none => simp [linking, hname]
    | some name =>
      have hkey : linking.name? row = some name := hname
      rw [hkey]
      exact addToForeignKeys_eq_put row name l
  rw [foreignKeysOf, Gathering.gather, hstep]
  rfl

/-- The rows by position, those of the same position in their order. -/
structure SortedByPosition (rows sorted : List Row) : Prop where
  perm : sorted.Perm rows
  ordered : sorted.Pairwise fun a b => position a ≤ position b
  stable : ∀ p,
    sorted.filter (fun row => position row = p) = rows.filter fun row => position row = p

theorem sorted_byPosition (rows : List Row) : SortedByPosition rows (byPosition rows) := by
  have htrans (a b c : Row) (hab : decide (position a ≤ position b) = true)
      (hbc : decide (position b ≤ position c) = true) :
      decide (position a ≤ position c) = true := by
    simp only [decide_eq_true_eq] at *
    omega
  have htotal (a b : Row) :
      (decide (position a ≤ position b) || decide (position b ≤ position a)) = true := by
    simp only [Bool.or_eq_true, decide_eq_true_eq]
    omega
  have hperm : (byPosition rows).Perm rows := List.mergeSort_perm _ _
  refine ⟨hperm, ?_, fun p => ?_⟩
  · have h := List.pairwise_mergeSort htrans htotal rows
    simpa [byPosition] using h
  · -- the rows of one position are in order as they stand, so sorting keeps them as they stand
    have hclass : (rows.filter fun row => position row = p).Pairwise
        fun a b => decide (position a ≤ position b) = true := by
      refine List.pairwise_of_forall_mem_list fun a ha b hb => ?_
      have hpa := (List.mem_filter.mp ha).2
      have hpb := (List.mem_filter.mp hb).2
      simp only [decide_eq_true_eq] at *
      omega
    have hsub := (List.sublist_mergeSort htrans htotal hclass List.filter_sublist).filter
      fun row => position row = p
    rw [List.filter_filter] at hsub
    simp only [Bool.and_self] at hsub
    exact (hsub.eq_of_length (hperm.filter _).length_eq.symm).symm

/-- What a foreign key says of its rows. -/
structure MadeOf (k : ForeignKeyInfo) (own : List Row) : Prop where
  localColumns : k.localColumns = own.filterMap (·.text? "local_column")
  foreignColumns : k.foreignColumns = own.filterMap (·.text? "foreign_column")
  first : ∃ row, own.head? = some row ∧ k.foreignTable = row.text? "references_table" ∧
    k.onDelete = row.text? "delete_rule"

theorem foldl_linking_adding (rows : List Row) (k : ForeignKeyInfo) :
    rows.foldl (fun k row => linking.adding row k) k =
      { k with
        localColumns := k.localColumns ++ rows.filterMap (·.text? "local_column")
        foreignColumns := k.foreignColumns ++ rows.filterMap (·.text? "foreign_column") } := by
  induction rows generalizing k with
  | nil => simp
  | cons row rows ih =>
    rw [List.foldl_cons, ih]
    cases hlocal : row.text? "local_column" <;> cases hforeign : row.text? "foreign_column" <;>
      simp [linking, withColumnsOf, hlocal, hforeign]

theorem madeOf_linking_gathered? {name : String} {rows : List Row} {k : ForeignKeyInfo}
    (h : linking.gathered? name rows = some k) : MadeOf k rows := by
  cases rows with
  | nil => cases h
  | cons first rest =>
    rw [Gathering.gathered?, foldl_linking_adding] at h
    obtain rfl := Option.some.inj h
    refine ⟨?_, ?_, first, rfl, rfl, rfl⟩
    · cases hlocal : first.text? "local_column" <;> simp [linking, withColumnsOf, hlocal]
    · cases hforeign : first.text? "foreign_column" <;> simp [linking, withColumnsOf, hforeign]

theorem MadeOf.unique {k k' : ForeignKeyInfo} {own : List Row} (h : MadeOf k own)
    (h' : MadeOf k' own) (hname : k.name = k'.name) : k = k' := by
  obtain ⟨hlocal, hforeign, first, hfirst, htable, hdelete⟩ := h
  obtain ⟨hlocal', hforeign', first', hfirst', htable', hdelete'⟩ := h'
  obtain rfl := Option.some.inj (hfirst.symm.trans hfirst')
  cases k
  cases k'
  simp_all

def SameKey (a b : Row) : Prop :=
  (a.text? "constraint_name").isSome = true ∧
    a.text? "constraint_name" = b.text? "constraint_name"

/-- No two rows of one constraint have the same position. -/
def PlacedApart (rows : List Row) : Prop :=
  rows.Pairwise fun a b => SameKey a b → position a ≠ position b

instance (a b : Row) : Decidable (SameKey a b) := inferInstanceAs (Decidable (_ ∧ _))

instance (rows : List Row) : Decidable (PlacedApart rows) :=
  inferInstanceAs (Decidable (List.Pairwise _ _))

theorem SameKey.symm {a b : Row} (h : SameKey a b) : SameKey b a := ⟨h.2 ▸ h.1, h.2.symm⟩

theorem PlacedApart.perm {rows rows' : List Row} (h : PlacedApart rows)
    (hperm : rows'.Perm rows) : PlacedApart rows' :=
  (hperm.pairwise_iff fun hab hba => (hab hba.symm).symm).mpr h

def rowsOfKey (name : String) (rows : List Row) : List Row :=
  rows.filter fun row => row.text? "constraint_name" = some name

/-- The rows of a constraint by increasing position. -/
structure InPlaces (name : String) (rows own : List Row) : Prop where
  perm : own.Perm (rowsOfKey name rows)
  increasing : own.Pairwise fun a b => position a < position b

theorem InPlaces.unique {name : String} {rows rows' own own' : List Row}
    (h : InPlaces name rows own) (h' : InPlaces name rows' own') (hperm : rows'.Perm rows) :
    own = own' := by
  have hown : own.Perm own' := h.perm.trans ((hperm.symm.filter _).trans h'.perm.symm)
  refine hown.eq_of_pairwise (fun a b _ _ hab hba => ?_) h.increasing h'.increasing
  exact absurd hab (Int.not_lt.mpr (Int.le_of_lt hba))

theorem inPlaces_byPosition {rows : List Row} (h : PlacedApart rows) (name : String) :
    InPlaces name rows (rowsOfKey name (byPosition rows)) := by
  have hsorted := sorted_byPosition rows
  refine ⟨hsorted.perm.filter _, ?_⟩
  have hboth := (hsorted.ordered.and (h.perm hsorted.perm)).filter
    fun row => row.text? "constraint_name" = some name
  refine hboth.imp_of_mem fun {a b} ha hb hab => ?_
  have hna := (List.mem_filter.mp ha).2
  have hnb := (List.mem_filter.mp hb).2
  simp only [decide_eq_true_eq] at hna hnb
  exact Int.lt_iff_le_and_ne.mpr ⟨hab.1, hab.2 ⟨by rw [hna]; rfl, hna.trans hnb.symm⟩⟩

theorem madeOf_of_mem_foreignKeysOf {rows : List Row} {k : ForeignKeyInfo}
    (h : k ∈ foreignKeysOf rows) : MadeOf k (rowsOfKey k.name (byPosition rows)) := by
  rw [foreignKeysOf_eq_gather] at h
  exact madeOf_linking_gathered? (Gathering.gathered?_of_mem_gather h)

theorem nodup_foreignKeysOf (rows : List Row) : ((foreignKeysOf rows).map (·.name)).Nodup := by
  rw [foreignKeysOf_eq_gather]
  exact Gathering.nodup_gather (g := linking) _

theorem names_foreignKeysOf (rows : List Row) : (foreignKeysOf rows).map (·.name) =
    ((byPosition rows).filterMap (·.text? "constraint_name")).eraseDups := by
  rw [foreignKeysOf_eq_gather]
  exact Gathering.names_gather (g := linking) _

theorem mem_names_foreignKeysOf {rows : List Row} {name : String} :
    name ∈ (foreignKeysOf rows).map (·.name) ↔
      name ∈ rows.filterMap (·.text? "constraint_name") := by
  rw [names_foreignKeysOf, List.mem_eraseDups]
  exact ((sorted_byPosition rows).perm.filterMap _).mem_iff

theorem mem_foreignKeysOf_of_perm {rows rows' : List Row} (h : PlacedApart rows)
    (hperm : rows'.Perm rows) {k : ForeignKeyInfo} (hk : k ∈ foreignKeysOf rows) :
    k ∈ foreignKeysOf rows' := by
  have hname : k.name ∈ (foreignKeysOf rows').map (·.name) := by
    rw [mem_names_foreignKeysOf, (hperm.filterMap _).mem_iff, ← mem_names_foreignKeysOf]
    exact List.mem_map_of_mem hk
  obtain ⟨k', hk', he⟩ := List.mem_map.mp hname
  have hplaces := inPlaces_byPosition h k.name
  have hplaces' := inPlaces_byPosition (h.perm hperm) k.name
  have hmade' := madeOf_of_mem_foreignKeysOf hk'
  rw [he, ← hplaces.unique hplaces' hperm] at hmade'
  rwa [← hmade'.unique (madeOf_of_mem_foreignKeysOf hk) he]

/-- The order of the rows changes the order of the foreign keys at most. -/
theorem foreignKeysOf_perm {rows rows' : List Row} (h : PlacedApart rows)
    (hperm : rows'.Perm rows) : (foreignKeysOf rows').Perm (foreignKeysOf rows) := by
  rw [List.perm_ext_iff_of_nodup (List.Nodup.of_map _ (nodup_foreignKeysOf rows'))
    (List.Nodup.of_map _ (nodup_foreignKeysOf rows))]
  intro k
  constructor
  · exact mem_foreignKeysOf_of_perm (h.perm hperm) hperm.symm
  · exact mem_foreignKeysOf_of_perm h hperm

/-- However the rows are mixed, if those of each constraint differ in their positions, there is
one foreign key for each name of a constraint, in the order in which the names first occur among
the rows by position. Its columns are those of its own rows by increasing position, column for
column of the same row if no row lacks one; the table that it refers to and what it does on a
deletion are as the row of the least position says. Other rows contribute nothing. The same rows
in another order give the same foreign keys, at most in another order. -/
theorem foreign_keys_stand_by_position (s : Server) (table : String)
    (h : s.rejection? ((Query.foreignKeys (s.fullName table)).sql .standard) = none)
    (hplaced : PlacedApart (s.answer ((Query.foreignKeys (s.fullName table)).sql .standard))) :
    let sql := (Query.foreignKeys (s.fullName table)).sql .standard
    let rows := s.answer sql
    ∃ (found : List ForeignKeyInfo) (sorted : List Row),
      (foreignKeys table).run s = ⟨.ok found, [.query sql]⟩ ∧
      SortedByPosition rows sorted ∧
      found.map (·.name) = (sorted.filterMap (·.text? "constraint_name")).eraseDups ∧
      (found.map (·.name)).Nodup ∧
      (∀ k ∈ found, ∃ own, InPlaces k.name rows own ∧ MadeOf k own ∧
        ((∀ row ∈ own, (row.text? "local_column").isSome = true ∧
            (row.text? "foreign_column").isSome = true) →
          k.localColumns.map some = own.map (·.text? "local_column") ∧
          k.foreignColumns.map some = own.map (·.text? "foreign_column"))) ∧
      ∀ s' : Server, s'.tablePrefix = s.tablePrefix → s'.rejection? sql = none →
        (s'.answer sql).Perm rows → ∃ found',
          (foreignKeys table).run s' = ⟨.ok found', [.query sql]⟩ ∧ found'.Perm found := by
  intro sql rows
  have hrun {s : Server} (h : s.rejection? ((Query.foreignKeys (s.fullName table)).sql .standard) =
      none) := run_askAbout .foreignKeys foreignKeysOf (fun _ => rfl) h
  refine ⟨foreignKeysOf rows, byPosition rows, hrun h, sorted_byPosition rows,
    names_foreignKeysOf rows, nodup_foreignKeysOf rows, fun k hk => ?_,
    fun s' hprefix h' hperm => ?_⟩
  · refine ⟨_, inPlaces_byPosition hplaced k.name, madeOf_of_mem_foreignKeysOf hk, fun hboth => ?_⟩
    obtain ⟨hlocal, hforeign, -⟩ := madeOf_of_mem_foreignKeysOf hk
    rw [hlocal, hforeign]
    exact ⟨map_some_filterMap fun row hrow => (hboth row hrow).1,
      map_some_filterMap fun row hrow => (hboth row hrow).2⟩
  · have hname : s'.fullName table = s.fullName table := by
      rw [Server.fullName, hprefix]
      rfl
    have hrun' := hrun (s := s') (by rwa [hname])
    rw [hname] at hrun'
    exact ⟨_, hrun', foreignKeysOf_perm hplaced hperm⟩

/-- Positions are compared as numbers, also where they come as text. -/
theorem foreign_keys_stand_by_position_texts :
    let tenth := Row.ofList [("CONSTRAINT_NAME", .text "FK"), ("POSITION", .text "10"),
      ("local_column", .text "b"), ("foreign_column", .text "y"), ("delete_rule", .text "CASCADE")]
    let ninth := Row.ofList [("constraint_name", .text "FK"), ("position", .text " +9 "),
      ("local_column", .text "a"), ("foreign_column", .text "x"), ("references_table", .text "t")]
    let other := Row.ofList [("constraint_name", .text "fk"), ("position", .int 9),
      ("local_column", .text "c")]
    let rows := [tenth, Row.ofList [("position", .int 9)], other, ninth]
    let s (rows : List Row) : Server := {
      database := "app", tablePrefix := "p_", rejection? := fun _ => none, answer := fun _ => rows }
    let sql := (Query.foreignKeys "p_users").sql .standard
    (s rows).rejection? sql = none ∧ PlacedApart rows ∧ ∃ found found' k,
      (foreignKeys "users").run (s rows) = ⟨.ok found, [.query sql]⟩ ∧
      (foreignKeys "users").run (s rows.reverse) = ⟨.ok found', [.query sql]⟩ ∧
      found'.Perm found ∧ k ∈ found ∧ k.name = "FK" ∧ k.localColumns = ["a", "b"] ∧
      k.foreignColumns = ["x", "y"] ∧ k.foreignTable = some "t" ∧ k.onDelete = none := by
  intro tenth ninth other rows s sql
  have hplaced : PlacedApart rows := by decide
  obtain ⟨found, sorted, hrun, hsorted, hnames, -, hkeys, hperm⟩ :=
    foreign_keys_stand_by_position (s rows) "users" rfl hplaced
  obtain ⟨found', hrun', hfound'⟩ := hperm (s rows.reverse) rfl rfl rows.reverse_perm
  have hmem : "FK" ∈ found.map (·.name) := by
    rw [hnames, List.mem_eraseDups, (hsorted.perm.filterMap _).mem_iff]
    decide
  obtain ⟨k, hk, hname⟩ := List.mem_map.mp hmem
  obtain ⟨own, hplaces, ⟨hlocal, hforeign, first, hfirst, htable, hdelete⟩, -⟩ := hkeys k hk
  have hown : InPlaces "FK" rows [ninth, tenth] :=
    ⟨List.Perm.swap tenth ninth [], by decide⟩
  rw [hname] at hplaces
  obtain rfl := hplaces.unique hown (List.Perm.refl rows)
  obtain rfl := Option.some.inj hfirst
  exact ⟨rfl, hplaced, found, found', k, hrun, hrun', hfound', hk, hname, hlocal.trans (by decide),
    hforeign.trans (by decide), htable.trans (by decide), hdelete.trans (by decide)⟩

end Inspection

end SqlSchema
