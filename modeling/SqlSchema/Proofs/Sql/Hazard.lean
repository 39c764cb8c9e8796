import SqlSchema.Proofs.Sql.SequenceUse

/-!
# Hazards

The texts that must not be sent unasked: those that drop a sequence or a table, and those that
read the current value of a sequence. They are read from their tokens alone, so a text counts
whatever wrote it.
-/

namespace SqlSchema

inductive Hazard
  | dropSequence (name : String)
  | dropTable (name : String)
  | currentValue (name : String)
  deriving DecidableEq

def Statement.hazard? : Statement → Option Hazard
  | dropSequence name => some (.dropSequence name)
  | dropTable table => some (.dropTable table)
  | _ => none

def Query.hazard? : Query → Option Hazard
  | sequenceValue name .current => some (.currentValue name)
  | _ => none

namespace Hazard

def ofTokens? : List Token → Option Hazard
  | .word "DROP" :: .word "SEQUENCE" :: .name name :: _ => some (dropSequence name)
  | .word "DROP" :: .word "TABLE" :: .name name :: _ => some (dropTable name)
  | .word "SELECT" :: .name name :: .symbol '.' :: .word "CURRVAL" :: _ =>
    some (currentValue name)
  | _ => none

def read? (sql : String) : Option Hazard := (Token.ofText? sql).bind ofTokens?

open Token

theorem read?_of_reads {sql : String} {ts : List Token} (h : Reads sql ts) :
    read? sql = ofTokens? ts := by
  rw [read?, h.ofText?, Option.bind_some]

/-- A text is harmless if the words that open it are, whatever follows them. -/
theorem read?_of_opening {words : List String} {sql : String}
    (hwords : ∀ w ∈ words, isWord w = true) (h : ∀ us, ofTokens? (words.map word ++ us) = none)
    (hsql : (phrase words).toList <+: sql.toList) : read? sql = none := by
  obtain ⟨rest, hrest⟩ := hsql
  rw [read?, Token.ofText?, ← hrest, closed_phrase words hwords rest]
  cases Token.read? rest with
  | none => rfl
  | some us => exact h us

/-! ## Statements -/

theorem reads_drop (kind : String) (h : ∀ w ∈ ["DROP", kind], isWord w = true) (name : String) :
    Reads (phrase ["DROP", kind] ++ Quoted.quote '"' name)
      [word "DROP", word kind, Token.name name] :=
  (closed_phrase _ h).append_reads (reads_name name)

/-- The words that open a statement, as many as it takes to tell the drops apart. -/
def opening : Statement → List String
  | .createTable _ | .createIndex .. | .createSequence .. | .createSequenceFrom ..
  | .createView .. => ["CREATE"]
  | .modifyColumn .. | .bindSequence .. | .alterSequence .. | .dropForeignKey .. => ["ALTER"]
  | .commentOnTable .. | .commentOnColumn .. => ["COMMENT"]
  | .truncateTable _ => ["TRUNCATE"]
  | .setIsolation _ => ["SET"]
  | .dropView _ => ["DROP", "VIEW"]
  | .dropDatabase _ => ["DROP", "USER"]
  | .dropSequence _ => ["DROP", "SEQUENCE"]
  | .dropTable _ => ["DROP", "TABLE"]

theorem isWord_of_mem_opening (u : Statement) : ∀ w ∈ opening u, isWord w = true := by
  cases u <;> simp only [opening] <;> decide

theorem starts_with_opening (u : Statement) :
    (phrase (opening u)).toList <+: (u.sql .standard).toList := by
  have hcreate : (phrase ["CREATE"]).toList <+: "CREATE ".toList := by decide
  have htable : (phrase ["CREATE"]).toList <+: "CREATE TABLE ".toList := by decide
  have hsequence : (phrase ["CREATE"]).toList <+: "CREATE SEQUENCE ".toList := by decide
  have hview : (phrase ["CREATE"]).toList <+: "CREATE VIEW ".toList := by decide
  have halter : (phrase ["ALTER"]).toList <+: "ALTER TABLE ".toList := by decide
  have hstep : (phrase ["ALTER"]).toList <+: "ALTER SEQUENCE ".toList := by decide
  have hcomment : (phrase ["COMMENT"]).toList <+: "COMMENT ON TABLE ".toList := by decide
  have hcolumn : (phrase ["COMMENT"]).toList <+: "COMMENT ON COLUMN ".toList := by decide
  have htruncate : (phrase ["TRUNCATE"]).toList <+: "TRUNCATE TABLE ".toList := by decide
  have hset : (phrase ["SET"]).toList <+: "SET TRANSACTION ISOLATION LEVEL ".toList := by decide
  have hdropView : (phrase ["DROP", "VIEW"]).toList <+: "DROP VIEW ".toList := by decide
  have hdropUser : (phrase ["DROP", "USER"]).toList <+: "DROP USER ".toList := by decide
  have hdropSequence : (phrase ["DROP", "SEQUENCE"]).toList <+: "DROP SEQUENCE ".toList := by decide
  have hdropTable : (phrase ["DROP", "TABLE"]).toList <+: "DROP TABLE ".toList := by decide
  cases u with
  | createTable t => exact SequenceUse.prefix_foldl [_, _, _, _] htable
  | createIndex table i => exact SequenceUse.prefix_foldl [_, _, _, _, _, _, _, _] hcreate
  | createSequence name first step => exact SequenceUse.prefix_foldl [_, _, _, _, _] hsequence
  | createSequenceFrom name least step =>
    exact SequenceUse.prefix_foldl [_, _, _, _, _, _, _] hsequence
  | createView name query => exact SequenceUse.prefix_foldl [_, _, _] hview
  | modifyColumn table c nulls => exact SequenceUse.prefix_foldl [_, _, _] halter
  | bindSequence table column sequence =>
    exact SequenceUse.prefix_foldl [_, _, _, _, _, _] halter
  | alterSequence name step => exact SequenceUse.prefix_foldl [_, _, _] hstep
  | dropForeignKey table key => exact SequenceUse.prefix_foldl [_, _, _] halter
  | commentOnTable table comment => exact SequenceUse.prefix_foldl [_, _, _] hcomment
  | commentOnColumn table column comment =>
    exact SequenceUse.prefix_foldl [_, _, _, _, _] hcolumn
  | truncateTable table => exact SequenceUse.prefix_foldl [_] htruncate
  | setIsolation level => exact SequenceUse.prefix_foldl [_] hset
  | dropView name => exact SequenceUse.prefix_foldl [_] hdropView
  | dropDatabase name => exact SequenceUse.prefix_foldl [_, _] hdropUser
  | dropSequence name => exact SequenceUse.prefix_foldl [_] hdropSequence
  | dropTable table => exact SequenceUse.prefix_foldl [_] hdropTable

/-- The statements of the dialect read as the hazards that they are. -/
theorem read?_statement (u : Statement) : read? (u.sql .standard) = u.hazard? := by
  have hharmless (h : ∀ us, ofTokens? ((opening u).map word ++ us) = none) :
      read? (u.sql .standard) = none :=
    read?_of_opening (isWord_of_mem_opening u) h (starts_with_opening u)
  cases u with
  | dropSequence name =>
    have hreads : Reads ((Statement.dropSequence name).sql .standard) _ :=
      reads_drop "SEQUENCE" (by decide) name
    rw [read?_of_reads hreads]
    rfl
  | dropTable table =>
    have hreads : Reads ((Statement.dropTable table).sql .standard) _ :=
      reads_drop "TABLE" (by decide) table
    rw [read?_of_reads hreads]
    rfl
  | _ => exact hharmless fun us => rfl

/-! ## Queries -/

/-- A text that selects something other than a name in quotes. -/
def SelectsPlain (sql : String) : Prop :=
  ∃ c rest, sql.toList = (phrase ["SELECT"]).toList ++ c :: rest ∧
    Text.isBlank c = false ∧ isQuote c = false

theorem selectsPlain_of_chars {sql : String} {c : Char} {rest : List Char}
    (hsql : sql = String.ofList ('S' :: 'E' :: 'L' :: 'E' :: 'C' :: 'T' :: ' ' :: c :: rest))
    (hb : Text.isBlank c = false) (hq : isQuote c = false) : SelectsPlain sql :=
  ⟨c, rest, by rw [hsql, String.toList_ofList]; rfl, hb, hq⟩

theorem SelectsPlain.append {a : String} (h : SelectsPlain a) (b : String) :
    SelectsPlain (a ++ b) := by
  obtain ⟨c, rest, ha, hb, hq⟩ := h
  refine ⟨c, rest ++ b.toList, ?_, hb, hq⟩
  rw [String.toList_append, ha, List.append_assoc, List.cons_append]

/-- A character that neither is blank nor opens quotes belongs to a word or is a symbol. -/
theorem read?_plain {c : Char} {rest : List Char} {ts : List Token} (hb : Text.isBlank c = false)
    (hq : isQuote c = false) (h : Token.read? (c :: rest) = some ts) :
    ∃ us, (∃ w, ts = word w :: us) ∨ ts = symbol c :: us := by
  rw [Token.read?_cons, if_neg (by simp [hb]), if_neg (by simp [hq])] at h
  split at h
  · obtain ⟨us, -, rfl⟩ := Option.map_eq_some_iff.mp h
    exact ⟨us, .inl ⟨_, rfl⟩⟩
  · obtain ⟨us, -, rfl⟩ := Option.map_eq_some_iff.mp h
    exact ⟨us, .inr rfl⟩

theorem SelectsPlain.read?_eq_none {sql : String} (h : SelectsPlain sql) : read? sql = none := by
  obtain ⟨c, rest, hsql, hb, hq⟩ := h
  have hselect : Closed (phrase ["SELECT"]) [word "SELECT"] := closed_phrase _ (by decide)
  rw [read?, Token.ofText?, hsql, hselect]
  cases hrest : Token.read? (c :: rest) with
  | none => rfl
  | some ts =>
    obtain ⟨us, ⟨w, rfl⟩ | rfl⟩ := read?_plain hb hq hrest
    · rfl
    · rfl

theorem selectsPlain_of_parts {q : Query} {first : String} {rest : List Query.Part}
    (hparts : q.parts .standard = .text first :: rest) (h : SelectsPlain first) :
    SelectsPlain (q.sql .standard) := by
  rw [Query.sql, hparts, List.map_cons, String.join_cons]
  exact h.append _

theorem selectsPlain_query {q : Query} (hvalue : ∀ name which, q ≠ .sequenceValue name which)
    (hnext : ∀ name, q ≠ .nextOf name) : SelectsPlain (q.sql .standard) := by
  cases q with
  | sequenceValue name which => exact absurd rfl (hvalue name which)
  | nextOf name => exact absurd rfl (hnext name)
  | _ =>
    refine selectsPlain_of_parts rfl ?_
    repeat with_reducible apply SelectsPlain.append
    exact selectsPlain_of_chars rfl (by decide) (by decide)

/-- The queries of the dialect that name a sequence in quotes, and those that name none, read as
the hazards that they are. -/
theorem read?_query {q : Query} (h : ∀ name, q ≠ .nextOf name) :
    read? (q.sql .standard) = q.hazard? := by
  cases q with
  | sequenceValue name which =>
    rw [read?_of_reads (SequenceUse.reads_sequenceValue name which)]
    cases which with
    | next => rfl
    | current => rfl
  | nextOf name => exact absurd rfl (h name)
  | _ => exact (selectsPlain_query (by simp) h).read?_eq_none

end Hazard

end SqlSchema
