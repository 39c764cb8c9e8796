import SqlSchema.CommandLine.Run
import SqlSchema.Operation.Inspection
import SqlSchema.Proofs.Operation.Altering
import SqlSchema.Proofs.Operation.Bare
import SqlSchema.Proofs.Operation.Creation

/-!
# What a dry run prints

Without a server the program prints what the operations of the library would send to one under
the prefix that is in effect. Creating and altering print the statements that are executed, each
with a semicolon and a newline behind it; asking the catalog prints the one query that is asked.
Notices stand between and are left aside.
-/

namespace SqlSchema.CommandLine

/-! ## What an ending says -/

namespace Ending

def output : Ending → List Piece
  | notUnderstood => []
  | done output => output
  | failed output _ => output

def trouble? : Ending → Option Trouble
  | failed _ t => some t
  | _ => none

def printed (e : Ending) : String := printedText e.output

structure FailsSilently (e : Ending) : Prop where
  printed : e.printed = ""
  exitCode : e.exitCode = 1

variable {e : Ending} {f : List Piece → List Piece}

theorem printed_mapOutput (hf : ∀ l, printedText (f l) = printedText l) :
    (e.mapOutput f).printed = e.printed := by
  cases e with
  | notUnderstood => rfl
  | done output => exact hf output
  | failed output t => exact hf output

theorem trouble?_mapOutput : (e.mapOutput f).trouble? = e.trouble? := by
  cases e <;> rfl

theorem exitCode_mapOutput : (e.mapOutput f).exitCode = e.exitCode := by
  cases e <;> rfl

theorem failsSilently_failed (t : Trouble) : (failed [] t).FailsSilently := ⟨rfl, rfl⟩

theorem FailsSilently.mapOutput (h : e.FailsSilently)
    (hf : ∀ l, printedText (f l) = printedText l) : (e.mapOutput f).FailsSilently := by
  refine ⟨?_, ?_⟩
  · rw [printed_mapOutput hf, h.printed]
  · rw [exitCode_mapOutput, h.exitCode]

end Ending

/-! ## Outcomes and what is shown of them -/

/-- Statements as they are printed: a semicolon and a newline behind each. -/
def printedStatements (statements : List String) : String :=
  String.join (statements.map (· ++ ";\n"))

/-- The ending tells of an outcome: it prints the statements executed, succeeds if the outcome
did, and fails for the same reason. -/
structure Ending.Shows {α : Type} (e : Ending) (o : Outcome α) : Prop where
  printed : e.printed = printedStatements o.executed
  exitCode : e.exitCode = 0 ↔ ∃ a, o.result = .ok a
  failure : ∀ f, o.result = .error f → e.trouble? = some (.failure f)

theorem printed_statements_nil : printedStatements [] = "" := by
  simp [printedStatements]

theorem Ending.Shows.mapOutput {α : Type} {e : Ending} {o : Outcome α} {f : List Piece → List Piece}
    (h : e.Shows o) (hf : ∀ l, printedText (f l) = printedText l) : (e.mapOutput f).Shows o := by
  refine ⟨?_, ?_, fun g hg => ?_⟩
  · rw [printed_mapOutput hf, h.printed]
  · rw [exitCode_mapOutput, h.exitCode]
  · rw [trouble?_mapOutput, h.failure g hg]

theorem Ending.Shows.failsSilently {α : Type} {e : Ending} {o : Outcome α} {f : Failure}
    (h : e.Shows o) (hf : o.result = .error f) (hnone : o.executed = []) : e.FailsSilently := by
  refine ⟨?_, ?_⟩
  · rw [h.printed, hnone, printed_statements_nil]
  · have htrouble := h.failure f hf
    cases e with
    | notUnderstood => cases htrouble
    | done output => cases htrouble
    | failed output t => rfl

theorem transcript_of_bare {events : List Event} (h : ∀ e ∈ events, e.isBare = true) :
    Script.transcript events = printedStatements (events.filterMap Event.statement?) := by
  unfold Script.transcript printedStatements
  induction events with
  | nil => rfl
  | cons e events ih =>
    have ih := ih fun d hd => h d (List.mem_cons_of_mem e hd)
    have he := h e List.mem_cons_self
    cases e with
    | statement sql params =>
      obtain rfl : params = [] := List.isEmpty_iff.mp he
      simp [Event.statement?, Script.shown, Script.shownStatement, ih]
    | query sql => simp [List.filterMap_cons, Event.statement?, Script.shown, ih]
    | notice n => simp [List.filterMap_cons, Event.statement?, Script.shown, ih]

theorem transcript_append_notice (events : List Event) (n : Notice) :
    Script.transcript (events ++ [.notice n]) = Script.transcript events := by
  simp [Script.transcript, Script.shown]

/-- A dry run of a bare session, with a notice in the end, shows the outcome of the session. -/
theorem dryRun_shows (settings : Settings) {m : Session Unit} (hm : m.Bare (dryServer settings))
    (level : Level) (message : String) (values : List (String × String)) :
    (dryRun (m >>= fun _ => Session.note level message values) settings).Shows
      (m.run (dryServer settings)) := by
  unfold Session.Bare at hm
  unfold dryRun
  cases ho : m.run (dryServer settings) with
  | mk r l =>
    rw [ho] at hm
    have hprinted := transcript_of_bare hm
    cases r with
    | error e =>
      rw [Session.run_bind_error ho]
      refine ⟨?_, by simp [Ending.exitCode], fun f hf => ?_⟩
      · exact (printedText_ofEvent l).trans hprinted
      · cases hf
        rfl
    | ok a =>
      rw [Session.run_bind_ok ho]
      refine ⟨?_, by simp [Ending.exitCode], fun f hf => by cases hf⟩
      -- the notice in the end is printed as nothing
      rw [← transcript_append_notice l ⟨level, message, values⟩] at hprinted
      exact (printedText_ofEvent _).trans hprinted

/-! ## From arguments to a command -/

def Request.loaded (r : Request) (s : Surroundings) : Except Failure Settings :=
  match r.settingsFile with
  | some path => Settings.ofFile (s.file path)
  | none => Settings.ofVariables s.lookup

/-- The settings with the table prefix of the request, if it gives one. -/
def Request.effective (r : Request) (base : Settings) : Settings :=
  { base with tablePrefix := r.tablePrefix.getD base.tablePrefix }

variable {args : List String} {s : Surroundings} {r : Request} {base : Settings}

theorem settings_of_loaded (h : r.loaded s = .ok base) : settings r s = .ok (r.effective base) := by
  unfold Request.loaded at h
  unfold settings
  cases hf : r.settingsFile with
  | none =>
    simp only [hf] at h ⊢
    simp only [h]
    rfl
  | some path =>
    simp only [hf] at h ⊢
    simp only [h]
    rfl

/-- Notices aside, a request that is not to be executed does what its command does. -/
theorem run_eq_mapOutput (hasked : asked? args s.lookup = some (.run r))
    (hload : r.loaded s = .ok base) (hdry : r.execute = false) :
    ∃ f : List Piece → List Piece, (∀ l, printedText (f l) = printedText l) ∧
      run args s = (r.command.run (r.effective base) s).mapOutput f := by
  have hrun : run args s = r.run s := by simp only [run, hasked]
  rw [hrun, Request.run, settings_of_loaded hload]
  simp only [hdry]
  cases r.command.needsServer with
  | false =>
    refine ⟨id, fun l => rfl, ?_⟩
    cases r.command.run (r.effective base) s <;> rfl
  | true =>
    refine ⟨fun output => (.noted dryRunNotice :: output).filter (·.isShown r.detailed), ?_, rfl⟩
    intro l
    exact printedText_filter r.detailed _

/-! ## The catalog -/

/-- The queries of the library call for a kind of object on a server. Kinds that are listed for
a table have none without one. -/
def CatalogKind.queries? (kind : CatalogKind) (table : Option String) (s : Server) :
    Option (List String) :=
  match kind with
  | .tables => some (Tables.all.run s).queries
  | .views => some (Inspection.views.run s).queries
  | .sequences => some (Inspection.sequences.run s).queries
  | .columns => table.map fun t => ((Inspection.columns t).run s).queries
  | .indexes => table.map fun t => ((Inspection.indexes t).run s).queries
  | .foreignKeys => table.map fun t => ((Inspection.foreignKeys t).run s).queries
  | .constraints => table.map fun t => ((Inspection.constraints t).run s).queries
  | .databases => some (Inspection.databases.run s).queries

/-- The command and the library ask the same query, or there is no table to ask about. -/
theorem catalogQuery_agrees (kind : CatalogKind) (table : Option String) (settings : Settings) :
    (∃ query, catalogQuery kind table settings = .ok query ∧
      kind.queries? table (dryServer settings) = some [query.sql .standard]) ∨
    catalogQuery kind table settings = .error .noTable ∧
      kind.queries? table (dryServer settings) = none := by
  cases kind with
  | tables => exact .inl ⟨_, rfl, rfl⟩
  | views => exact .inl ⟨_, rfl, rfl⟩
  | sequences => exact .inl ⟨_, rfl, rfl⟩
  | databases => exact .inl ⟨_, rfl, rfl⟩
  | columns =>
    cases table with
    | none => exact .inr ⟨rfl, rfl⟩
    | some t => exact .inl ⟨_, rfl, rfl⟩
  | indexes =>
    cases table with
    | none => exact .inr ⟨rfl, rfl⟩
    | some t => exact .inl ⟨_, rfl, rfl⟩
  | foreignKeys =>
    cases table with
    | none => exact .inr ⟨rfl, rfl⟩
    | some t => exact .inl ⟨_, rfl, rfl⟩
  | constraints =>
    cases table with
    | none => exact .inr ⟨rfl, rfl⟩
    | some t => exact .inl ⟨_, rfl, rfl⟩

/-! ## Creating and altering -/

theorem create_succeeds (t : Table) (settings : Settings) :
    ((Tables.create t).run (dryServer settings)).result = .ok () :=
  (Tables.follows_create t).of_accepted fun _ _ => rfl

/-- On a server that rejects nothing, an alteration that fails was refused. -/
theorem alter_failed {a : Alteration} {settings : Settings} {f : Failure}
    (h : ((Tables.alter a).run (dryServer settings)).result = .error f) :
    ((Tables.alter a).run (dryServer settings)).executed = [] := by
  cases hs : a.statements with
  | ok l =>
    have hplace : a.InPlace := (Alteration.statements_ok_iff a).mp ⟨l, hs⟩
    have hok : ((Tables.alter a).run (dryServer settings)).result = .ok () :=
      (Tables.follows_alter hplace).of_accepted fun _ _ => rfl
    rw [hok] at h
    cases h
  | error e =>
    obtain ⟨u, hu, -⟩ := (Alteration.statements_error_iff a e).mp hs
    rw [Tables.run_alter_refused hu]
    rfl

/-- The definition in a file, if the file can be read and decodes as one. -/
def Surroundings.decoded? {α : Type} (s : Surroundings) (read : Json.Decoder α) (path : String) :
    Option α :=
  (s.file path).toOption.bind fun text => ((Json.ofString? text).bind read).toOption

theorem toOption_definition {α : Type} (read : Json.Decoder α) (path : String) :
    (definition read s path).toOption = s.decoded? read path := by
  unfold definition Surroundings.decoded?
  cases s.file path with
  | error reason => rfl
  | ok text =>
    simp only [Except.toOption, Option.bind_some]
    cases (Json.ofString? text).bind read <;> rfl

/-- A dry run prints what the library would do under the settings in effect. Creating and
altering show the outcome of the library for the definition in the file, and an alteration that
is refused prints nothing; a file that holds no definition makes the run fail silently. Asking
the catalog prints the one query of the library call, and fails silently when a table is
missing. -/
theorem dry_run_shows_library (args : List String) (s : Surroundings) (r : Request)
    (base : Settings) (hasked : asked? args s.lookup = some (.run r))
    (hload : r.loaded s = .ok base) (hdry : r.execute = false) :
    let server := Script.server
      { database := base.database, tablePrefix := r.tablePrefix.getD base.tablePrefix }
    let e := run args s
    (∀ path, r.command = .create path →
      match s.decoded? Table.ofJson path with
      | some t => e.Shows ((Tables.create t).run server) ∧ e.exitCode = 0
      | none => e.FailsSilently) ∧
    (∀ path, r.command = .alter path →
      match s.decoded? Alteration.ofJson path with
      | some a =>
        e.Shows ((Tables.alter a).run server) ∧
          ∀ f, ((Tables.alter a).run server).result = .error f → e.FailsSilently
      | none => e.FailsSilently) ∧
    (∀ kind table, r.command = .catalog kind table →
      match kind.queries? table server with
      | some queries => ∃ sql, queries = [sql] ∧ e.printed = sql ++ ";\n" ∧ e.exitCode = 0
      | none => e.FailsSilently) := by
  intro server e
  obtain ⟨f, hf, he⟩ := run_eq_mapOutput hasked hload hdry
  have he : e = (r.command.run (r.effective base) s).mapOutput f := he
  rw [he]
  refine ⟨fun path hcommand => ?_, fun path hcommand => ?_, fun kind table hcommand => ?_⟩
  · rw [hcommand, Command.run, ← toOption_definition]
    cases definition Table.ofJson s path with
    | error t => exact (Ending.failsSilently_failed t).mapOutput hf
    | ok t =>
      have hshows := (dryRun_shows (r.effective base) (Tables.bare_create t) .progress
        "Table created" [("table", t.name)]).mapOutput hf
      exact ⟨hshows, hshows.exitCode.mpr ⟨(), create_succeeds t _⟩⟩
  · rw [hcommand, Command.run, ← toOption_definition]
    cases definition Alteration.ofJson s path with
    | error t => exact (Ending.failsSilently_failed t).mapOutput hf
    | ok a =>
      have hshows := (dryRun_shows (r.effective base) (Tables.bare_alter a) .progress
        "Table altered" [("table", a.name)]).mapOutput hf
      exact ⟨hshows, fun f h => hshows.failsSilently h (alter_failed h)⟩
  · rw [hcommand, Command.run]
    have hserver : server = dryServer (r.effective base) := rfl
    rw [hserver]
    rcases catalogQuery_agrees kind table (r.effective base) with ⟨query, hq, hqueries⟩ | ⟨hq, hnone⟩
    · rw [hq, hqueries]
      refine ⟨_, rfl, ?_, ?_⟩
      · rw [Ending.printed_mapOutput hf]
        simp [Ending.printed, Ending.output, printedText, Piece.printed?]
      · rw [Ending.exitCode_mapOutput]
        rfl
    · rw [hq, hnone]
      exact (Ending.failsSilently_failed _).mapOutput hf

theorem dry_run_shows_library_prefixed :
    let text := "\x7b\"name\": \"t\", \"columns\": [\x7b\"name\": \"id\", \"sql_type\": \"integer\"\x7d]\x7d"
    let s : Surroundings := {
      lookup := fun name => if name = "DB_PREFIX" then some "q_" else none
      file := fun path => if path = "t.json" then .ok text else .error "gone" }
    let creating := ["--prefix", "p_", "create", "-f", "t.json"]
    let listing := ["catalog", "constraints", "--table=t"]
    let r : Request := {
      settingsFile := none, tablePrefix := some "p_", execute := false, detailed := false
      command := .create "t.json" }
    let r' : Request := { r with tablePrefix := none, command := .catalog .constraints (some "t") }
    let base : Settings := { tablePrefix := "q_" }
    asked? creating s.lookup = some (.run r) ∧ asked? listing s.lookup = some (.run r') ∧
      r.loaded s = .ok base ∧
      (run creating s).printed = "CREATE TABLE \"p_t\" (\"id\" INT NOT NULL);\n" ∧
      (run creating s).exitCode = 0 ∧
      (run listing s).printed = "SELECT * FROM user_constraints WHERE table_name = 'Q_T';\n" := by
  intro text s creating listing r r' base
  have hcreating : asked? creating s.lookup = some (.run r) := by
    dsimp only [creating, s, r]
    rfl
  have hlisting : asked? listing s.lookup = some (.run r') := by
    dsimp only [listing, s, r', r]
    rfl
  have hload : r.loaded s = .ok base := rfl
  obtain ⟨hcreate, -, -⟩ := dry_run_shows_library creating s r base hcreating hload rfl
  obtain ⟨-, -, hcatalog⟩ := dry_run_shows_library listing s r' base hlisting hload rfl
  have hread : s.decoded? Table.ofJson "t.json" =
      some { name := "t", columns := [{ name := "id", type := .integer }] } := by
    dsimp only [s, text]
    cbv
  have hcreate := hcreate "t.json" rfl
  rw [hread] at hcreate
  obtain ⟨hshows, hexit⟩ := hcreate
  obtain ⟨sql, hsql, hprinted, -⟩ := hcatalog .constraints (some "t") rfl
  refine ⟨hcreating, hlisting, hload, ?_, hexit, ?_⟩
  · rw [hshows.printed]
    decide
  · rw [hprinted, ← List.singleton_inj.mp hsql]
    decide

end SqlSchema.CommandLine
