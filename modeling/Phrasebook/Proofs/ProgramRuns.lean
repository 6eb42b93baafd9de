import Mathlib
import Phrasebook.CommandLine.Program
import Phrasebook.Proofs.Arguments
import Phrasebook.Proofs.Documents

/-!
# Runs of the program

A run of the program is one call to resolve something in an environment that
comes from the options and the files, or it stops at the first of these that
cannot be used. Nothing is written to standard output unless the call succeeds.
-/

namespace Phrasebook

/-! ## Files -/

/-- What a document in a file describes, or else what stands for no file at
all. -/
inductive Loads {α : Type} (readers : Readers)
    (describes : Toml.Entries → α → Prop) (absent : α)
    (surroundings : Surroundings) : Option String → α → Prop
  | unnamed :
      Loads readers describes absent surroundings none absent
  | named {name document : String} {entries : Toml.Entries} {value : α} :
      surroundings.file name = .ok document →
      readers.document? document = some entries →
      describes entries value →
      Loads readers describes absent surroundings (some name) value

theorem load_eq_ok_iff
    {α : Type} {readers : Readers} {ofEntries? : Toml.Entries → Option α}
    {content : Except ReadFault String} {value : α} :
    readers.load ofEntries? content = .ok value ↔
      ∃ document entries, content = .ok document ∧
        readers.document? document = some entries ∧
        ofEntries? entries = some value := by
  unfold Readers.load
  cases content with
  | error fault =>
      simp
  | ok document =>
      cases isDocument : readers.document? document with
      | none =>
          simp [isDocument]
      | some entries =>
          cases isValue : ofEntries? entries <;> simp [isDocument, isValue]

theorem mapError_eq_ok_iff
    {ε δ α : Type} {change : ε → δ} {result : Except ε α} {value : α} :
    result.mapError change = .ok value ↔ result = .ok value := by
  cases result <;> simp [Except.mapError]

section Loading

variable {α : Type} {readers : Readers} {ofEntries? : Toml.Entries → Option α}
  {describes : Toml.Entries → α → Prop} {surroundings : Surroundings}
  {wording : String → LoadFault → String} {absent value : α}
  {name : Option String}

/-- The wording of what goes wrong does not matter for what is loaded. -/
theorem loads_of_ok
    (reads : Reads ofEntries? describes)
    (loaded :
      (match name with
        | none => Except.ok absent
        | some name =>
            (readers.load ofEntries? (surroundings.file name)).mapError
              (wording name)) =
        .ok value) :
    Loads readers describes absent surroundings name value := by
  cases name with
  | none =>
      cases loaded
      exact .unnamed
  | some name =>
      dsimp only at loaded
      rw [mapError_eq_ok_iff, load_eq_ok_iff] at loaded
      obtain ⟨document, entries, isFile, isDocument, isValue⟩ := loaded
      exact .named isFile isDocument (reads.sound isValue)

theorem Loads.exists_ok
    (loads : Loads readers describes absent surroundings name value)
    (reads : Reads ofEntries? describes) :
    ∃ found,
      (match name with
        | none => Except.ok absent
        | some name =>
            (readers.load ofEntries? (surroundings.file name)).mapError
              (wording name)) =
        .ok found := by
  cases loads with
  | unnamed =>
      exact ⟨absent, rfl⟩
  | named isFile isDocument isDescribed =>
      obtain ⟨found, isFound⟩ := reads.complete isDescribed
      refine ⟨found, ?_⟩
      dsimp only
      rw [mapError_eq_ok_iff, load_eq_ok_iff]
      exact ⟨_, _, isFile, isDocument, isFound⟩

end Loading

namespace Options

variable {options : Options} {readers : Readers} {surroundings : Surroundings}

def LoadsTable (options : Options) (readers : Readers)
    (surroundings : Surroundings) : Table → Prop :=
  Loads readers Table.Describes {} surroundings options.table

def LoadsContext (options : Options) (readers : Readers)
    (surroundings : Surroundings) : ContextFile → Prop :=
  Loads readers ContextFile.Describes {} surroundings options.context

theorem loadsTable_of_ok
    {table : Table}
    (loaded : options.loadTable readers surroundings = .ok table) :
    options.LoadsTable readers surroundings table :=
  loads_of_ok Table.reads_entries loaded

theorem loadsContext_of_ok
    {file : ContextFile}
    (loaded : options.loadContext readers surroundings = .ok file) :
    options.LoadsContext readers surroundings file :=
  loads_of_ok ContextFile.reads_entries loaded

theorem not_loadsTable_of_error
    {message : String}
    (failed : options.loadTable readers surroundings = .error message)
    (table : Table) :
    ¬ options.LoadsTable readers surroundings table := by
  intro loads
  obtain ⟨found, isFound⟩ := Loads.exists_ok loads Table.reads_entries
  have loaded : options.loadTable readers surroundings = .ok found := isFound
  rw [failed] at loaded
  cases loaded

theorem not_loadsContext_of_error
    {message : String}
    (failed : options.loadContext readers surroundings = .error message)
    (file : ContextFile) :
    ¬ options.LoadsContext readers surroundings file := by
  intro loads
  obtain ⟨found, isFound⟩ := Loads.exists_ok loads ContextFile.reads_entries
  have loaded : options.loadContext readers surroundings = .ok found := isFound
  rw [failed] at loaded
  cases loaded

/-! ## What is resolved -/

/-- The call that the options ask for: its result, and the text and the name
that a report shows. A key goes before a template. -/
inductive Calls (options : Options) (surroundings : Surroundings)
    (env : Environment) : Except ResolveError String → String → String → Prop
  | key {key : String} :
      options.key = some key →
      Calls options surroundings env (env.resolveEntry key).outcome key key
  | template {template : String} :
      options.key = none →
      options.template = some template →
      Calls options surroundings env (env.resolve template).outcome template
        "<template>"
  | input {template : String} :
      options.key = none →
      options.template = none →
      surroundings.input = .ok template →
      Calls options surroundings env (env.resolve template).outcome template
        "<stdin>"

end Options

inductive IsArgument : String → Value → Prop
  | flag (isSet : Bool) :
      IsArgument (flagText isSet) (.flag isSet)
  | number {argument : String} {x : Binary64} :
      argument ≠ "true" → argument ≠ "false" →
      Binary64.ofText? argument = some x →
      IsArgument argument (.number x)
  | text {argument : String} :
      argument ≠ "true" → argument ≠ "false" →
      Binary64.ofText? argument = none →
      IsArgument argument (.text argument)

theorem isArgument_ofArgument (argument : String) :
    IsArgument argument (.ofArgument argument) := by
  unfold Value.ofArgument
  by_cases isTrue : argument = "true"
  · rw [if_pos isTrue, isTrue]
    exact .flag true
  · rw [if_neg isTrue]
    by_cases isFalse : argument = "false"
    · rw [if_pos isFalse, isFalse]
      exact .flag false
    · rw [if_neg isFalse]
      split
      · rename_i x isNumber
        exact .number isTrue isFalse isNumber
      · rename_i notNumber
        exact .text isTrue isFalse notNumber

/-- The environment of a call: the table with its limits, the depth of the
options in place of its own, and the context of the file. -/
structure Environment.Suits (options : Options) (loaded : Table)
    (file : ContextFile) (env : Environment) : Prop where
  table : env.table = loaded
  limits :
    env.limits =
      { loaded.limits with
        maxDepth := options.maxDepth.getD loaded.limits.maxDepth }
  source : env.context.subjects.source = file.source
  display :
    env.context.subjects.display =
      if file.sameSubject then file.source else file.display
  sameObject :
    (∃ subject, env.context.subjects = .shared subject) ↔
      file.sameSubject ∧ file.source.isSome
  attr : env.context.attr = file.attr
  args :
    ∃ values, List.Forall₂ IsArgument options.args values ∧
      env.context.args = file.args ++ values

theorem Options.environment_suits
    (options : Options) (table : Table) (file : ContextFile) :
    (options.environment table file).Suits options table file where
  table := rfl
  limits := rfl
  source := by
    change file.subjects.source = _
    unfold ContextFile.subjects
    split <;> simp
  display := by
    change file.subjects.display = _
    unfold ContextFile.subjects
    split <;> simp [*]
  sameObject := by
    change (∃ subject, file.subjects = _) ↔ _
    unfold ContextFile.subjects
    split
    · rename_i isSame
      cases file.source <;> simp [Subjects.ofShared, isSame]
    · rename_i notSame
      cases file.source <;> cases file.display <;>
        simp [Subjects.ofParts, notSame]
  attr := rfl
  args := by
    refine ⟨options.args.map Value.ofArgument, ?_, rfl⟩
    rw [List.forall₂_map_right_iff, List.forall₂_same]
    intro argument _
    exact isArgument_ofArgument argument

/-! ## Outcomes -/

/-- Exit code one, with an error and nothing else. -/
structure Outcome.Fails (outcome : Outcome) : Prop where
  exitCode : outcome.exitCode = 1
  output : outcome.output = ""
  errors : outcome.errors ≠ ""

theorem Outcome.failure_fails (message : String) :
    (failure message).Fails where
  exitCode := rfl
  output := rfl
  errors := by
    intro isEmpty
    have lengths := congrArg String.length isEmpty
    simp [failure] at lengths

/-- What is written about the result of a call: a line with the text, or a
report. -/
inductive Outcome.Reports (text name : String) :
    Except ResolveError String → Outcome → Prop
  | ok {resolved : String} :
      Reports text name (.ok resolved) ⟨0, resolved ++ "\n", ""⟩
  | error {error : ResolveError} :
      Reports text name (.error error) ⟨1, "", error.report text name ++ "\n"⟩

namespace Options

variable {options : Options} {readers : Readers} {surroundings : Surroundings}

/-- How a run ends. Each way says that nothing before it went wrong. -/
inductive Ends (options : Options) (readers : Readers)
    (surroundings : Surroundings) : Outcome → Prop
  | withoutTable {outcome : Outcome} :
      (∀ table, ¬ options.LoadsTable readers surroundings table) →
      outcome.Fails →
      Ends options readers surroundings outcome
  | withoutContext {table : Table} {outcome : Outcome} :
      options.LoadsTable readers surroundings table →
      (∀ file, ¬ options.LoadsContext readers surroundings file) →
      outcome.Fails →
      Ends options readers surroundings outcome
  | withoutInput {table : Table} {file : ContextFile} {fault : ReadFault}
      {outcome : Outcome} :
      options.LoadsTable readers surroundings table →
      options.LoadsContext readers surroundings file →
      options.key = none →
      options.template = none →
      surroundings.input = .error fault →
      outcome.Fails →
      Ends options readers surroundings outcome
  | called {table : Table} {file : ContextFile} {env : Environment}
      {result : Except ResolveError String} {text name : String}
      {outcome : Outcome} :
      options.LoadsTable readers surroundings table →
      options.LoadsContext readers surroundings file →
      env.Suits options table file →
      options.Calls surroundings env result text name →
      outcome.Reports text name result →
      Ends options readers surroundings outcome

theorem run_eq_failure_of_loadTable
    {message : String}
    (failed : options.loadTable readers surroundings = .error message) :
    options.run readers surroundings = .failure message := by
  unfold run
  rw [failed]
  rfl

theorem run_eq_failure_of_loadContext
    {table : Table} {message : String}
    (loaded : options.loadTable readers surroundings = .ok table)
    (failed : options.loadContext readers surroundings = .error message) :
    options.run readers surroundings = .failure message := by
  unfold run
  rw [loaded, failed]
  rfl

/-- Behind the files, the run is what becomes of the target. -/
theorem run_eq_of_loaded
    {table : Table} {file : ContextFile}
    (loadedTable : options.loadTable readers surroundings = .ok table)
    (loadedContext : options.loadContext readers surroundings = .ok file) :
    options.run readers surroundings =
      match options.target surroundings with
      | .ok target => target.resolve (options.environment table file)
      | .error message => .failure message := by
  unfold run
  rw [loadedTable, loadedContext]
  cases options.target surroundings <;> rfl

/-- Resolving a target is a call of the options, and its outcome a report. -/
theorem exists_calls_of_target
    {env : Environment} {target : Target}
    (isTarget : options.target surroundings = .ok target) :
    ∃ result text name, options.Calls surroundings env result text name ∧
      (target.resolve env).Reports text name result := by
  unfold Options.target at isTarget
  split at isTarget
  · rename_i key isKey
    cases isTarget
    refine ⟨_, _, _, .key isKey, ?_⟩
    unfold Target.resolve
    dsimp only
    cases (env.resolveEntry key).outcome <;> constructor
  · rename_i template noKey isTemplate
    cases isTarget
    refine ⟨_, _, _, .template noKey isTemplate, ?_⟩
    unfold Target.resolve
    dsimp only
    cases (env.resolve template).outcome <;> constructor
  · rename_i noKey noTemplate
    split at isTarget
    · rename_i template isInput
      cases isTarget
      refine ⟨_, _, _, .input noKey noTemplate isInput, ?_⟩
      unfold Target.resolve
      dsimp only
      cases (env.resolve template).outcome <;> constructor
    · cases isTarget

theorem input_of_target_error
    {message : String}
    (failed : options.target surroundings = .error message) :
    options.key = none ∧ options.template = none ∧
      ∃ fault, surroundings.input = .error fault := by
  unfold Options.target at failed
  split at failed
  · cases failed
  · cases failed
  · rename_i noKey noTemplate
    split at failed
    · cases failed
    · rename_i fault isInput
      exact ⟨noKey, noTemplate, fault, isInput⟩

/-- The first step that fails decides how a run ends. -/
theorem run_ends
    (options : Options) (readers : Readers) (surroundings : Surroundings) :
    options.Ends readers surroundings (options.run readers surroundings) := by
  cases loadedTable : options.loadTable readers surroundings with
  | error message =>
      rw [run_eq_failure_of_loadTable loadedTable]
      exact .withoutTable (not_loadsTable_of_error loadedTable)
        (Outcome.failure_fails message)
  | ok table =>
      have loadsTable := loadsTable_of_ok loadedTable
      cases loadedContext : options.loadContext readers surroundings with
      | error message =>
          rw [run_eq_failure_of_loadContext loadedTable loadedContext]
          exact .withoutContext loadsTable
            (not_loadsContext_of_error loadedContext)
            (Outcome.failure_fails message)
      | ok file =>
          have loadsContext := loadsContext_of_ok loadedContext
          rw [run_eq_of_loaded loadedTable loadedContext]
          cases isTarget : options.target surroundings with
          | error message =>
              obtain ⟨noKey, noTemplate, fault, isInput⟩ :=
                input_of_target_error isTarget
              exact .withoutInput loadsTable loadsContext noKey noTemplate
                isInput (Outcome.failure_fails message)
          | ok target =>
              obtain ⟨result, text, name, calls, reports⟩ :=
                exists_calls_of_target isTarget
              exact .called loadsTable loadsContext
                (options.environment_suits table file) calls reports

/-! ## What is read -/

/-- What a run may read: the context file only behind a table, and standard
input only behind both and when there is nothing else to resolve. -/
structure SeesAlike (options : Options) (readers : Readers)
    (first second : Surroundings) : Prop where
  table :
    ∀ name, options.table = some name → first.file name = second.file name
  context :
    (∃ table, options.LoadsTable readers first table) →
      ∀ name, options.context = some name → first.file name = second.file name
  input :
    (∃ table, options.LoadsTable readers first table) →
      (∃ file, options.LoadsContext readers first file) →
      options.key = none → options.template = none →
      first.input = second.input

/-- Every step of a run reads what it sees alike, up to the step that fails. -/
theorem SeesAlike.run_eq
    {first second : Surroundings}
    (alike : options.SeesAlike readers first second) :
    options.run readers first = options.run readers second := by
  have sameTable :
      options.loadTable readers second = options.loadTable readers first := by
    unfold loadTable
    cases named : options.table with
    | none =>
        rfl
    | some name =>
        simp only [alike.table name named]
  cases loadedTable : options.loadTable readers first with
  | error message =>
      rw [loadedTable] at sameTable
      rw [run_eq_failure_of_loadTable loadedTable,
        run_eq_failure_of_loadTable sameTable]
  | ok table =>
      rw [loadedTable] at sameTable
      have loadsTable := loadsTable_of_ok loadedTable
      have sameContext :
          options.loadContext readers second =
            options.loadContext readers first := by
        unfold loadContext
        cases named : options.context with
        | none =>
            rfl
        | some name =>
            simp only [alike.context ⟨table, loadsTable⟩ name named]
      cases loadedContext : options.loadContext readers first with
      | error message =>
          rw [loadedContext] at sameContext
          rw [run_eq_failure_of_loadContext loadedTable loadedContext,
            run_eq_failure_of_loadContext sameTable sameContext]
      | ok file =>
          rw [loadedContext] at sameContext
          have loadsContext := loadsContext_of_ok loadedContext
          have sameTarget : options.target first = options.target second := by
            unfold Options.target
            split
            · rfl
            · rfl
            · rename_i noKey noTemplate
              rw [alike.input ⟨table, loadsTable⟩ ⟨file, loadsContext⟩ noKey
                noTemplate]
          rw [run_eq_of_loaded loadedTable loadedContext,
            run_eq_of_loaded sameTable sameContext, sameTarget]

end Options

/-- The program on accepted arguments, whatever it reads its arguments and its
documents with: how the run ends, and that it depends on nothing but what it may
read. Arguments that are read as usual give exactly the options. -/
theorem runProgram_is_one_call
    {readers : Readers} {arguments : List String} {options : Options}
    (accepted : readers.arguments? arguments = some (.resolve options)) :
    (∀ surroundings,
      options.Ends readers surroundings
        (readers.run arguments surroundings)) ∧
      (∀ first second, options.SeesAlike readers first second →
        readers.run arguments first = readers.run arguments second) ∧
      (readers.arguments? = Request.ofArguments? →
        ∃ settings, Writes arguments settings ∧ options.Holds settings) := by
  have isRun (surroundings : Surroundings) :
      readers.run arguments surroundings =
        options.run readers surroundings := by
    unfold Readers.run
    rw [accepted]
  refine ⟨?_, ?_, ?_⟩
  · intro surroundings
    rw [isRun]
    exact options.run_ends readers surroundings
  · intro first second alike
    rw [isRun, isRun]
    exact alike.run_eq
  · intro asUsual
    rw [asUsual] at accepted
    exact Request.exists_settings accepted

/-- A key beside a template, with both files and an attribute. Standard input is
not read. -/
theorem runProgram_with_key_is_one_call :
    let arguments :=
      ["-k", "K", "\x7b0\x7d", "-a", "7", "--max-depth=0", "-tT", "-c", "C"]
    let options : Options :=
      { template := some "\x7b0\x7d"
        table := some "T"
        key := some "K"
        context := some "C"
        args := ["7"]
        maxDepth := some 0 }
    let files : List (String × Except ReadFault String) :=
      [("T", .ok "[strings]\nK = '\x7b1\x7d \x7bd.n\x7d \x7ba\x7d'"),
        ("C", .ok ("args = ['x']\nsame_subject = true\n[source]\nn = 'y'\n" ++
          "[attribute]\nslots = ['l', 'r']\nseparator = ' of '"))]
    let first := Surroundings.ofFiles files (.ok "unread")
    let second := Surroundings.ofFiles files (.error .notText)
    runProgram arguments first = ⟨0, "7 y l of r\n", ""⟩ ∧
      options.Ends .standard first (runProgram arguments first) ∧
      runProgram arguments first = runProgram arguments second ∧
      ∃ settings, Writes arguments settings ∧ options.Holds settings := by
  intro arguments options files first second
  have accepted :
      Readers.standard.arguments? arguments = some (.resolve options) := by
    cbv
  have alike : options.SeesAlike .standard first second := by
    refine ⟨fun _ _ => rfl, fun _ _ _ => rfl, ?_⟩
    intro _ _ noKey
    cases noKey
  have answer : runProgram arguments first = ⟨0, "7 y l of r\n", ""⟩ := by
    decide +kernel
  have ends := runProgram_is_one_call accepted
  exact ⟨answer, ends.1 first, ends.2.1 first second alike, ends.2.2 rfl⟩

end Phrasebook
