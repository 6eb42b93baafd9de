import Phrasebook.CommandLine.Options
import Phrasebook.CommandLine.Surroundings
import Phrasebook.ContextFile
import Phrasebook.Report
import Phrasebook.Resolve
import Phrasebook.TableFile

/-!
# The program

What the program writes and how it exits, given its arguments, the files it
names, and its standard input. The table is loaded first and the context
second; the first thing that fails is the only one reported.
-/

namespace Phrasebook

inductive LoadFault where
  | unreadable (fault : ReadFault)
  | malformed
  deriving DecidableEq

def malformedMessage : String := "TOML parse error"

/-- The wording of a failure to load a string table, without the place in a
malformed document. -/
def LoadFault.tableMessage : LoadFault → String
  | unreadable fault =>
      "Failed to read string table file: " ++ fault.message
  | malformed => "Failed to parse string table TOML: " ++ malformedMessage

def LoadFault.contextMessage : LoadFault → String
  | unreadable fault => fault.message
  | malformed => malformedMessage

structure Outcome where
  exitCode : Nat
  output : String
  errors : String
  deriving DecidableEq

namespace Outcome

def success (text : String) : Outcome := ⟨0, text ++ "\n", ""⟩

def failure (text : String) : Outcome := ⟨1, "", text ++ "\n"⟩

def usage : Outcome := ⟨2, "", ""⟩

end Outcome

/-! ## Loading -/

/-- What the program reads its arguments and its documents with. -/
structure Readers where
  arguments? : List String → Option Request
  document? : String → Option Toml.Entries

def Readers.standard : Readers where
  arguments? := Request.ofArguments?
  document? := Toml.readDocument?

def Readers.load {α : Type} (readers : Readers)
    (ofEntries? : Toml.Entries → Option α)
    (content : Except ReadFault String) : Except LoadFault α :=
  match content with
  | .error fault => .error (.unreadable fault)
  | .ok document =>
      match (readers.document? document).bind ofEntries? with
      | none => .error .malformed
      | some value => .ok value

/-- The string table that the options name, or an empty one. -/
def Options.loadTable (options : Options) (readers : Readers)
    (surroundings : Surroundings) : Except String Table :=
  match options.table with
  | none => .ok {}
  | some name =>
      (readers.load Table.ofEntries? (surroundings.file name)).mapError
        fun fault => s!"Error loading string table '{name}': " ++
          fault.tableMessage

/-- The context file that the options name, or an empty one. -/
def Options.loadContext (options : Options) (readers : Readers)
    (surroundings : Surroundings) : Except String ContextFile :=
  match options.context with
  | none => .ok {}
  | some name =>
      (readers.load ContextFile.ofEntries? (surroundings.file name)).mapError
        fun fault => s!"Error loading context '{name}': " ++
          fault.contextMessage

/-- An argument on the command line: a flag, a number, or else a text. -/
def Value.ofArgument (argument : String) : Value :=
  if argument = "true" then .flag true
  else if argument = "false" then .flag false
  else
    match Binary64.ofText? argument with
    | some x => .number x
    | none => .text argument

/-! ## Resolving -/

/-- What is resolved: the entry of a key, or a template from somewhere. -/
inductive Target where
  | key (name : String)
  | template (text name : String)

/-- What the options ask to resolve. A key goes before a template, and standard
input is read when there is neither. -/
def Options.target (options : Options) (surroundings : Surroundings) :
    Except String Target :=
  match options.key, options.template with
  | some key, _ => .ok (.key key)
  | none, some template => .ok (.template template "<template>")
  | none, none =>
      match surroundings.input with
      | .ok template => .ok (.template template "<stdin>")
      | .error fault => .error ("Error reading from stdin: " ++ fault.message)

/-- The environment of a table and a context, with the limits of the table but
for the depth that the options give. -/
def Options.environment (options : Options) (table : Table)
    (context : ContextFile) : Environment where
  table := table
  limits :=
    { table.limits with
      maxDepth := options.maxDepth.getD table.limits.maxDepth }
  context := context.context (options.args.map Value.ofArgument)

/-- Resolves and reports. The report on a key shows the key in place of a
template. -/
def Target.resolve (env : Environment) : Target → Outcome
  | .key name =>
      match (env.resolveEntry name).outcome with
      | .ok text => .success text
      | .error error => .failure (error.report name name)
  | .template text name =>
      match (env.resolve text).outcome with
      | .ok resolved => .success resolved
      | .error error => .failure (error.report text name)

def Options.run (options : Options) (readers : Readers)
    (surroundings : Surroundings) : Outcome :=
  let outcome : Except String Outcome := do
    let table ← options.loadTable readers surroundings
    let context ← options.loadContext readers surroundings
    let target ← options.target surroundings
    pure (target.resolve (options.environment table context))
  match outcome with
  | .ok outcome => outcome
  | .error message => .failure message

def helpText : String :=
  "Resolve localized string templates\n\n" ++
  "Options:\n" ++
  "  -t, --table <FILE>       string table\n" ++
  "  -k, --key <KEY>          resolve the table entry with this key\n" ++
  "  -c, --context <FILE>     subjects, attribute and arguments\n" ++
  "  -a, --arg <VALUE>        append an argument\n" ++
  "      --max-depth <N>      deepest level of expansion\n" ++
  "  -h, --help               print this text"

def Readers.run (readers : Readers) (arguments : List String)
    (surroundings : Surroundings) : Outcome :=
  match readers.arguments? arguments with
  | none => .usage
  | some .help => .success helpText
  | some (.resolve options) => options.run readers surroundings

def runProgram (arguments : List String) (surroundings : Surroundings) :
    Outcome :=
  Readers.standard.run arguments surroundings

end Phrasebook
