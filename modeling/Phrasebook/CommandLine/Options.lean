import Phrasebook.Number.Reading

/-!
# Options of the command line

The program takes options and at most one template. An option's value stands
behind it, or is attached with an equals sign; a short option also takes it
without one. A value of its own may not look like an option, and behind `--`
there are no options.
-/

namespace Phrasebook

inductive OptionName where
  | table
  | key
  | context
  | arg
  | maxDepth
  deriving DecidableEq

structure Options where
  template : Option String := none
  table : Option String := none
  key : Option String := none
  context : Option String := none
  args : List String := []
  maxDepth : Option Nat := none
  deriving DecidableEq

inductive Request where
  | help
  | resolve (options : Options)
  deriving DecidableEq

namespace OptionName

def ofLetter? (c : Char) : Option OptionName :=
  match c with
  | 't' => some table
  | 'k' => some key
  | 'c' => some context
  | 'a' => some arg
  | _ => none

def ofName? (name : String) : Option OptionName :=
  match name with
  | "table" => some table
  | "key" => some key
  | "context" => some context
  | "arg" => some arg
  | "max-depth" => some maxDepth
  | _ => none

end OptionName

namespace Options

def setOnce {α : Type} (old : Option α) (value : α) : Option (Option α) :=
  match old with
  | some _ => none
  | none => some (some value)

/-- A file name, which may not be empty. -/
def fileName? (value : String) : Option String :=
  if value = "" then none else some value

/-- Takes the value of an option. Only arguments may be given repeatedly. -/
def take (options : Options) (name : OptionName) (value : String) :
    Option Options :=
  match name with
  | .table => do
      let file ← fileName? value
      let table ← setOnce options.table file
      some { options with table := table }
  | .key => do
      let key ← setOnce options.key value
      some { options with key := key }
  | .context => do
      let file ← fileName? value
      let context ← setOnce options.context file
      some { options with context := context }
  | .arg => some { options with args := options.args ++ [value] }
  | .maxDepth => do
      let n ← readSize? value
      let maxDepth ← setOnce options.maxDepth n
      some { options with maxDepth := maxDepth }

def takeTemplate (options : Options) (template : String) : Option Options := do
  let template ← setOnce options.template template
  some { options with template := template }

end Options

/-! ## Arguments -/

/-- What a single argument is, before `--`. -/
inductive Argument where
  | template
  | help
  | attached (name : OptionName) (value : String)
  | separate (name : OptionName)
  | endOfOptions
  | unknown

namespace Argument

/-- An argument with two dashes, which are left out here. -/
def ofLong (text : List Char) : Argument :=
  let name := String.ofList (text.takeWhile (· ≠ '='))
  match OptionName.ofName? name, text.dropWhile (· ≠ '=') with
  | some option, '=' :: value => .attached option (String.ofList value)
  | some option, _ => .separate option
  | none, [] => if name = "help" then .help else .unknown
  | none, _ => .unknown

/-- An argument with one dash, which is left out here. -/
def ofShort (letter : Char) (rest : List Char) : Argument :=
  if letter = 'h' then
    .help
  else
    match OptionName.ofLetter? letter, rest with
    | none, _ => .unknown
    | some option, [] => .separate option
    | some option, '=' :: value => .attached option (String.ofList value)
    | some option, value => .attached option (String.ofList value)

/-- What an argument is. A dash on its own is a template. -/
def ofText (text : String) : Argument :=
  match text.toList with
  | ['-', '-'] => .endOfOptions
  | '-' :: '-' :: rest => ofLong rest
  | '-' :: letter :: rest => ofShort letter rest
  | _ => .template

/-- Whether a text may stand for itself as the value of an option. -/
def isValue (text : String) : Bool :=
  match text.toList with
  | '-' :: _ :: _ => false
  | _ => true

end Argument

def readTemplates (options : Options) (arguments : List String) :
    Option Options :=
  arguments.foldlM Options.takeTemplate options

def readArguments (options : Options) : List String → Option Request
  | [] => some (.resolve options)
  | argument :: rest =>
      match Argument.ofText argument with
      | .template => do
          let options ← options.takeTemplate argument
          readArguments options rest
      | .help => some .help
      | .attached name value => do
          let options ← options.take name value
          readArguments options rest
      | .separate name =>
          match rest with
          | [] => none
          | value :: rest =>
              if Argument.isValue value then do
                let options ← options.take name value
                readArguments options rest
              else
                none
      | .endOfOptions => (readTemplates options rest).map Request.resolve
      | .unknown => none

/-- What a list of arguments asks for, or nothing when it is malformed. -/
def Request.ofArguments? (arguments : List String) : Option Request :=
  readArguments {} arguments

end Phrasebook
