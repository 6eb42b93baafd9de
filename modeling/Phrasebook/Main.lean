import Phrasebook.CommandLine.Program

/-!
# Entry point

Reads the files and the standard input that the options ask for, runs the
program on them, and writes what it answers.
-/

namespace Phrasebook

/-- Whether an error code, which may be negated, is the given number. -/
def isErrorNumber (number code : UInt32) : Bool :=
  code == number || code == 0 - number

def ReadFault.ofError (error : IO.Error) : ReadFault :=
  match error with
  | .noFileOrDirectory _ _ _ => .notFound
  | .permissionDenied _ _ _ => .notPermitted
  | .inappropriateType _ code _ =>
      if isErrorNumber 20 code then .notDirectory else .isDirectory
  | unexpected@(.invalidArgument _ code _) =>
      if isErrorNumber 36 code then .nameTooLong
      else .other (toString unexpected)
  | unexpected => .other (toString unexpected)

def readTextFile (name : String) : IO (Except ReadFault String) := do
  try
    let bytes ← IO.FS.readBinFile name
    pure (decodeText bytes)
  catch error =>
    pure (.error (ReadFault.ofError error))

def readInput : IO (Except ReadFault String) := do
  try
    let stdin ← IO.getStdin
    let bytes ← stdin.readBinToEnd
    pure (decodeText bytes)
  catch error =>
    pure (.error (ReadFault.ofError error))

def readNamedFiles (names : List String) :
    IO (List (String × Except ReadFault String)) :=
  names.mapM fun name => do
    let content ← readTextFile name
    pure (name, content)

/-- Reads everything that a run with the given options may need. -/
def readSurroundings (options : Options) : IO Surroundings := do
  let files ← readNamedFiles (options.table.toList ++ options.context.toList)
  let input ←
    if options.key.isNone && options.template.isNone then readInput
    else pure (.ok "")
  pure
    { file := fun name =>
        (Dictionary.lookup name files).getD (.error .notFound)
      input := input }

end Phrasebook

open Phrasebook in
def main (arguments : List String) : IO UInt32 := do
  let surroundings ←
    match Request.ofArguments? arguments with
    | some (.resolve options) => readSurroundings options
    | _ => pure { file := fun _ => .error .notFound, input := .ok "" }
  let outcome := runProgram arguments surroundings
  (← IO.getStdout).putStr outcome.output
  (← IO.getStderr).putStr outcome.errors
  pure outcome.exitCode.toUInt32
