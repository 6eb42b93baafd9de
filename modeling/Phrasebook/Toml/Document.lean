import Phrasebook.Toml.Dates
import Phrasebook.Toml.Tables

/-!
# TOML documents

A document is a sequence of lines with keys, each of which belongs to the table
of the header above it. Arrays and tables in braces may hold each other to a
limited depth.
-/

namespace Phrasebook

namespace Toml

/-! ## Keys -/

def isBare (c : Char) : Bool :=
  c.isAlphanum || c = '_' || c = '-'

def readKeyPart : TomlReader String := fun text =>
  match text.span isBare with
  | ([], _) => readLineString text
  | (bare, rest) => some (String.ofList bare, rest)

def maxKeyParts : Nat := 79

/-- The parts of a key, with blanks around the dots between them. At most
`parts` are read. -/
def readKeyParts : Nat → TomlReader (List String)
  | 0, _ => none
  | parts + 1, text => do
      let (part, rest) ← readKeyPart (skipSpaces text)
      match skipSpaces rest with
      | '.' :: rest => do
          let (others, rest) ← readKeyParts parts rest
          some (part :: others, rest)
      | rest => some ([part], rest)

/-- A key: the parts in front of the last one, and the last one. -/
def readKey : TomlReader (List String × String) := fun text => do
  let (parts, rest) ← readKeyParts maxKeyParts text
  let last ← parts.getLast?
  some ((parts.dropLast, last), rest)

/-! ## Values -/

/-- The elements of an array behind its bracket or a comma. A comma may follow
the last one. -/
def readElements (readElement : TomlReader Toml) :
    Nat → TomlReader (List Toml)
  | 0, _ => none
  | fuel + 1, text =>
      match skipFiller text with
      | ']' :: rest => some ([], rest)
      | start => do
          let (element, rest) ← readElement start
          match skipFiller rest with
          | ',' :: rest => do
              let (others, rest) ← readElements readElement fuel rest
              some (element :: others, rest)
          | ']' :: rest => some ([element], rest)
          | _ => none

def readPair (readElement : TomlReader Toml) (entries : Entries) :
    TomlReader Entries := fun text => do
  let ((path, key), rest) ← readKey text
  match rest with
  | '=' :: rest => do
      let (value, rest) ← readElement (skipSpaces rest)
      let entries ← addDotted path key value entries
      some (entries, skipSpaces rest)
  | _ => none

/-- The entries of a table in braces, which has no line ends between them. At
least one entry is left to come. -/
def readPairs (readElement : TomlReader Toml) :
    Nat → Entries → TomlReader Entries
  | 0, _, _ => none
  | fuel + 1, entries, text => do
      let (entries, rest) ← readPair readElement entries text
      match rest with
      | ',' :: rest => readPairs readElement fuel entries rest
      | '\x7d' :: rest => some (entries, rest)
      | _ => none

def readInlineTable (readElement : TomlReader Toml) : TomlReader Toml :=
  fun text =>
    match skipSpaces text with
    | '\x7d' :: rest => some (.table .inline [], rest)
    | start =>
        (readPairs readElement start.length [] start).map fun found =>
          (.table .inline found.1, found.2)

/-- How many arrays and tables in braces may stand inside one another. -/
def maxValueDepth : Nat := 79

/-- A value that holds at most `depth` arrays and tables inside one another. -/
def readValue : Nat → TomlReader Toml
  | depth, text =>
      match text with
      | [] => none
      | c :: rest =>
          if c = '"' ∨ c = '\'' then
            (readString text).map fun found => (.string found.1, found.2)
          else if c = '[' then
            match depth with
            | 0 => none
            | depth + 1 =>
                (readElements (readValue depth) (rest.length + 1) rest).map
                  fun found => (.array found.1, found.2)
          else if c = '\x7b' then
            match depth with
            | 0 => none
            | depth + 1 => readInlineTable (readValue depth) rest
          else
            match text with
            | 't' :: 'r' :: 'u' :: 'e' :: rest => some (.boolean true, rest)
            | 'f' :: 'a' :: 'l' :: 's' :: 'e' :: rest =>
                some (.boolean false, rest)
            | _ => (readDatetime text).or (readNumber text)

/-! ## Lines -/

/-- The part of a document that has been read: all entries, and the header that
the next keys belong to. -/
structure Reading where
  entries : Entries := []
  header : List String := []

def readHeader (reading : Reading) : TomlReader Reading
  | '[' :: text => do
      let ((path, key), rest) ← readKey text
      match rest with
      | ']' :: ']' :: rest => do
          let entries ← openElement path key reading.entries
          some (⟨entries, path ++ [key]⟩, rest)
      | _ => none
  | text => do
      let ((path, key), rest) ← readKey text
      match rest with
      | ']' :: rest => do
          let entries ← openTable path key reading.entries
          some (⟨entries, path ++ [key]⟩, rest)
      | _ => none

def readAssignment (reading : Reading) : TomlReader Reading := fun text => do
  let ((path, key), rest) ← readKey text
  match rest with
  | '=' :: rest => do
      let (value, rest) ← readValue maxValueDepth (skipSpaces rest)
      let entries ← addUnder reading.header path key value reading.entries
      some ({ reading with entries := entries }, rest)
  | _ => none

/-- The lines of a document. Every line but the last one ends with a line
end. -/
def readLines : Nat → Reading → List Char → Option Reading
  | 0, _, _ => none
  | fuel + 1, reading, text =>
      match skipFiller text with
      | [] => some reading
      | '[' :: rest => do
          let (reading, rest) ← readHeader reading rest
          let rest ← skipLineRest? rest
          readLines fuel reading rest
      | start => do
          let (reading, rest) ← readAssignment reading start
          let rest ← skipLineRest? rest
          readLines fuel reading rest

/-- The entries of a document. A byte order mark may stand in front of it. -/
def readDocument? (document : String) : Option Entries :=
  let text :=
    match document.toList with
    | '\uFEFF' :: rest => rest
    | other => other
  (readLines (text.length + 1) {} text).map Reading.entries

end Toml

end Phrasebook
