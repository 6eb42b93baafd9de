import Phrasebook.Toml.Space

/-!
# TOML strings

Basic strings with escapes and literal strings without, each on one line or,
between three quotation marks, over several lines.
-/

namespace Phrasebook

namespace Toml

def escapedChar? (c : Char) : Option Char :=
  match c with
  | 'b' => some '\x08'
  | 't' => some '\t'
  | 'n' => some '\n'
  | 'f' => some '\x0c'
  | 'r' => some '\r'
  | '"' => some '"'
  | '\\' => some '\\'
  | _ => none

def hexDigit? (c : Char) : Option Nat :=
  if '0' ≤ c ∧ c ≤ '9' then some (c.toNat - '0'.toNat)
  else if 'a' ≤ c ∧ c ≤ 'f' then some (c.toNat - 'a'.toNat + 10)
  else if 'A' ≤ c ∧ c ≤ 'F' then some (c.toNat - 'A'.toNat + 10)
  else none

/-- The character of a code point. Surrogates are no characters. -/
def charOfCode? (code : Nat) : Option Char :=
  if code < 0xD800 ∨ 0xDFFF < code ∧ code < 0x110000 then
    some (Char.ofNat code)
  else
    none

inductive EscapeState where
  /-- No escape is open. -/
  | plain
  /-- A backslash has been read. -/
  | opened
  /-- A code point is being read, with digits left to come. -/
  | code (left value : Nat)
  /-- Behind a backslash only blanks may stand up to the end of the line. -/
  | toLineEnd
  /-- Blanks and line ends are being skipped. -/
  | skipping

def consText (c : Char) :
    Option (List Char × List Char) → Option (List Char × List Char) :=
  Option.map fun found => (c :: found.1, found.2)

/-- The text of a string behind an opened escape. The first component is the
state to go on in, and the second one the character that is finished. -/
def readEscape (state : EscapeState) (c : Char) :
    Option (EscapeState × Option Char) :=
  match state with
  | .opened =>
      if c = 'u' then some (.code 4 0, none)
      else if c = 'U' then some (.code 8 0, none)
      else (escapedChar? c).map fun escaped => (.plain, some escaped)
  | .code left value =>
      match hexDigit? c with
      | none => none
      | some digit =>
          let value := value * 16 + digit
          if left ≤ 1 then
            (charOfCode? value).map fun escaped => (.plain, some escaped)
          else
            some (.code (left - 1) value, none)
  | _ => none

/-- The text of a basic string on one line, up to its quotation mark. -/
def basicText : EscapeState → TomlReader (List Char)
  | _, [] => none
  | .plain, c :: rest =>
      if c = '"' then some ([], rest)
      else if c = '\\' then basicText .opened rest
      else if isText c then consText c (basicText .plain rest)
      else none
  | state, c :: rest =>
      match readEscape state c with
      | none => none
      | some (state, none) => basicText state rest
      | some (state, some escaped) => consText escaped (basicText state rest)

/-- The text of a literal string on one line, up to its quotation mark. -/
def literalText : TomlReader (List Char)
  | [] => none
  | c :: rest =>
      if c = '\'' then some ([], rest)
      else if isText c then consText c (literalText rest)
      else none

/-- The end of a string between three quotation marks. Up to two more marks in
front of the last three belong to the text. -/
def closing? (mark : Char) (text : List Char) :
    Option (List Char × List Char) :=
  let marks := (text.takeWhile (· == mark)).length
  if marks < 3 then
    none
  else
    let inText := min (marks - 3) 2
    some (List.replicate inText mark, text.drop (inText + 3))

/-- The text of a basic string over several lines, up to its three quotation
marks. Line ends become line feeds, and a backslash at the end of a line skips
all blanks up to the next text. -/
def multilineBasicText : EscapeState → TomlReader (List Char)
  | _, [] => none
  | .plain, c :: rest =>
      match closing? '"' (c :: rest) with
      | some found => some found
      | none =>
          if c = '\\' then
            multilineBasicText .opened rest
          else if c = '\r' then
            match rest with
            | '\n' :: rest =>
                consText '\n' (multilineBasicText .plain rest)
            | _ => none
          else if c = '\n' ∨ isText c then
            consText c (multilineBasicText .plain rest)
          else
            none
  | .toLineEnd, c :: rest =>
      if isSpace c then
        multilineBasicText .toLineEnd rest
      else if c = '\n' then
        multilineBasicText .skipping rest
      else if c = '\r' then
        match rest with
        | '\n' :: rest => multilineBasicText .skipping rest
        | _ => none
      else
        none
  | .skipping, c :: rest =>
      if isSpace c ∨ c = '\n' then
        multilineBasicText .skipping rest
      else if c = '\r' then
        match rest with
        | '\n' :: rest => multilineBasicText .skipping rest
        | _ => none
      else
        match closing? '"' (c :: rest) with
        | some found => some found
        | none =>
            if c = '\\' then
              multilineBasicText .opened rest
            else if isText c then
              consText c (multilineBasicText .plain rest)
            else
              none
  | .opened, c :: rest =>
      if isSpace c then
        multilineBasicText .toLineEnd rest
      else if c = '\n' then
        multilineBasicText .skipping rest
      else if c = '\r' then
        match rest with
        | '\n' :: rest => multilineBasicText .skipping rest
        | _ => none
      else
        match readEscape .opened c with
        | none => none
        | some (state, none) => multilineBasicText state rest
        | some (state, some escaped) =>
            consText escaped (multilineBasicText state rest)
  | .code left value, c :: rest =>
      match readEscape (.code left value) c with
      | none => none
      | some (state, none) => multilineBasicText state rest
      | some (state, some escaped) =>
          consText escaped (multilineBasicText state rest)

/-- The text of a literal string over several lines, up to its three quotation
marks. -/
def multilineLiteralText : TomlReader (List Char)
  | [] => none
  | c :: rest =>
      match closing? '\'' (c :: rest) with
      | some found => some found
      | none =>
          if c = '\r' then
            match rest with
            | '\n' :: rest => consText '\n' (multilineLiteralText rest)
            | _ => none
          else if c = '\n' ∨ isText c then
            consText c (multilineLiteralText rest)
          else
            none

/-- A line end right behind the opening quotation marks is no part of the
text. -/
def skipFirstLineEnd (text : List Char) : List Char :=
  (skipLineEnd? text).getD text

def readLineString : TomlReader String
  | '"' :: rest =>
      (basicText .plain rest).map fun found =>
        (String.ofList found.1, found.2)
  | '\'' :: rest =>
      (literalText rest).map fun found => (String.ofList found.1, found.2)
  | _ => none

def readString : TomlReader String
  | '"' :: '"' :: '"' :: rest =>
      (multilineBasicText .plain (skipFirstLineEnd rest)).map fun found =>
        (String.ofList found.1, found.2)
  | '\'' :: '\'' :: '\'' :: rest =>
      (multilineLiteralText (skipFirstLineEnd rest)).map fun found =>
        (String.ofList found.1, found.2)
  | text => readLineString text

end Toml

end Phrasebook
