import Phrasebook.Toml.Basic

/-!
# Space between TOML values

Blanks, line ends and comments.
-/

namespace Phrasebook

namespace Toml

/-- Whether a character may stand in a comment or a string: no control
character but the tabulator. -/
def isText (c : Char) : Bool :=
  c = '\t' || (0x20 ≤ c.toNat && c.toNat ≠ 0x7F)

def isSpace (c : Char) : Bool :=
  c = ' ' || c = '\t'

def skipSpaces (text : List Char) : List Char :=
  text.dropWhile isSpace

/-- Skips a comment, if there is one, up to the end of its line. -/
def skipComment : List Char → List Char
  | '#' :: rest => rest.dropWhile isText
  | text => text

/-- A line end at the front of a text. -/
def skipLineEnd? : List Char → Option (List Char)
  | '\n' :: rest => some rest
  | '\r' :: '\n' :: rest => some rest
  | _ => none

/-- The rest of a line behind a value: blanks, a comment, and the end of the
line or of the text. -/
def skipLineRest? (text : List Char) : Option (List Char) :=
  match skipComment (skipSpaces text) with
  | [] => some []
  | rest => skipLineEnd? rest

/-- Skips blanks, comments and line ends, `fuel` lines at most. -/
def skipLines : Nat → List Char → List Char
  | 0, text => text
  | fuel + 1, text =>
      let rest := skipComment (skipSpaces text)
      match skipLineEnd? rest with
      | some rest => skipLines fuel rest
      | none => rest

def skipFiller (text : List Char) : List Char :=
  skipLines text.length text

end Toml

end Phrasebook
