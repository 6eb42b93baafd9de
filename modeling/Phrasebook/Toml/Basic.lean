import Phrasebook.Number.Binary64

/-!
# TOML values

The values that a TOML document is made of. A table remembers how it came to
be, because that decides which later parts of the document may extend it.
-/

namespace Phrasebook

inductive TomlOrigin where
  /-- A table in braces. Nothing may extend it. -/
  | inline
  /-- A table with a header of its own. -/
  | header
  /-- A table that only stands on the way to the table of some header. -/
  | implied
  /-- A table made by a dotted key. -/
  | dotted
  deriving DecidableEq

/-- A TOML value. Dates and times are kept in their canonical spelling. -/
inductive Toml where
  | string (text : String)
  | integer (n : Int)
  | float (x : Binary64)
  | boolean (isSet : Bool)
  | datetime (text : String)
  | array (elements : List Toml)
  | tables (elements : List (List (String × Toml)))
  | table (origin : TomlOrigin) (entries : List (String × Toml))

/-- What is left of a text after reading a value of type `α` from its front, or
nothing when there is no such value. -/
abbrev TomlReader (α : Type) := List Char → Option (α × List Char)

end Phrasebook
