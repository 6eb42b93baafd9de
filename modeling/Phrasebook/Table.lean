import Phrasebook.Dictionary

/-!
# String tables and limits

A string table names templates by keys, so that templates can refer to one
another. Its limits bound how deep such references are followed.
-/

namespace Phrasebook

structure Limits where
  /-- The deepest level at which an entry is still expanded. -/
  maxDepth : Nat := 10
  /-- What stands in place of an entry below that level. -/
  recursionSentinel : String := "[RECURSIVE]"
  /-- How deep expressions may stand inside one another. -/
  maxNesting : Nat := 64
  deriving DecidableEq

/-- Templates by key, with a description and with limits of their own. -/
structure Table where
  language : Option String := none
  description : Option String := none
  templates : Dictionary String := {}
  limits : Limits := {}

end Phrasebook
