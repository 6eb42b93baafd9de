/-!
# The grammar of templates

A template is text with expressions in braces. An expression has a selector,
may have two branches, and may end in a specifier; selectors and branches are
text with expressions again. The grammar is stated on characters alone. It
knows neither a string table nor a context, and it bounds how many expressions
may stand around another one.
-/

namespace Phrasebook

/-- The places where text stands: outside all expressions, or in one of the
parts of an expression. -/
inductive Region where
  | outside
  | selector
  | ifFalse
  | ifTrue
  deriving DecidableEq

namespace Region

def escapes : Region → Char → Bool
  | outside, c => c = '/' || c = '\x7b'
  | _, c =>
      c = '\x7b' || c = '\x7d' || c = '|' || c = ':' || c = '?' || c = '/'

def ends : Region → Char → Bool
  | outside, _ => false
  | selector, c => c = '?' || c = ':' || c = '\x7d'
  | ifFalse, c => c = '|' || c = '\x7d'
  | ifTrue, c => c = ':' || c = '\x7d'

/-- A slash escapes whatever would have a meaning in the region. -/
theorem ordinary_of_not_escapes
    {region : Region} {c : Char}
    (kept : region.escapes c = false) :
    c ≠ '/' ∧ c ≠ '\x7b' ∧ region.ends c = false := by
  cases region <;>
    simp_all [escapes, ends]

theorem eq_of_ends
    {region : Region} {c : Char} (ends : region.ends c = true) :
    c = '?' ∨ c = '|' ∨ c = ':' ∨ c = '\x7d' := by
  cases region <;> simp [Region.ends] at ends <;> grind

theorem not_ends_slash (region : Region) : region.ends '/' = false := by
  cases region <;> decide

theorem not_ends_brace (region : Region) : region.ends '\x7b' = false := by
  cases region <;> decide

end Region

/-- Specifiers are raw. A closing brace belongs to one only behind a slash, and
any other slash stands in front of a character to be read next. -/
inductive IsSpecifier : List Char → Prop
  | nil : IsSpecifier []
  | ordinary {c : Char} {rest : List Char} :
      c ≠ '/' →
      c ≠ '\x7d' →
      IsSpecifier rest →
      IsSpecifier (c :: rest)
  | brace {rest : List Char} :
      IsSpecifier rest →
      IsSpecifier ('/' :: '\x7d' :: rest)
  | slash {c : Char} {rest : List Char} :
      c ≠ '\x7d' →
      IsSpecifier (c :: rest) →
      IsSpecifier ('/' :: c :: rest)

/-- What stands behind the parts of an expression. -/
inductive IsEnding : List Char → Prop
  | plain : IsEnding ['\x7d']
  | specified {specifier : List Char} :
      IsSpecifier specifier →
      IsEnding (':' :: specifier ++ ['\x7d'])

mutual

inductive IsText (limit : Nat) : Region → Nat → List Char → Prop
  | nil {region : Region} {level : Nat} : IsText limit region level []
  | ordinary {region : Region} {level : Nat} {c : Char} {rest : List Char} :
      c ≠ '/' →
      c ≠ '\x7b' →
      region.ends c = false →
      IsText limit region level rest →
      IsText limit region level (c :: rest)
  | escape {region : Region} {level : Nat} {c : Char} {rest : List Char} :
      region.escapes c = true →
      IsText limit region level rest →
      IsText limit region level ('/' :: c :: rest)
  | slash {region : Region} {level : Nat} {c : Char} {rest : List Char} :
      region.escapes c = false →
      IsText limit region level rest →
      IsText limit region level ('/' :: c :: rest)
  | nested {region : Region} {level : Nat} {inner rest : List Char} :
      IsExpression limit level inner →
      IsText limit region level rest →
      IsText limit region level (inner ++ rest)

inductive IsExpression (limit : Nat) : Nat → List Char → Prop
  | plain {level : Nat} {selector ending : List Char} :
      level ≤ limit →
      IsText limit .selector (level + 1) selector →
      IsEnding ending →
      IsExpression limit level ('\x7b' :: selector ++ ending)
  | branched {level : Nat} {selector ifFalse ifTrue ending : List Char} :
      level ≤ limit →
      IsText limit .selector (level + 1) selector →
      IsText limit .ifFalse (level + 1) ifFalse →
      IsText limit .ifTrue (level + 1) ifTrue →
      IsEnding ending →
      IsExpression limit level
        ('\x7b' :: selector ++ '?' :: ifFalse ++ '|' :: ifTrue ++ ending)

end

/-- A template whose expressions stand inside at most `limit` others. -/
def IsTemplate (limit : Nat) (text : List Char) : Prop :=
  IsText limit .outside 0 text

end Phrasebook
