import Phrasebook.Number.Specifier

/-!
# Errors

An error has a cause, the place in the template text where it arose, and the
entries of the string table that were being expanded at that moment. Causes are
data; `ResolveError.message` is the one place where they are put into words.
-/

namespace Phrasebook

/-- The characters from `start` up to `stop`, counted from zero. -/
structure Span where
  start : Nat
  stop : Nat
  deriving DecidableEq

/-- A part of the context that a selector may need. -/
inductive Role where
  | source
  | display
  | attr
  deriving DecidableEq

/-- Why a selector is not allowed. -/
inductive SelectorFault where
  | branchedAttribute
  | bareSubject (letter : String)
  | unknownMain (main : String)
  | nestedAttribute
  | notAnAttribute (field kind : String)
  | unknownPart (part : String)
  deriving DecidableEq

/-- Why a template cannot be resolved. -/
inductive Cause where
  | unterminatedExpression
  | danglingEscape
  | nestingTooDeep (limit : Nat)
  | incompleteBranch (selector : String)
  | selectorTooLong (selector : String)
  | invalidSelector (selector : String) (fault : SelectorFault)
  | slotOutOfRange (selector : String) (slot count : Nat)
  | argumentOutOfRange (index count : Nat)
  | missingContext (role : Role)
  | missingField (role : Role) (field : String)
  | noEnabledFlag (selector : String)
  | invalidFormat (specifier : String) (fault : SpecifierFault)
  deriving DecidableEq

/-- An entry of the string table, with the text it stands for. -/
structure Entry where
  key : String
  template : String
  deriving DecidableEq

/-- What went wrong, where, and inside which entries, outermost first. The span
counts characters of the innermost entry's text, or of the given template when
there is no entry. -/
structure ResolveError where
  entries : List Entry
  cause : Cause
  span : Span
  deriving DecidableEq

/-! ## Wording -/

def Span.text (span : Span) : String :=
  s!"{span.start}..{span.stop}"

def Role.text : Role → String
  | source => "source subject"
  | display => "display subject"
  | attr => "attribute"

def SelectorFault.message : SelectorFault → String
  | branchedAttribute =>
      "the attribute itself cannot be branched, " ++
        "select 'a.e' or a slot such as 'a.0'"
  | bareSubject letter =>
      s!"'{letter}' requires a field, e.g. '{letter}.range'"
  | unknownMain main =>
      s!"invalid main selector '{main}', expected 'a', 's' or 'd'"
  | nestedAttribute => "too many sub selectors for the attribute"
  | notAnAttribute field kind =>
      s!"field '{field}' is a {kind}, only attributes have sub selectors"
  | unknownPart part =>
      s!"invalid sub selector '{part}', expected 'e' or a slot digit"

/-- The wording of a cause. Only the causes that concern the template's own
form name the place. -/
def Cause.message (cause : Cause) (span : Span) : String :=
  let place := span.text
  match cause with
  | unterminatedExpression => s!"unterminated expression at {place}"
  | danglingEscape => s!"escape character at end of template at {place}"
  | nestingTooDeep limit =>
      s!"expressions nested deeper than {limit} levels at {place}"
  | incompleteBranch selector =>
      s!"branch in '{selector}' has no second alternative at {place}"
  | selectorTooLong selector =>
      s!"selector '{selector}' has more than three segments"
  | invalidSelector selector fault =>
      let reason := fault.message
      s!"invalid selector '{selector}': {reason}"
  | slotOutOfRange selector slot count =>
      s!"slot {slot} of '{selector}' is out of range " ++
        s!"(attribute has {count} slots)"
  | argumentOutOfRange index count =>
      s!"argument {index} is out of range ({count} arguments supplied)"
  | missingContext role =>
      let name := role.text
      s!"{name} is not supplied"
  | missingField role field =>
      let name := role.text
      s!"field '{field}' not found on {name}"
  | noEnabledFlag selector => s!"'{selector}' has no enabled flag"
  | invalidFormat specifier fault =>
      let reason := fault.message
      s!"invalid format '{specifier}': {reason}"

/-- Whether a cause lies in the template's form: its grammar, the shape of a
selector or a specifier. The other causes lie in the context. -/
def Cause.isSyntax : Cause → Bool
  | unterminatedExpression | danglingEscape | nestingTooDeep _
  | incompleteBranch _ | selectorTooLong _ | invalidSelector _ _
  | slotOutOfRange _ _ _ | invalidFormat _ _ => true
  | argumentOutOfRange _ _ | missingContext _ | missingField _ _
  | noEnabledFlag _ => false

namespace ResolveError

def raised (cause : Cause) (span : Span) : ResolveError :=
  ⟨[], cause, span⟩

/-- The same error, met while expanding one more entry. -/
def inEntry (entry : Entry) (error : ResolveError) : ResolveError :=
  { error with entries := entry :: error.entries }

def root (error : ResolveError) : ResolveError :=
  { error with entries := [] }

@[simp]
theorem entries_inEntry (entry : Entry) (error : ResolveError) :
    (error.inEntry entry).entries = entry :: error.entries :=
  rfl

/-- Entries around an error do not change its root. -/
@[simp]
theorem root_inEntry (entry : Entry) (error : ResolveError) :
    (error.inEntry entry).root = error.root :=
  rfl

/-- The wording of an error: its entries from the outside in, then its
cause. -/
def message (error : ResolveError) : String :=
  error.entries.foldr
    (fun entry inner =>
      let key := entry.key
      s!"in string table entry '{key}': {inner}")
    (error.cause.message error.span)

def isSyntax (error : ResolveError) : Bool :=
  error.cause.isSyntax

end ResolveError

end Phrasebook
