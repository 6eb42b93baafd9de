import Phrasebook.Context
import Phrasebook.Run
import Phrasebook.Selector
import Phrasebook.Table

/-!
# Expressions

An expression of a template reads a value with its selector, picks a branch
with it if there are branches, and writes it as its specifier says. This module
evaluates one expression whose nested expressions have been resolved. How the
entry of a key is expanded is left open; the evaluation only hands over the key
and the entry's text.
-/

namespace Phrasebook

/-- Where an expression stands: in template text, in the selector of another
expression, or in one of its branches. A key in a selector is not expanded,
since it helps to name something else. -/
inductive Site where
  | entry
  | selector
  | branch
  deriving DecidableEq

structure Branches where
  ifFalse : String
  ifTrue : String
  deriving DecidableEq

/-- An expression with all its nested expressions resolved. -/
structure Expression where
  selector : String
  branches : Option Branches
  specifier : Option String
  site : Site
  span : Span
  deriving DecidableEq

/-! ## Branches -/

def Branches.pick (branches : Branches) (condition : Bool) : Value :=
  .text (if condition then branches.ifTrue else branches.ifFalse)

/-- A flag picks a branch, and a number picks as the flag of being one. Any
other value is kept. -/
def Branches.select (branches : Branches) : Value → Value
  | .flag isSet => branches.pick isSet
  | .number x => branches.pick x.isOne
  | value => value

def selectBranch (branches : Option Branches) (value : Value) : Value :=
  match branches with
  | some branches => branches.select value
  | none => value

/-- A text is neither a flag nor a number, so that it is kept. -/
@[simp]
theorem selectBranch_text (branches : Option Branches) (content : String) :
    selectBranch branches (.text content) = .text content := by
  cases branches <;> rfl

namespace Expression

variable (expression : Expression)

/-! ## Reading values -/

def fail {α : Type} (cause : Cause) : Run α :=
  Run.fail (.raised cause expression.span)

def reject {α : Type} (fault : SelectorFault) : Run α :=
  expression.fail (.invalidSelector expression.selector fault)

def require {α : Type} (cause : Cause) : Option α → Run α
  | some value => pure value
  | none => expression.fail cause

def contextAttribute (context : Context) : Run Attribute :=
  expression.require (.missingContext .attr) context.attr

def subjectField (context : Context) (subject : SubjectRole) (name : String) :
    Run Value := do
  let found :=
    match subject with
    | .source => context.subjects.source
    | .display => context.subjects.display
  let fields ← expression.require (.missingContext subject.role) found
  expression.require (.missingField subject.role name) (fields.get? name)

/-- The effective value of a slot. Slots past the count of the attribute are
not asked for. -/
def slotValue (attr : Attribute) (index : Nat) : Run Value :=
  expression.require
    (.slotOutOfRange expression.selector index attr.slotCount)
    (if index < attr.slotCount then attr.slot index else none)

def attributePart (attr : Attribute) : AttributePart → Run Value
  | .enabled => do
      let isSet ← expression.require (.noEnabledFlag expression.selector)
        attr.enabled
      pure (.flag isSet)
  | .slot index => expression.slotValue attr index
  | .unknown text => expression.reject (.unknownPart text)

/-- The value that decides between the branches for an attribute: its flag, or
its first slot when it has none. -/
def attributeCondition (attr : Attribute) : Run Value :=
  match attr.enabled with
  | some isSet => pure (.flag isSet)
  | none => expression.slotValue attr 0

/-! ## Evaluation -/

/-- The value of an expression, after its branches have been chosen from.
`expand` resolves the entry of a key, given the key and the entry's text. -/
def evaluate (table : Table) (context : Context)
    (expand : String → String → Run String) : Run Value :=
  match Selector.ofText expression.selector with
  | .attr => do
      let attr ← expression.contextAttribute context
      if expression.branches.isSome then
        expression.reject .branchedAttribute
      else
        pure (.text (attr.selfText context.onOwner))
  | .bareSubject subject => expression.reject (.bareSubject subject.letter)
  | .argument index => do
      let value ← expression.require
        (.argumentOutOfRange index context.args.length) context.args[index]?
      pure (selectBranch expression.branches value)
  | .key key =>
      match table.templates.get? key with
      | none => do
          Run.emit (.keyMissing key)
          pure (.text key)
      | some template =>
          if expression.site = .selector then
            pure (.text key)
          else do
            let text ← expand key template
            pure (selectBranch expression.branches (.text text))
  | .attrPart part => do
      let attr ← expression.contextAttribute context
      let value ← expression.attributePart attr part
      pure (selectBranch expression.branches value)
  | .field subject name => do
      match ← expression.subjectField context subject name with
      | .attr attr =>
          match expression.branches with
          | some branches => do
              let condition ← expression.attributeCondition attr
              pure (branches.select condition)
          | none => pure (.text (attr.selfText context.onOwner))
      | value => pure (selectBranch expression.branches value)
  | .fieldPart subject name part => do
      match ← expression.subjectField context subject name with
      | .attr attr => do
          let value ← expression.attributePart attr part
          pure (selectBranch expression.branches value)
      | value => expression.reject (.notAnAttribute name value.kind)
  | .unknownMain main => expression.reject (.unknownMain main)
  | .nestedAttribute => expression.reject .nestedAttribute
  | .tooLong => expression.fail (.selectorTooLong expression.selector)

/-- The text of a value. Only numbers heed a specifier. -/
def write (onOwner : Bool) (value : Value) : Run String :=
  match expression.specifier, value with
  | some specifier, .number x =>
      match formatNumber x specifier with
      | .ok text => pure text
      | .error fault => expression.fail (.invalidFormat specifier fault)
  | _, value => pure (value.toText onOwner)

def render (table : Table) (context : Context)
    (expand : String → String → Run String) : Run String := do
  let value ← expression.evaluate table context expand
  expression.write context.onOwner value

end Expression

end Phrasebook
