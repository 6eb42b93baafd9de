import Phrasebook.SlotAttribute
import Phrasebook.Context
import Phrasebook.Toml.Decode

/-!
# Files of contexts

A context may be written as a TOML document: `args` lists the arguments,
`[source]` and `[display]` hold the fields of the subjects, and `[attribute]` is
the attribute. With `same_subject` the source subject is also the display
subject.
-/

namespace Phrasebook

structure ContextFile where
  args : List Value := []
  sameSubject : Bool := false
  source : Option Subject := none
  display : Option Subject := none
  attr : Option Attribute := none

def plainValueOf? : Toml → Option Value
  | .boolean isSet => some (.flag isSet)
  | .integer n => some (.number (Binary64.ofInt n))
  | .float x => some (.number x)
  | .string text => some (.text text)
  | _ => none

def plainValuesOf? (value : Toml) : Option (List Value) := do
  let elements ← value.asElements?
  elements.mapM plainValueOf?

/-- The names of an attribute's settings in their order. -/
def attributeNames : List String := ["slots", "enabled", "separator"]

def attributeOfEntries? (entries : Toml.Entries) : Option Attribute := do
  let slots ← Toml.setting? plainValuesOf? "slots" entries
  let enabled ← Toml.setting? Toml.asFlag? "enabled" entries
  let separator ← Toml.setting? Toml.asText? "separator" entries
  let steps := (enabled.map Adjustment.enabled).toList ++
    (separator.map Adjustment.separator).toList
  some ((SlotAttribute.ofSlots (slots.getD [])).adjustAll steps).toAttribute

def attributeOf? (value : Toml) : Option Attribute := do
  let entries ← value.asGroup? attributeNames attributeNames.length
  attributeOfEntries? entries

/-- The value of a field: a plain value or an attribute. An attribute that is
written as an array has all its settings and nothing else. -/
def fieldOf? (value : Toml) : Option Value :=
  match plainValueOf? value with
  | some plain => some plain
  | none => do
      let entries ← value.asGroup? attributeNames attributeNames.length
      let tooLong := (value.asElements?.getD []).length >
        attributeNames.length
      if tooLong then none else (attributeOfEntries? entries).map Value.attr

def subjectOf? (value : Toml) : Option Subject := do
  let entries ← value.asTable?
  let fields ← entries.mapM fun (name, value) =>
    (fieldOf? value).map fun field => (name, field)
  some (.ofPairs fields)

def ContextFile.ofEntries? (entries : Toml.Entries) : Option ContextFile := do
  let args ← Toml.setting? plainValuesOf? "args" entries
  let sameSubject ← Toml.setting? Toml.asFlag? "same_subject" entries
  let source ← Toml.setting? subjectOf? "source" entries
  let display ← Toml.setting? subjectOf? "display" entries
  let attr ← Toml.setting? attributeOf? "attribute" entries
  some
    { args := args.getD []
      sameSubject := sameSubject.getD false
      source := source
      display := display
      attr := attr }

def ContextFile.subjects (file : ContextFile) : Subjects :=
  if file.sameSubject then .ofShared file.source
  else .ofParts file.source file.display

/-- The context of a file, with more arguments behind those of the file. -/
def ContextFile.context (file : ContextFile) (args : List Value) : Context where
  subjects := file.subjects
  attr := file.attr
  args := file.args ++ args

end Phrasebook
