import Phrasebook.Dictionary
import Phrasebook.Value

/-!
# Contexts

What one call lets a template read: up to two subjects, an attribute and
arguments. The source subject is the owner of what is described and the display
subject is the one it is shown on. Attributes may describe themselves
differently on their own owner, so a context records whether the two subjects
are one.
-/

namespace Phrasebook

abbrev Subject := Dictionary Value

/-- The subjects of a context. Two distinct subjects may have equal fields. -/
inductive Subjects where
  | neither
  | sourceOnly (source : Subject)
  | displayOnly (display : Subject)
  | distinct (source display : Subject)
  | shared (subject : Subject)

namespace Subjects

/-- Subjects that are not the same object. -/
def ofParts : Option Subject → Option Subject → Subjects
  | none, none => neither
  | some source, none => sourceOnly source
  | none, some display => displayOnly display
  | some source, some display => distinct source display

/-- One object in both places, if there is one. -/
def ofShared : Option Subject → Subjects
  | none => neither
  | some subject => shared subject

def source : Subjects → Option Subject
  | neither | displayOnly _ => none
  | sourceOnly source | distinct source _ => some source
  | shared subject => some subject

def display : Subjects → Option Subject
  | neither | sourceOnly _ => none
  | displayOnly display | distinct _ display => some display
  | shared subject => some subject

@[simp]
theorem source_ofParts (source display : Option Subject) :
    (ofParts source display).source = source := by
  cases source <;> cases display <;> rfl

@[simp]
theorem display_ofParts (source display : Option Subject) :
    (ofParts source display).display = display := by
  cases source <;> cases display <;> rfl

@[simp]
theorem source_ofShared (subject : Option Subject) :
    (ofShared subject).source = subject := by
  cases subject <;> rfl

@[simp]
theorem display_ofShared (subject : Option Subject) :
    (ofShared subject).display = subject := by
  cases subject <;> rfl

/-- Whether things are shown on their own owner: the subjects are the same
object, or there are none. -/
def onOwner : Subjects → Bool
  | neither | shared _ => true
  | _ => false

end Subjects

structure Context where
  subjects : Subjects := .neither
  attr : Option Attribute := none
  args : List Value := []

namespace Context

def onOwner (context : Context) : Bool :=
  context.subjects.onOwner

/-- The diagnostic text: which subjects there are, the attribute and the
arguments. -/
def debugText (context : Context) : String :=
  let source := flagText context.subjects.source.isSome
  let display := flagText context.subjects.display.isSome
  let attr := debugOption (context.attr.map Readings.debugText)
  let args := debugList (context.args.map Value.debugText)
  "ResolutionContext \x7b source: " ++ source ++ ", display: " ++ display ++
    ", attribute: " ++ attr ++ ", args: " ++ args ++ " \x7d"

end Context

end Phrasebook
