import Phrasebook.Number.Shortest
import Phrasebook.Text.Quoted

/-!
# Values and attributes

A template reads values: texts, numbers, flags and attributes. An attribute is
a value of several slots with an optional flag that tells whether it is
enabled. Templates see an attribute only through what can be read from it, so
that is what an attribute is here.
-/

namespace Phrasebook

/-- What can be read from an attribute whose slots hold values of type `α`. A
slot has a raw and an effective value. The text of an attribute may depend on
whether it is shown on its own owner. -/
structure Readings (α : Type) where
  slotCount : Nat
  slot : Nat → Option α
  rawSlot : Nat → Option α
  enabled : Option Bool
  selfText : Bool → String
  debugText : String

inductive Value where
  | text (content : String)
  | number (x : Binary64)
  | flag (isSet : Bool)
  | attr (readings : Readings Value)

abbrev Attribute := Readings Value

def flagText (isSet : Bool) : String :=
  if isSet then "true" else "false"

namespace Value

def kind : Value → String
  | text _ => "text"
  | number _ => "number"
  | flag _ => "bool"
  | attr _ => "attribute"

/-- The default text of a value. Only attributes look at whether they are shown
on their owner. -/
def toText (onOwner : Bool) : Value → String
  | text content => content
  | number x => x.defaultText
  | flag isSet => flagText isSet
  | attr readings => readings.selfText onOwner

def debugText : Value → String
  | text content => "Text(" ++ quoted content ++ ")"
  | number x => "Number(" ++ x.debugText ++ ")"
  | flag isSet => "Bool(" ++ flagText isSet ++ ")"
  | attr readings => "Attribute(" ++ readings.debugText ++ ")"

def asFlag? : Value → Option Bool
  | flag isSet => some isSet
  | _ => none

def asNumber? : Value → Option Binary64
  | number x => some x
  | _ => none

def asAttribute? : Value → Option Attribute
  | attr readings => some readings
  | _ => none

end Value

/-! ## Diagnostic texts of lists and options -/

def debugList (texts : List String) : String :=
  "[" ++ ", ".intercalate texts ++ "]"

def debugOption : Option String → String
  | some text => "Some(" ++ text ++ ")"
  | none => "None"

end Phrasebook
