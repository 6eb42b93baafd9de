import Phrasebook.Value

/-!
# Attributes held in memory

A slot attribute is a list of raw slot values with an overlay of effective
values. Its text is that of its slots, joined by a separator.
-/

namespace Phrasebook

/-- Raw values, the effective values laid over them, and the flag. -/
structure SlotAttribute where
  raw : List Value
  effective : List (Option Value)
  enabled : Option Bool
  separator : String

inductive Adjustment where
  | enabled (flag : Bool)
  | effective (index : Nat) (value : Value)
  | separator (text : String)

namespace SlotAttribute

/-- An attribute of raw values, without a flag and without an overlay. -/
def ofSlots (slots : List Value) : SlotAttribute where
  raw := slots
  effective := List.replicate slots.length none
  enabled := none
  separator := "/"

/-- Makes one change. An effective value past the last slot is ignored. -/
def adjust (slots : SlotAttribute) : Adjustment → SlotAttribute
  | .enabled flag => { slots with enabled := some flag }
  | .effective index value =>
      { slots with effective := slots.effective.set index (some value) }
  | .separator text => { slots with separator := text }

def adjustAll (slots : SlotAttribute) (steps : List Adjustment) :
    SlotAttribute :=
  steps.foldl adjust slots

/-- No change reaches the raw values. -/
@[simp]
theorem raw_adjust (slots : SlotAttribute) (step : Adjustment) :
    (slots.adjust step).raw = slots.raw := by
  cases step <;> rfl

/-- No change adds or removes a place of the overlay. -/
@[simp]
theorem length_effective_adjust (slots : SlotAttribute)
    (step : Adjustment) :
    (slots.adjust step).effective.length = slots.effective.length := by
  cases step <;> simp [adjust]

/-- The effective value of a slot, or its raw value where none was laid over
it. -/
def slot (slots : SlotAttribute) (index : Nat) : Option Value :=
  match slots.effective[index]? with
  | some (some value) => some value
  | _ => slots.raw[index]?

/-- The texts of all slots, joined by the separator. Without slots there is
only the flag to show, and an attribute without a flag is enabled. -/
def selfText (slots : SlotAttribute) (onOwner : Bool) : String :=
  if slots.raw = [] then
    flagText (slots.enabled.getD true)
  else
    slots.separator.intercalate
      (((List.range slots.raw.length).filterMap slots.slot).map
        (Value.toText onOwner))

def debugText (slots : SlotAttribute) : String :=
  let raw := debugList (slots.raw.map Value.debugText)
  let effective := debugList
    (slots.effective.map fun value => debugOption (value.map Value.debugText))
  let enabled := debugOption (slots.enabled.map flagText)
  let separator := quoted slots.separator
  "SlotAttribute \x7b raw: " ++ raw ++ ", effective: " ++ effective ++
    ", enabled: " ++ enabled ++ ", separator: " ++ separator ++ " \x7d"

def toAttribute (slots : SlotAttribute) : Attribute where
  slotCount := slots.raw.length
  slot := slots.slot
  rawSlot := fun index => slots.raw[index]?
  enabled := slots.enabled
  selfText := slots.selfText
  debugText := slots.debugText

end SlotAttribute

end Phrasebook
