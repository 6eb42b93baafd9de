import Mathlib.Data.List.Induction
import Phrasebook.SlotAttribute

/-!
# Histories of slot attributes

Whatever changes are made to an attribute in memory, its raw values stay those
that it was made of. Each slot has the value that was laid over it last, and the
flag and the separator are the ones that were set last. So the order of two
changes matters only where they set the same thing.
-/

namespace Phrasebook

/-! ## What a change sets -/

namespace Adjustment

def flag? : Adjustment → Option Bool
  | enabled isSet => some isSet
  | effective _ _ | separator _ => none

def valueAt? (index : Nat) : Adjustment → Option Value
  | effective place value => if place = index then some value else none
  | enabled _ | separator _ => none

def separator? : Adjustment → Option String
  | separator text => some text
  | enabled _ | effective _ _ => none

/-- Two changes that do not set the same thing. -/
def Independent : Adjustment → Adjustment → Prop
  | enabled _, enabled _ => False
  | separator _, separator _ => False
  | effective first _, effective second _ => first ≠ second
  | _, _ => True

end Adjustment

def lastSet? {α : Type} (sets? : Adjustment → Option α)
    (steps : List Adjustment) : Option α :=
  (steps.filterMap sets?).getLast?

theorem lastSet?_concat
    {α : Type} (sets? : Adjustment → Option α) (steps : List Adjustment)
    (step : Adjustment) :
    lastSet? sets? (steps ++ [step]) =
      (sets? step).or (lastSet? sets? steps) := by
  unfold lastSet?
  rw [List.filterMap_append, List.getLast?_append]
  cases isSet : sets? step with
  | none =>
      simp [isSet]
  | some value =>
      simp [isSet]

/-- The values of the slots: the raw ones, with those that were laid over them
last. -/
def overlaid (values : List Value) (steps : List Adjustment) : List Value :=
  values.mapIdx fun index value =>
    (lastSet? (Adjustment.valueAt? index) steps).getD value

namespace SlotAttribute

/-! ## One change -/

section Step

variable (slots : SlotAttribute) (step : Adjustment)

theorem enabled_adjust :
    (slots.adjust step).enabled = step.flag?.or slots.enabled := by
  cases step <;> rfl

theorem separator_adjust :
    (slots.adjust step).separator = step.separator?.getD slots.separator := by
  cases step <;> rfl

/-- A change reaches no slot but the one that it lays a value over. -/
theorem slot_adjust {index : Nat} (inRange : index < slots.effective.length) :
    (slots.adjust step).slot index =
      (step.valueAt? index).or (slots.slot index) := by
  cases step with
  | enabled isSet | separator text =>
      rfl
  | effective place value =>
      by_cases isPlace : place = index
      · subst isPlace
        simp [slot, adjust, Adjustment.valueAt?, inRange]
      · simp [slot, adjust, Adjustment.valueAt?, isPlace]

theorem adjust_of_beyond
    {index : Nat} (beyond : slots.effective.length ≤ index) (value : Value) :
    slots.adjust (.effective index value) = slots := by
  have unchanged :
      slots.effective.set index (some value) = slots.effective :=
    List.set_eq_of_length_le beyond
  rw [adjust, unchanged]

theorem adjust_comm
    {first second : Adjustment} (independent : first.Independent second) :
    (slots.adjust first).adjust second = (slots.adjust second).adjust first := by
  cases first with
  | enabled isSet =>
      cases second with
      | enabled other =>
          exact absurd independent id
      | effective place value | separator text =>
          rfl
  | separator text =>
      cases second with
      | separator other =>
          exact absurd independent id
      | effective place value | enabled isSet =>
          rfl
  | effective index value =>
      cases second with
      | effective place other =>
          have differ : index ≠ place := independent
          have sameOverlay :=
            List.set_comm (l := slots.effective) (some value) (some other) differ
          simp only [adjust, sameOverlay]
      | enabled isSet | separator text =>
          rfl

end Step

/-! ## Many changes -/

section Steps

variable (slots : SlotAttribute) (steps : List Adjustment)

theorem adjustAll_append (others : List Adjustment) :
    slots.adjustAll (steps ++ others) =
      (slots.adjustAll steps).adjustAll others :=
  List.foldl_append

theorem adjustAll_concat (step : Adjustment) :
    slots.adjustAll (steps ++ [step]) = (slots.adjustAll steps).adjust step :=
  adjustAll_append slots steps [step]

theorem kept_adjustAll
    {α : Type} (observe : SlotAttribute → α)
    (keeps : ∀ other step, observe (adjust other step) = observe other) :
    observe (slots.adjustAll steps) = observe slots := by
  induction steps using List.reverseRecOn with
  | nil =>
      rfl
  | append_singleton steps step inductionHypothesis =>
      rw [adjustAll_concat, keeps, inductionHypothesis]

theorem raw_adjustAll : (slots.adjustAll steps).raw = slots.raw :=
  kept_adjustAll slots steps raw raw_adjust

theorem length_effective_adjustAll :
    (slots.adjustAll steps).effective.length = slots.effective.length :=
  kept_adjustAll slots steps (fun other => other.effective.length)
    length_effective_adjust

/-- What every change either sets or leaves alone is what was set last. No
change moves the end of the overlay, so the places in it may be relied on. -/
theorem observed_adjustAll
    {α : Type} {sets? : Adjustment → Option α}
    (observe : SlotAttribute → Option α)
    (setsOrLeaves : ∀ other step,
      other.effective.length = slots.effective.length →
      observe (other.adjust step) = (sets? step).or (observe other)) :
    observe (slots.adjustAll steps) =
      (lastSet? sets? steps).or (observe slots) := by
  induction steps using List.reverseRecOn with
  | nil =>
      rfl
  | append_singleton steps step inductionHypothesis =>
      have sameEnd := length_effective_adjustAll slots steps
      rw [adjustAll_concat, setsOrLeaves _ step sameEnd, inductionHypothesis,
        lastSet?_concat, Option.or_assoc]

theorem enabled_adjustAll :
    (slots.adjustAll steps).enabled =
      (lastSet? Adjustment.flag? steps).or slots.enabled := by
  apply observed_adjustAll slots steps enabled
  intro other step _
  exact other.enabled_adjust step

theorem separator_adjustAll :
    (slots.adjustAll steps).separator =
      (lastSet? Adjustment.separator? steps).getD slots.separator := by
  have isObserved :
      some (slots.adjustAll steps).separator =
        (lastSet? Adjustment.separator? steps).or (some slots.separator) := by
    apply observed_adjustAll slots steps fun other => some other.separator
    intro other step _
    rw [separator_adjust, Option.or_some]
  rw [Option.or_some] at isObserved
  exact Option.some.inj isObserved

/-- The last write to a slot wins. -/
theorem slot_adjustAll
    {index : Nat} (inRange : index < slots.effective.length) :
    (slots.adjustAll steps).slot index =
      (lastSet? (Adjustment.valueAt? index) steps).or (slots.slot index) := by
  apply observed_adjustAll slots steps fun other => other.slot index
  intro other step sameEnd
  apply slot_adjust
  rwa [sameEnd]

end Steps

/-! ## Attributes made of values -/

section History

variable (values : List Value) (steps : List Adjustment)

theorem slot_ofSlots (index : Nat) :
    (ofSlots values).slot index = values[index]? := by
  by_cases inRange : index < values.length
  · simp [slot, ofSlots, inRange]
  · simp [slot, ofSlots, inRange]

/-- Where there is no overlay there is only the raw value. -/
theorem slot_of_beyond
    (slots : SlotAttribute) {index : Nat}
    (beyond : slots.effective.length ≤ index) :
    slots.slot index = slots.raw[index]? := by
  have notLaid : slots.effective[index]? = none :=
    List.getElem?_eq_none beyond
  simp only [slot, notLaid]

/-- After a history a slot shows what was laid over it last. -/
theorem slot_adjustAll_ofSlots (index : Nat) :
    ((ofSlots values).adjustAll steps).slot index =
      (overlaid values steps)[index]? := by
  have overlayLength : (ofSlots values).effective.length = values.length :=
    List.length_replicate
  have isOverlaid :
      (overlaid values steps)[index]? =
        values[index]?.map
          ((lastSet? (Adjustment.valueAt? index) steps).getD ·) :=
    List.getElem?_mapIdx
  rw [isOverlaid]
  by_cases inRange : index < values.length
  · rw [slot_adjustAll _ _ (by rwa [overlayLength]), slot_ofSlots,
      List.getElem?_eq_getElem inRange]
    cases lastSet? (Adjustment.valueAt? index) steps <;> rfl
  · have noValue : values[index]? = none :=
      List.getElem?_eq_none (Nat.not_lt.mp inRange)
    have beyond :
        ((ofSlots values).adjustAll steps).effective.length ≤ index := by
      rw [length_effective_adjustAll, overlayLength]
      exact Nat.not_lt.mp inRange
    have isRaw : (ofSlots values).raw[index]? = none := noValue
    rw [slot_of_beyond _ beyond, raw_adjustAll, isRaw, noValue]
    rfl

theorem filterMap_range_getElem? {α : Type} (items : List α) :
    (List.range items.length).filterMap (items[·]?) = items := by
  induction items with
  | nil =>
      rfl
  | cons item rest inductionHypothesis =>
      rw [List.length_cons, List.range_succ_eq_map, List.filterMap_cons,
        List.filterMap_map]
      exact congrArg (item :: ·) inductionHypothesis

/-- No slot is left out of the text. -/
theorem filterMap_slots :
    (List.range values.length).filterMap
        ((ofSlots values).adjustAll steps).slot =
      overlaid values steps := by
  have sameSlots :
      ((ofSlots values).adjustAll steps).slot =
        ((overlaid values steps)[·]?) :=
    funext (slot_adjustAll_ofSlots values steps)
  have sameLength : (overlaid values steps).length = values.length :=
    List.length_mapIdx
  rw [sameSlots, ← sameLength, filterMap_range_getElem?]

theorem selfText_adjustAll_ofSlots (onOwner : Bool) :
    ((ofSlots values).adjustAll steps).selfText onOwner =
      if values = [] then
        flagText ((lastSet? Adjustment.flag? steps).getD true)
      else
        ((lastSet? Adjustment.separator? steps).getD "/").intercalate
          ((overlaid values steps).map (Value.toText onOwner)) := by
  have isRaw : ((ofSlots values).adjustAll steps).raw = values :=
    raw_adjustAll _ _
  have isFlag :
      ((ofSlots values).adjustAll steps).enabled =
        lastSet? Adjustment.flag? steps := by
    rw [enabled_adjustAll]
    exact Option.or_none
  have isSeparator :
      ((ofSlots values).adjustAll steps).separator =
        (lastSet? Adjustment.separator? steps).getD "/" :=
    separator_adjustAll _ _
  rw [selfText, isRaw, isFlag, isSeparator, filterMap_slots]

end History

/-- Changes are an overlay of the raw values. In the text every slot has its
part, and nested attributes are told whether they are shown on their owner. A
change past the last slot is as good as none, and independent changes can be
made in either order. -/
theorem changes_overlay_raw_values
    (values : List Value) (steps : List Adjustment) :
    let attr := ((ofSlots values).adjustAll steps).toAttribute
    attr.slotCount = values.length ∧
      (∀ index, attr.rawSlot index = values[index]?) ∧
      (∀ index,
        ((attr.slot index).isSome ↔ index < attr.slotCount) ∧
          ((attr.rawSlot index).isSome ↔ index < attr.slotCount)) ∧
      (∀ index (inRange : index < values.length),
        attr.slot index =
          some ((lastSet? (Adjustment.valueAt? index) steps).getD
            values[index])) ∧
      attr.enabled = lastSet? Adjustment.flag? steps ∧
      (∀ onOwner, values = [] →
        attr.selfText onOwner = flagText (attr.enabled.getD true)) ∧
      (∀ onOwner, values ≠ [] → ∃ texts : List String,
        texts.length = attr.slotCount ∧
          (∀ index value, attr.slot index = some value →
            texts[index]? = some (value.toText onOwner)) ∧
          (∀ index nested, attr.slot index = some (.attr nested) →
            texts[index]? = some (nested.selfText onOwner)) ∧
          attr.selfText onOwner =
            ((lastSet? Adjustment.separator? steps).getD "/").intercalate
              texts) ∧
      (∀ before after index value,
        steps = before ++ .effective index value :: after →
        values.length ≤ index →
        (ofSlots values).adjustAll steps =
          (ofSlots values).adjustAll (before ++ after)) ∧
      (∀ before after first second,
        steps = before ++ first :: second :: after →
        first.Independent second →
        (ofSlots values).adjustAll steps =
          (ofSlots values).adjustAll (before ++ second :: first :: after)) := by
  intro attr
  have slotIs (index : Nat) :
      attr.slot index = (overlaid values steps)[index]? :=
    slot_adjustAll_ofSlots values steps index
  have rawSlotIs (index : Nat) : attr.rawSlot index = values[index]? :=
    congrArg (·[index]?) (raw_adjustAll (ofSlots values) steps)
  have countIs : attr.slotCount = values.length :=
    congrArg List.length (raw_adjustAll (ofSlots values) steps)
  have overlaidLength : (overlaid values steps).length = values.length :=
    List.length_mapIdx
  have flagIs : attr.enabled = lastSet? Adjustment.flag? steps :=
    (enabled_adjustAll (ofSlots values) steps).trans Option.or_none
  have textIs (onOwner : Bool) :=
    selfText_adjustAll_ofSlots values steps onOwner
  refine ⟨countIs, rawSlotIs, ?_, ?_, flagIs, ?_, ?_, ?_, ?_⟩
  · intro index
    have present (items : List Value)
        (sameLength : items.length = values.length) :
        items[index]?.isSome ↔ index < values.length := by
      rw [← sameLength]
      simp
    rw [slotIs, rawSlotIs, countIs]
    exact ⟨present _ overlaidLength, present values rfl⟩
  · intro index inRange
    rw [slotIs, overlaid, List.getElem?_mapIdx,
      List.getElem?_eq_getElem inRange]
    rfl
  · intro onOwner noSlots
    rw [flagIs]
    exact (textIs onOwner).trans (if_pos noSlots)
  · intro onOwner someSlots
    have partOf (index : Nat) (value : Value)
        (isSlot : attr.slot index = some value) :
        ((overlaid values steps).map (Value.toText onOwner))[index]? =
          some (value.toText onOwner) := by
      rw [List.getElem?_map, ← slotIs, isSlot]
      rfl
    refine ⟨(overlaid values steps).map (Value.toText onOwner), ?_, partOf, ?_,
      (textIs onOwner).trans (if_neg someSlots)⟩
    · rw [List.length_map, overlaidLength, countIs]
    · intro index nested isNested
      exact partOf index (.attr nested) isNested
  · intro before after index value isHistory beyond
    have noPlace :
        ((ofSlots values).adjustAll before).effective.length ≤ index := by
      rw [length_effective_adjustAll]
      exact Nat.le_trans (Nat.le_of_eq List.length_replicate) beyond
    have step := adjust_of_beyond _ noPlace value
    rw [isHistory, adjustAll_append, adjustAll_append]
    exact congrArg (adjustAll · after) step
  · intro before after first second isHistory independent
    have step := adjust_comm ((ofSlots values).adjustAll before) independent
    rw [isHistory, adjustAll_append, adjustAll_append]
    exact congrArg (adjustAll · after) step

/-- A slot that is overlaid twice, a change past the last slot, and an attribute
in a slot whose text depends on where it is shown. -/
theorem changes_of_three_slots :
    let nested : Attribute :=
      ⟨0, fun _ => none, fun _ => none, none,
        fun onOwner => if onOwner then "mine" else "theirs", ""⟩
    let first : Adjustment := .effective 0 (.text "green")
    let lost : Adjustment := .effective 3 (.text "grey")
    let last : Adjustment := .effective 0 (.text "blue")
    let slots := ofSlots [.text "red", .flag true, .attr nested]
    let attr :=
      (slots.adjustAll
        [first, lost, .separator ", ", last, .enabled false]).toAttribute
    attr.slot 0 = some (.text "blue") ∧
      attr.rawSlot 0 = some (.text "red") ∧
      attr.slot 1 = some (.flag true) ∧
      attr.enabled = some false ∧
      slots.adjustAll [first, lost, .separator ", ", last, .enabled false] =
        slots.adjustAll [first, .separator ", ", last, .enabled false] ∧
      slots.adjustAll [first, lost, .separator ", ", last, .enabled false] =
        slots.adjustAll [first, lost, last, .separator ", ", .enabled false] ∧
      ∃ texts : List String,
        texts.length = 3 ∧
          texts[2]? = some "theirs" ∧
          attr.selfText false = ", ".intercalate texts := by
  intro nested first lost last slots attr
  have law :=
    changes_overlay_raw_values [.text "red", .flag true, .attr nested]
      [first, lost, .separator ", ", last, .enabled false]
  obtain ⟨count, rawSlot, -, slot, enabled, -, text, beyond, swapped⟩ := law
  obtain ⟨texts, textsLength, -, nestedText, isText⟩ :=
    text false (List.cons_ne_nil _ _)
  refine ⟨slot 0 (by decide), rawSlot 0, slot 1 (by decide), enabled,
    beyond [first] _ 3 _ rfl (Nat.le_refl 3), ?_, texts,
    textsLength.trans count, ?_, isText⟩
  · exact swapped [first, lost] [.enabled false] _ _ rfl trivial
  · exact nestedText 2 nested (slot 2 (by decide))

end SlotAttribute

end Phrasebook
