import Phrasebook.Proofs.KeyExpressions
import Phrasebook.Proofs.TruthfulErrors

/-!
# Branching

Branches do to the value of an expression what they would do to any value: a
flag or a number picks one of them, and anything else is kept. This holds for
all selectors but those that show an attribute as a whole. The attribute of the
context cannot be branched at all, and for one in a field its flag or its first
slot is tested in place of its text.
-/

namespace Phrasebook

/-! ## Conditions -/

/-- The condition that a value stands for, if it is tested at all. A flag stands
for itself and a number for being one. -/
def Value.condition? : Value → Option Bool
  | .flag isSet => some isSet
  | .number x => some (decide (x.finiteValue? = some 1))
  | .text _ | .attr _ => none

theorem Branches.select_of_condition
    (branches : Branches) {value : Value} {condition : Bool}
    (tested : value.condition? = some condition) :
    branches.select value =
      .text (if condition then branches.ifTrue else branches.ifFalse) := by
  cases value with
  | flag isSet | number x =>
      cases tested
      rfl
  | text content | attr readings =>
      cases tested

theorem Branches.select_of_untested
    (branches : Branches) {value : Value}
    (untested : value.condition? = none) :
    branches.select value = value := by
  cases value with
  | flag isSet | number x =>
      cases untested
  | text content | attr readings =>
      rfl

/-! ## Selectors of attributes -/

theorem splitAtMark_append_cons
    {mark : Char} {first : List Char} (unmarked : mark ∉ first)
    (rest : List Char) :
    splitAtMark mark (first ++ mark :: rest) =
      (first, (splitAtMark mark rest).1 :: (splitAtMark mark rest).2) := by
  induction first with
  | nil =>
      simp [splitAtMark]
  | cons c others inductionHypothesis =>
      rw [List.mem_cons, not_or] at unmarked
      obtain ⟨isOther, othersUnmarked⟩ := unmarked
      simp [splitAtMark, inductionHypothesis othersUnmarked, Ne.symm isOther]

namespace Selector

theorem ofSingle_eq_attr
    {segment : List Char} (isAttr : ofSingle segment = .attr) :
    segment = ['a'] := by
  grind [ofSingle]

theorem ofSingle_ne_field
    {segment : List Char} {subject : SubjectRole} {name : String} :
    ofSingle segment ≠ .field subject name := by
  grind [ofSingle]

theorem ofPair_ne_attr
    {main second : List Char} : ofPair main second ≠ .attr := by
  grind [ofPair]

theorem ofPair_eq_field
    {main second : List Char} {subject : SubjectRole} {name : String}
    (isField : ofPair main second = .field subject name) :
    main = subject.letter.toList ∧ second = name.toList := by
  grind [ofPair, SubjectRole.eq_letter, String.toList_ofList]

theorem ofTriple_ne_attr
    {main second third : List Char} : ofTriple main second third ≠ .attr := by
  grind [ofTriple]

theorem ofTriple_ne_field
    {main second third : List Char} {subject : SubjectRole} {name : String} :
    ofTriple main second third ≠ .field subject name := by
  grind [ofTriple]

theorem ofText_eq_attr_iff
    {text : String} : ofText text = .attr ↔ text = "a" := by
  constructor
  · intro isAttr
    have joined := flatMap_splitAtMark '.' text.toList
    unfold ofText at isAttr
    split at isAttr
    · rename_i segment isSplit
      rw [isSplit, ofSingle_eq_attr isAttr] at joined
      exact String.toList_injective joined.symm
    · exact absurd isAttr ofPair_ne_attr
    · exact absurd isAttr ofTriple_ne_attr
    · cases isAttr
  · rintro rfl
    rfl

theorem ofText_eq_field_iff
    {text name : String} {subject : SubjectRole} :
    ofText text = .field subject name ↔
      '.' ∉ name.toList ∧ text = subject.letter ++ "." ++ name := by
  constructor
  · intro isField
    have joined := flatMap_splitAtMark '.' text.toList
    have unmarked := not_mem_splitAtMark '.' text.toList
    unfold ofText at isField
    split at isField
    · exact absurd isField ofSingle_ne_field
    · rename_i main second isSplit
      obtain ⟨rfl, rfl⟩ := ofPair_eq_field isField
      rw [isSplit] at joined unmarked
      refine ⟨unmarked.2 _ List.mem_cons_self, ?_⟩
      apply String.toList_injective
      simp [← joined]
    · exact absurd isField ofTriple_ne_field
    · cases isField
  · rintro ⟨noDot, rfl⟩
    have letterNoDot : '.' ∉ subject.letter.toList := by
      cases subject <;> decide
    have segments :
        (subject.letter ++ "." ++ name).toList =
          subject.letter.toList ++ '.' :: name.toList := by
      simp
    simp only [ofText, segments, splitAtMark_append_cons letterNoDot,
      splitAtMark_of_not_mem noDot]
    cases subject <;>
      simp [ofPair, SubjectRole.letter, SubjectRole.ofSegment?]

end Selector

/-- A selector that shows an attribute as a whole: the one of the context, or
one in a field. -/
inductive Context.ShowsAttribute (context : Context) :
    String → Attribute → Prop
  | attr {attr : Attribute} :
      context.attr = some attr →
      ShowsAttribute context "a" attr
  | field {subject : SubjectRole} {fields : Subject} {name : String}
      {attr : Attribute} :
      '.' ∉ name.toList →
      context.subject subject = some fields →
      fields.get? name = some (.attr attr) →
      ShowsAttribute context (subject.letter ++ "." ++ name) attr

/-! ## Evaluating with branches -/

theorem Run.map_eq
    {α β : Type} (change : α → β) (run : Run α) :
    change <$> run = ⟨run.log, run.outcome.map change⟩ := by
  obtain ⟨log, outcome⟩ := run
  cases outcome with
  | error error =>
      rfl
  | ok value =>
      exact congrArg (Run.mk · (.ok (change value))) (List.append_nil log)

namespace Expression

def withBranches (expression : Expression) (branches : Option Branches) :
    Expression :=
  { expression with branches := branches }

@[simp]
theorem selector_withBranches
    (expression : Expression) (branches : Option Branches) :
    (expression.withBranches branches).selector = expression.selector :=
  rfl

@[simp]
theorem site_withBranches
    (expression : Expression) (branches : Option Branches) :
    (expression.withBranches branches).site = expression.site :=
  rfl

@[simp]
theorem branches_withBranches
    (expression : Expression) (branches : Option Branches) :
    (expression.withBranches branches).branches = branches :=
  rfl

section Evaluation

variable {expression : Expression} {table : Table} {context : Context}
  {expand : String → String → Run String}

theorem map_fail {α β : Type} (change : α → β) (cause : Cause) :
    change <$> (expression.fail cause : Run α) = expression.fail cause :=
  rfl

theorem attributeCondition_of_flag
    {attr : Attribute} {isSet : Bool} (hasFlag : attr.enabled = some isSet) :
    expression.attributeCondition attr = pure (.flag isSet) := by
  unfold attributeCondition
  rw [hasFlag]

theorem attributeCondition_of_slot
    {attr : Attribute} {value : Value} (noFlag : attr.enabled = none)
    (counted : 0 < attr.slotCount) (hasSlot : attr.slot 0 = some value) :
    expression.attributeCondition attr = pure value := by
  unfold attributeCondition slotValue
  rw [noFlag, if_pos counted, hasSlot]
  rfl

theorem attributeCondition_of_no_slot
    {attr : Attribute} (noFlag : attr.enabled = none)
    (noSlot : attr.slotCount = 0 ∨ attr.slot 0 = none) :
    expression.attributeCondition attr =
      expression.fail
        (.slotOutOfRange expression.selector 0 attr.slotCount) := by
  have absent : (if 0 < attr.slotCount then attr.slot 0 else none) = none := by
    rcases noSlot with noSlots | noValue
    · rw [noSlots]
      rfl
    · rw [noValue, ite_self]
  unfold attributeCondition slotValue
  rw [noFlag, absent]
  rfl

/-- Where no attribute is shown as a whole, the branches are chosen from with
the value that the expression has without them. -/
theorem evaluate_withBranches
    (shown : ∀ attr, ¬ context.ShowsAttribute expression.selector attr)
    (branches : Branches) :
    (expression.withBranches (some branches)).evaluate table context expand =
      branches.select <$>
        (expression.withBranches none).evaluate table context expand := by
  unfold evaluate
  simp only [selector_withBranches, site_withBranches, branches_withBranches]
  cases isSelector : Selector.ofText expression.selector with
  | attr =>
      have isAttr := Selector.ofText_eq_attr_iff.mp isSelector
      cases hasAttr : context.attr with
      | none =>
          unfold contextAttribute
          rw [hasAttr]
          rfl
      | some attr =>
          rw [isAttr] at shown
          exact absurd (.attr hasAttr) (shown attr)
  | bareSubject subject | unknownMain main | nestedAttribute | tooLong =>
      rfl
  | argument index =>
      rw [map_bind]
      exact bind_congr fun value => (map_pure _ _).symm
  | key key =>
      simp only
      cases table.templates.get? key with
      | none =>
          rfl
      | some template =>
          by_cases inSelector : expression.site = .selector
          · simp only [inSelector, if_true]
            rfl
          · simp only [inSelector, if_false, map_bind]
            exact bind_congr fun text => (map_pure _ _).symm
  | attrPart part =>
      rw [map_bind]
      refine bind_congr fun attr => ?_
      rw [map_bind]
      exact bind_congr fun value => (map_pure _ _).symm
  | field subject name =>
      have ⟨noDot, isField⟩ := Selector.ofText_eq_field_iff.mp isSelector
      have sameField (branches : Option Branches) :
          (expression.withBranches branches).subjectField context subject
              name =
            expression.subjectField context subject name :=
        rfl
      simp only [sameField, subjectField_eq]
      cases hasFields : context.subject subject with
      | none =>
          rfl
      | some fields =>
          cases hasField : fields.get? name with
          | none =>
              simp only [require, pure_bind, hasField]
              rfl
          | some value =>
              simp only [require, pure_bind, hasField]
              cases value with
              | attr attr =>
                  rw [isField] at shown
                  exact absurd (.field noDot hasFields hasField) (shown attr)
              | _ =>
                  rfl
  | fieldPart subject name part =>
      rw [map_bind]
      refine bind_congr fun value => ?_
      cases value with
      | attr attr =>
          simp only
          rw [map_bind]
          exact bind_congr fun value => (map_pure _ _).symm
      | _ =>
          rfl

/-- Nothing is chosen for a key. -/
theorem evaluate_key_withBranches
    {key : String} (isKey : Selector.ofText expression.selector = .key key)
    (branches : Option Branches) :
    (expression.withBranches branches).evaluate table context expand =
      (expression.withBranches none).evaluate table context expand := by
  unfold evaluate
  simp only [selector_withBranches, isKey, selectBranch_text]
  rfl

theorem subjectField_of_found
    {subject : SubjectRole} {fields : Subject} {name : String} {value : Value}
    (hasFields : context.subject subject = some fields)
    (hasField : fields.get? name = some value) :
    expression.subjectField context subject name = pure value := by
  rw [subjectField_eq, hasFields]
  simp only [require, pure_bind, hasField]

theorem evaluate_contextAttribute
    {attr : Attribute} (isAttr : expression.selector = "a")
    (hasAttr : context.attr = some attr) :
    expression.evaluate table context expand =
      if expression.branches.isSome then
        expression.reject .branchedAttribute
      else
        pure (.text (attr.selfText context.onOwner)) := by
  unfold evaluate
  simp only [Selector.ofText_eq_attr_iff.mpr isAttr]
  unfold contextAttribute
  simp only [hasAttr, require, pure_bind]

theorem evaluate_attributeField
    {subject : SubjectRole} {fields : Subject} {name : String}
    {attr : Attribute} (noDot : '.' ∉ name.toList)
    (isField : expression.selector = subject.letter ++ "." ++ name)
    (hasFields : context.subject subject = some fields)
    (hasField : fields.get? name = some (.attr attr)) :
    expression.evaluate table context expand =
      match expression.branches with
      | some branches =>
          branches.select <$> expression.attributeCondition attr
      | none => pure (.text (attr.selfText context.onOwner)) := by
  unfold evaluate
  simp only [Selector.ofText_eq_field_iff.mpr ⟨noDot, isField⟩,
    subjectField_of_found hasFields hasField, pure_bind]
  cases expression.branches with
  | none =>
      rfl
  | some branches =>
      exact bind_pure_comp _ _

/-- An attribute that is shown as a whole is written as it describes itself. -/
theorem evaluate_of_showsAttribute
    {attr : Attribute} (noBranches : expression.branches = none)
    (shows : context.ShowsAttribute expression.selector attr) :
    expression.evaluate table context expand =
      pure (.text (attr.selfText context.onOwner)) := by
  generalize isSelector : expression.selector = selector at shows
  cases shows with
  | attr hasAttr =>
      rw [evaluate_contextAttribute isSelector hasAttr, noBranches]
      rfl
  | field noDot hasFields hasField =>
      rw [evaluate_attributeField noDot isSelector hasFields hasField,
        noBranches]

end Evaluation

end Expression

/-! ## Expressions at a level -/

namespace Environment

/-- The value of an expression in a text that stands at a level, with a number
of expressions around it. -/
def valueAt (env : Environment) (depth nesting : Nat)
    (expression : Expression) : Run Value :=
  expression.evaluate env.table env.context (env.expandAt depth nesting)

/-- Branches choose with the value that the expression has without them, and
keep its log and its errors. A selector that shows an attribute as a whole is
the exception: the attribute of the context cannot be branched, and for one in a
field its flag decides, or else its first slot. For a key branches do
nothing. -/
theorem branching_is_uniform
    (env : Environment) (depth nesting : Nat) (expression : Expression)
    (branches : Branches) :
    let plain := env.valueAt depth nesting (expression.withBranches none)
    let branched :=
      env.valueAt depth nesting (expression.withBranches (some branches))
    ((∀ attr, ¬ env.context.ShowsAttribute expression.selector attr) →
      branched = ⟨plain.log, plain.outcome.map branches.select⟩) ∧
    (∀ attr, env.context.ShowsAttribute expression.selector attr →
      plain = pure (.text (attr.selfText env.context.onOwner))) ∧
    (∀ attr, expression.selector = "a" → env.context.attr = some attr →
      branched = Run.fail (.raised
        (.invalidSelector "a" .branchedAttribute) expression.span)) ∧
    (∀ subject name fields attr, '.' ∉ name.toList →
      expression.selector = subject.letter ++ "." ++ name →
      env.context.subject subject = some fields →
      fields.get? name = some (.attr attr) →
      (∀ isSet, attr.enabled = some isSet →
        branched = pure (branches.select (.flag isSet))) ∧
      (attr.enabled = none →
        (∀ value, 0 < attr.slotCount → attr.slot 0 = some value →
          branched = pure (branches.select value)) ∧
        (attr.slotCount = 0 ∨ attr.slot 0 = none →
          branched = Run.fail (.raised
            (.slotOutOfRange expression.selector 0 attr.slotCount)
            expression.span)))) ∧
    (IsKey expression.selector →
      branched = plain ∧
        env.renderAt depth nesting (expression.withBranches (some branches)) =
          env.renderAt depth nesting (expression.withBranches none)) ∧
    ∀ value,
      (∀ condition, value.condition? = some condition →
        branches.select value =
          .text (if condition then branches.ifTrue else branches.ifFalse)) ∧
      (value.condition? = none → branches.select value = value) := by
  intro plain branched
  refine ⟨?_, ?_, ?_, ?_, ?_, ?_⟩
  · intro notShown
    exact (Expression.evaluate_withBranches notShown branches).trans
      (Run.map_eq _ _)
  · intro attr shows
    exact Expression.evaluate_of_showsAttribute rfl shows
  · intro attr isAttr hasAttr
    have rejected :
        branched =
          Run.fail (.raised
            (.invalidSelector expression.selector .branchedAttribute)
            expression.span) :=
      Expression.evaluate_contextAttribute isAttr hasAttr
    rw [rejected, isAttr]
  · intro subject name fields attr noDot isField hasFields hasField
    have tested :
        branched = branches.select <$> expression.attributeCondition attr :=
      Expression.evaluate_attributeField noDot isField hasFields hasField
    rw [tested]
    refine ⟨?_, fun noFlag => ⟨?_, ?_⟩⟩
    · intro isSet hasFlag
      rw [Expression.attributeCondition_of_flag hasFlag, map_pure]
    · intro value counted hasSlot
      rw [Expression.attributeCondition_of_slot noFlag counted hasSlot,
        map_pure]
    · intro noSlot
      rw [Expression.attributeCondition_of_no_slot noFlag noSlot,
        Expression.map_fail]
      rfl
  · intro isKey
    have sameValue : branched = plain :=
      Expression.evaluate_key_withBranches isKey.ofText _
    exact ⟨sameValue, congrArg
      (· >>= expression.write env.context.onOwner) sameValue⟩
  · intro value
    exact ⟨fun condition => branches.select_of_condition,
      branches.select_of_untested⟩

/-- Two attributes without a flag in fields, one of them without slots; the
attribute of the context; an argument; and a missing key. -/
theorem first_slot_decides_between_branches :
    let one : Value := .number (.ofInt 1)
    let armour := (SlotAttribute.ofSlots [one]).toAttribute
    let empty := (SlotAttribute.ofSlots []).toAttribute
    let fields : Subject :=
      Dictionary.insert (Dictionary.insert {} "armour" (.attr armour)) "empty"
        (.attr empty)
    let env : Environment :=
      ⟨{}, {}, ⟨.sourceOnly fields, some armour, [.flag false]⟩⟩
    let branched (selector : String) : Expression :=
      ⟨selector, some ⟨"no", "yes"⟩, none, .branch, ⟨0, 9⟩⟩
    env.valueAt 1 2 (branched "s.armour") = pure (.text "yes") ∧
      env.valueAt 1 2 (branched "s.empty") =
        Run.fail (.raised (.slotOutOfRange "s.empty" 0 0) ⟨0, 9⟩) ∧
      env.valueAt 1 2 (branched "a") =
        Run.fail (.raised (.invalidSelector "a" .branchedAttribute) ⟨0, 9⟩) ∧
      env.valueAt 1 2 (branched "0") = pure (.text "no") ∧
      env.valueAt 1 2 (branched "hero") = ⟨[.keyMissing "hero"],
        .ok (.text "hero")⟩ := by
  intro one armour empty fields env branched
  have isUniform (selector : String) :=
    env.branching_is_uniform 1 2 (branched selector) ⟨"no", "yes"⟩
  have isOne : one.condition? = some true := by
    decide +kernel
  have picked : Branches.select ⟨"no", "yes"⟩ one = .text "yes" :=
    ((isUniform "0").2.2.2.2.2 one).1 true isOne
  have inArmour := (isUniform "s.armour").2.2.2.1 .source "armour" fields armour
    (by decide) rfl rfl rfl
  have inEmpty := (isUniform "s.empty").2.2.2.1 .source "empty" fields empty
    (by decide) rfl rfl rfl
  have notShown (attr : Attribute) :
      ¬ env.context.ShowsAttribute "0" attr := by
    generalize isSelector : "0" = selector
    rintro (hasAttr | ⟨noDot, hasFields, hasField⟩)
    · exact absurd isSelector (by decide)
    · have isField := Selector.ofText_eq_field_iff.mpr ⟨noDot, isSelector⟩
      cases isField
  have isKey : IsKey "hero" := by
    refine ⟨by decide, by decide, by decide, by decide, ?_⟩
    intro c isSingle
    cases isSingle
  refine ⟨?_, ?_, ?_, ?_, ?_⟩
  · rw [← picked]
    exact (inArmour.2 rfl).1 one (by decide) rfl
  · exact (inEmpty.2 rfl).2 (.inl rfl)
  · exact (isUniform "a").2.2.1 armour rfl rfl
  · have plain :
        env.valueAt 1 2 ((branched "0").withBranches none) =
          pure (.flag false) := by
      change env.valueAt 1 2 ⟨"0", none, none, .branch, ⟨0, 9⟩⟩ = _
      rfl
    have chosen := (isUniform "0").1 notShown
    rw [plain] at chosen
    exact chosen
  · have plain :
        env.valueAt 1 2 ⟨"hero", none, none, .branch, ⟨0, 9⟩⟩ =
          ⟨[.keyMissing "hero"], .ok (.text "hero")⟩ :=
      rfl
    exact ((isUniform "hero").2.2.2.2.1 isKey).1.trans plain

end Environment

end Phrasebook
