import Mathlib
import Phrasebook.Proofs.Contexts
import Phrasebook.Proofs.ErrorPlaces
import Phrasebook.SlotAttribute

/-!
# Errors that tell the truth

An error of an expression says something about the context: that a part of it
is missing, that an index is too large, or that a number cannot be written as a
specifier says. All of this is so, wherever the expression stands and however
its selector came about. Attributes are not trusted to be consistent: one may
lack the value of a slot that it counts.
-/

namespace Phrasebook

/-! ## What a context holds -/

inductive Context.Holds (context : Context) : Attribute → Prop
  | attr {attr : Attribute} :
      context.attr = some attr →
      Holds context attr
  | field {subject : SubjectRole} {fields : Subject} {name : String}
      {attr : Attribute} :
      context.subject subject = some fields →
      fields.get? name = some (.attr attr) →
      Holds context attr

inductive Context.Supplies (context : Context) : Value → Prop
  | argument {value : Value} :
      value ∈ context.args →
      Supplies context value
  | field {subject : SubjectRole} {fields : Subject} {name : String}
      {value : Value} :
      context.subject subject = some fields →
      fields.get? name = some value →
      Supplies context value
  | slot {attr : Attribute} {index : Nat} {value : Value} :
      context.Holds attr →
      index < attr.slotCount →
      attr.slot index = some value →
      Supplies context value

/-- A selector asks an attribute for its flag. -/
inductive Context.AsksFlag (context : Context) : String → Attribute → Prop
  | attr {attr : Attribute} :
      context.attr = some attr →
      AsksFlag context "a.e" attr
  | field {subject : SubjectRole} {fields : Subject} {name : String}
      {attr : Attribute} :
      context.subject subject = some fields →
      fields.get? name = some (.attr attr) →
      AsksFlag context (subject.letter ++ "." ++ name ++ ".e") attr

/-- What a cause says of a context. Faults of the grammar say nothing of it, and
most faults of selectors only speak of the selector. -/
def Cause.IsTrueOf (context : Context) : Cause → Prop
  | missingContext .source => context.subject .source = none
  | missingContext .display => context.subject .display = none
  | missingContext .attr => context.attr = none
  | missingField role name =>
      ∃ subject fields, SubjectRole.role subject = role ∧
        context.subject subject = some fields ∧ fields.get? name = none
  | argumentOutOfRange index count =>
      count = context.args.length ∧ count ≤ index ∧ index ≤ 9
  | slotOutOfRange _ index count =>
      ∃ attr, context.Holds attr ∧ attr.slotCount = count ∧ index ≤ 9 ∧
        (count ≤ index ∨ attr.slot index = none) ∧
        ∀ slots : SlotAttribute, attr = slots.toAttribute → count ≤ index
  | noEnabledFlag selector =>
      ∃ attr, context.AsksFlag selector attr ∧ attr.enabled = none
  | selectorTooLong selector => 3 ≤ selector.toList.count '.'
  | invalidSelector _ .branchedAttribute => context.attr ≠ none
  | invalidSelector _ (.notAnAttribute name kind) =>
      ∃ subject fields value, context.subject subject = some fields ∧
        fields.get? name = some value ∧ value.kind = kind ∧
        value.asAttribute? = none
  | invalidFormat specifier fault =>
      ∃ x, context.Supplies (.number x) ∧
        formatNumber x specifier = .error fault
  | _ => True

theorem Cause.isTrueOf_of_fault
    {context : Context} {cause : Cause} {kind : FaultKind}
    (isFault : cause.faultKind? = some kind) :
    cause.IsTrueOf context := by
  cases cause with
  | unterminatedExpression | danglingEscape | nestingTooDeep _
  | incompleteBranch _ =>
      trivial
  | selectorTooLong _ | invalidSelector _ _ | slotOutOfRange _ _ _
  | argumentOutOfRange _ _ | missingContext _ | missingField _ _
  | noEnabledFlag _ | invalidFormat _ _ =>
      cases isFault

theorem ResolveError.isTrueOf_of_fault?
    {context : Context} {error : ResolveError} {fault : Fault}
    (isFault : error.fault? = some fault) :
    error.cause.IsTrueOf context := by
  obtain ⟨entries, cause, span⟩ := error
  cases entries with
  | nil =>
      obtain ⟨kind, isKind, _⟩ := Option.map_eq_some_iff.mp isFault
      exact Cause.isTrueOf_of_fault isKind
  | cons entry rest =>
      cases isFault

/-- No slot that a slot attribute counts is without a value. -/
theorem SlotAttribute.slot_ne_none
    {slots : SlotAttribute} {index : Nat}
    (counted : index < slots.toAttribute.slotCount) :
    slots.toAttribute.slot index ≠ none := by
  have inRaw : index < slots.raw.length := counted
  change slots.slot index ≠ none
  unfold slot
  split
  · exact Option.some_ne_none _
  · rw [List.getElem?_eq_getElem inRaw]
    exact Option.some_ne_none _

/-! ## What selectors are read from -/

theorem singleDigit?_le
    {segment : List Char} {digit : Nat}
    (isDigit : singleDigit? segment = some digit) :
    digit ≤ 9 := by
  unfold singleDigit? decimalDigit? at isDigit
  split at isDigit
  · split at isDigit
    · rename_i c bounds
      cases isDigit
      have upTo : c.toNat ≤ '9'.toNat := bounds.2
      have nine : '9'.toNat = '0'.toNat + 9 := rfl
      omega
    · cases isDigit
  · cases isDigit

def AttributePart.Fits (segment : List Char) : AttributePart → Prop
  | enabled => segment = ['e']
  | slot index => index ≤ 9
  | unknown text => text.toList = segment

theorem AttributePart.ofSegment_fits (segment : List Char) :
    (ofSegment segment).Fits segment := by
  unfold ofSegment
  by_cases isFlag : segment = ['e']
  · rw [if_pos isFlag]
    exact isFlag
  · rw [if_neg isFlag]
    split
    · rename_i index isDigit
      exact singleDigit?_le isDigit
    · exact String.toList_ofList

theorem SubjectRole.eq_letter
    {segment : List Char} {subject : SubjectRole}
    (named : ofSegment? segment = some subject) :
    segment = subject.letter.toList := by
  unfold ofSegment? at named
  split at named
  · rename_i isSource
    cases named
    exact isSource
  · split at named
    · rename_i isDisplay
      cases named
      exact isDisplay
    · cases named

/-- What the text of a selector looks like, as far as it can come up in an
error. -/
def Selector.Fits (text : List Char) : Selector → Prop
  | argument index => index ≤ 9
  | attrPart part => ∃ segment, text = 'a' :: '.' :: segment ∧ part.Fits segment
  | fieldPart subject name part =>
      ∃ segment,
        text = subject.letter.toList ++ '.' :: (name.toList ++ '.' :: segment) ∧
          part.Fits segment
  | tooLong => 3 ≤ text.count '.'
  | _ => True

namespace Selector

theorem ofSingle_fits (segment : List Char) :
    (ofSingle segment).Fits segment := by
  unfold ofSingle
  split
  · trivial
  · split
    · trivial
    · split
      · rename_i index isDigit
        exact singleDigit?_le isDigit
      · trivial

theorem ofPair_fits (main second : List Char) :
    (ofPair main second).Fits (main ++ '.' :: second) := by
  unfold ofPair
  by_cases isAttribute : main = ['a']
  · rw [if_pos isAttribute, isAttribute]
    exact ⟨second, rfl, AttributePart.ofSegment_fits second⟩
  · rw [if_neg isAttribute]
    split <;> trivial

theorem ofTriple_fits (main second third : List Char) :
    (ofTriple main second third).Fits
      (main ++ '.' :: (second ++ '.' :: third)) := by
  unfold ofTriple
  by_cases isAttribute : main = ['a']
  · rw [if_pos isAttribute]
    trivial
  · rw [if_neg isAttribute]
    split
    · rename_i subject named
      refine ⟨third, ?_, AttributePart.ofSegment_fits third⟩
      rw [SubjectRole.eq_letter named, String.toList_ofList]
    · trivial

/-- The segments put together again are the text. -/
theorem ofText_fits (text : String) :
    (ofText text).Fits text.toList := by
  have joined := flatMap_splitAtMark '.' text.toList
  unfold ofText
  generalize splitAtMark '.' text.toList = segments at joined ⊢
  obtain ⟨main, others⟩ := segments
  rw [← joined]
  match others with
  | [] =>
      have single := ofSingle_fits main
      simpa using single
  | [second] =>
      have pair := ofPair_fits main second
      simpa using pair
  | [second, third] =>
      have triple := ofTriple_fits main second third
      simpa using triple
  | second :: third :: fourth :: rest =>
      change 3 ≤ List.count '.' _
      simp only [List.flatMap_cons, List.count_append, List.count_cons_self]
      omega

end Selector

/-! ## Runs with true errors -/

namespace Run

variable {α β : Type} {answers : α → Prop} {expected : ResolveError → Prop}

/-- What holds of the answer of a run, and of its error. -/
structure Ensures (answers : α → Prop) (expected : ResolveError → Prop)
    (run : Run α) : Prop where
  ok : ∀ value, run.outcome = .ok value → answers value
  error : ∀ error, run.outcome = .error error → expected error

theorem ensures_pure
    {value : α} (isAnswer : answers value) :
    (pure value : Run α).Ensures answers expected where
  ok := by
    intro other succeeded
    cases succeeded
    exact isAnswer
  error := by
    intro other failed
    cases failed

theorem ensures_fail
    {error : ResolveError} (isExpected : expected error) :
    (fail error : Run α).Ensures answers expected where
  ok := by
    intro value succeeded
    cases succeeded
  error := by
    intro other failed
    cases failed
    exact isExpected

theorem Ensures.bind
    {run : Run α} {next : α → Run β} {last : β → Prop}
    (first : run.Ensures answers expected)
    (second : ∀ value, answers value → (next value).Ensures last expected) :
    (run >>= next).Ensures last expected := by
  obtain ⟨log, outcome⟩ := run
  cases outcome with
  | error error =>
      constructor
      · intro value succeeded
        cases succeeded
      · intro other failed
        cases failed
        exact first.error error rfl
  | ok value =>
      have following := second value (first.ok value rfl)
      exact ⟨following.ok, following.error⟩

end Run

/-! ## Values of a context -/

/-- A value that is not a number, or a number that the context supplies. -/
def Value.ComesFrom (context : Context) (value : Value) : Prop :=
  ∀ x, value = .number x → context.Supplies (.number x)

section Values

variable {context : Context} {value : Value}

theorem Value.comesFrom_text
    {content : String} : (Value.text content).ComesFrom context := by
  intro x isNumber
  cases isNumber

theorem Value.comesFrom_flag
    {isSet : Bool} : (Value.flag isSet).ComesFrom context := by
  intro x isNumber
  cases isNumber

theorem Context.Supplies.comesFrom
    (supplied : context.Supplies value) : value.ComesFrom context := by
  rintro x rfl
  exact supplied

/-- A number is tested and not kept. -/
theorem Value.comesFrom_select
    {branches : Branches} : (branches.select value).ComesFrom context := by
  intro x isNumber
  cases value <;> cases isNumber

theorem Value.ComesFrom.selectBranch
    (comes : value.ComesFrom context) {branches : Option Branches} :
    (Phrasebook.selectBranch branches value).ComesFrom context := by
  cases branches with
  | none =>
      exact comes
  | some branches =>
      exact Value.comesFrom_select

end Values

namespace Expression

variable {α : Type} {expression : Expression} {context : Context}

/-- A run whose error has a cause that is true of a context. -/
abbrev TellsTruth (context : Context) (answers : α → Prop) (run : Run α) :
    Prop :=
  run.Ensures answers fun error => error.cause.IsTrueOf context

theorem tellsTruth_fail
    {answers : α → Prop} {cause : Cause} (isTrue : cause.IsTrueOf context) :
    TellsTruth context answers (expression.fail cause) :=
  Run.ensures_fail isTrue

theorem tellsTruth_require
    (expression : Expression) {cause : Cause} {answer : Option α}
    (isTrue : answer = none → cause.IsTrueOf context) :
    TellsTruth context (fun value => answer = some value)
      (expression.require cause answer) := by
  cases answer with
  | none =>
      exact tellsTruth_fail (isTrue rfl)
  | some value =>
      exact Run.ensures_pure rfl

theorem tellsTruth_subjectField (subject : SubjectRole) (name : String) :
    TellsTruth context
      (fun value => ∃ fields, context.subject subject = some fields ∧
        fields.get? name = some value)
      (expression.subjectField context subject name) := by
  rw [subjectField_eq]
  have missing (isMissing : context.subject subject = none) :
      (Cause.missingContext subject.role).IsTrueOf context := by
    cases subject <;> exact isMissing
  refine (expression.tellsTruth_require missing).bind ?_
  intro fields isSubject
  have absent (isAbsent : fields.get? name = none) :
      (Cause.missingField subject.role name).IsTrueOf context :=
    ⟨subject, fields, rfl, isSubject, isAbsent⟩
  have found := expression.tellsTruth_require absent
  refine ⟨?_, found.error⟩
  intro value succeeded
  exact ⟨fields, isSubject, found.ok value succeeded⟩

theorem tellsTruth_slotValue
    (expression : Expression) {attr : Attribute} {index : Nat}
    (holds : context.Holds attr) (digit : index ≤ 9) :
    TellsTruth context context.Supplies (expression.slotValue attr index) := by
  unfold slotValue
  by_cases counted : index < attr.slotCount
  · rw [if_pos counted]
    have lacking (isNone : attr.slot index = none) :
        (Cause.slotOutOfRange expression.selector index
          attr.slotCount).IsTrueOf context := by
      refine ⟨attr, holds, rfl, digit, .inr isNone, ?_⟩
      rintro slots rfl
      exact absurd isNone (SlotAttribute.slot_ne_none counted)
    have found := expression.tellsTruth_require lacking
    refine ⟨?_, found.error⟩
    intro value succeeded
    exact .slot holds counted (found.ok value succeeded)
  · rw [if_neg counted]
    have beyond := Nat.not_lt.mp counted
    exact tellsTruth_fail
      ⟨attr, holds, rfl, digit, .inl beyond, fun _ _ => beyond⟩

theorem tellsTruth_attributePart
    {attr : Attribute} (holds : context.Holds attr) {part : AttributePart}
    (digit : ∀ index, part = .slot index → index ≤ 9)
    (asks : part = .enabled → context.AsksFlag expression.selector attr) :
    TellsTruth context (·.ComesFrom context)
      (expression.attributePart attr part) := by
  cases part with
  | enabled =>
      have flagless (isNone : attr.enabled = none) :
          (Cause.noEnabledFlag expression.selector).IsTrueOf context :=
        ⟨attr, asks rfl, isNone⟩
      refine (expression.tellsTruth_require flagless).bind ?_
      intro isSet _
      exact Run.ensures_pure Value.comesFrom_flag
  | slot index =>
      have found :=
        expression.tellsTruth_slotValue holds (digit index rfl)
      refine ⟨?_, found.error⟩
      intro value succeeded
      exact (found.ok value succeeded).comesFrom
  | unknown text =>
      exact tellsTruth_fail trivial

theorem tellsTruth_attributeCondition
    {attr : Attribute} (holds : context.Holds attr) :
    TellsTruth context (fun _ => True)
      (expression.attributeCondition attr) := by
  unfold attributeCondition
  split
  · exact Run.ensures_pure trivial
  · have found :=
      expression.tellsTruth_slotValue holds (Nat.zero_le 9)
    exact ⟨fun _ _ => trivial, found.error⟩

theorem tellsTruth_write
    {value : Value} (comes : value.ComesFrom context) (onOwner : Bool) :
    TellsTruth context (fun _ => True) (expression.write onOwner value) := by
  unfold write
  split
  · rename_i specifier x _
    split
    · exact Run.ensures_pure trivial
    · rename_i fault isFault
      exact tellsTruth_fail ⟨x, comes x rfl, isFault⟩
  · exact Run.ensures_pure trivial

section Rendering

variable {table : Table} {expand : String → String → Run String}

/-- The cases are those of the selector. What its text looks like decides which
indices and which flags can come up. -/
theorem tellsTruth_evaluate
    (expands : ∀ key entry, table.templates.get? key = some entry →
      TellsTruth context (fun _ => True) (expand key entry)) :
    TellsTruth context (·.ComesFrom context)
      (expression.evaluate table context expand) := by
  have fits := Selector.ofText_fits expression.selector
  have missing (isMissing : context.attr = none) :
      (Cause.missingContext .attr).IsTrueOf context :=
    isMissing
  unfold evaluate
  generalize Selector.ofText expression.selector = selector at fits ⊢
  cases selector with
  | attr =>
      refine (expression.tellsTruth_require missing).bind ?_
      intro attr isAttribute
      split
      · refine tellsTruth_fail ?_
        change context.attr ≠ none
        rw [isAttribute]
        exact Option.some_ne_none attr
      · exact Run.ensures_pure Value.comesFrom_text
  | bareSubject subject =>
      exact tellsTruth_fail trivial
  | argument index =>
      have beyond (isNone : context.args[index]? = none) :
          (Cause.argumentOutOfRange index
            context.args.length).IsTrueOf context :=
        ⟨rfl, List.getElem?_eq_none_iff.mp isNone, fits⟩
      refine (expression.tellsTruth_require beyond).bind ?_
      intro value found
      have supplied : context.Supplies value :=
        .argument (List.mem_of_getElem? found)
      exact Run.ensures_pure supplied.comesFrom.selectBranch
  | key key =>
      simp only
      cases found : table.templates.get? key with
      | none =>
          have emitted :
              TellsTruth context (fun _ => True) (Run.emit (.keyMissing key)) :=
            ⟨fun _ _ => trivial, fun _ failed => by cases failed⟩
          refine emitted.bind ?_
          intro _ _
          exact Run.ensures_pure Value.comesFrom_text
      | some entry =>
          simp only
          split
          · exact Run.ensures_pure Value.comesFrom_text
          · refine (expands key entry found).bind ?_
            intro text _
            exact Run.ensures_pure Value.comesFrom_text.selectBranch
  | attrPart part =>
      obtain ⟨segment, isText, partFits⟩ := fits
      refine (expression.tellsTruth_require missing).bind ?_
      intro attr isAttribute
      have digit (index : Nat) (isSlot : part = .slot index) : index ≤ 9 := by
        subst isSlot
        exact partFits
      have asks (isFlag : part = .enabled) :
          context.AsksFlag expression.selector attr := by
        subst isFlag
        have isFlagText : segment = ['e'] := partFits
        have selector : expression.selector = "a.e" := by
          apply String.toList_injective
          rw [isText, isFlagText]
          rfl
        rw [selector]
        exact .attr isAttribute
      refine (tellsTruth_attributePart (.attr isAttribute) digit asks).bind ?_
      intro value comes
      exact Run.ensures_pure comes.selectBranch
  | field subject name =>
      refine (tellsTruth_subjectField subject name).bind ?_
      rintro value ⟨fields, isSubject, found⟩
      cases value with
      | attr attr =>
          simp only
          split
          · rename_i branches _
            refine (tellsTruth_attributeCondition
              (.field isSubject found)).bind ?_
            intro condition _
            exact Run.ensures_pure Value.comesFrom_select
          · exact Run.ensures_pure Value.comesFrom_text
      | text _ | number _ | flag _ =>
          have supplied := Context.Supplies.field isSubject found
          exact Run.ensures_pure supplied.comesFrom.selectBranch
  | fieldPart subject name part =>
      obtain ⟨segment, isText, partFits⟩ := fits
      refine (tellsTruth_subjectField subject name).bind ?_
      rintro value ⟨fields, isSubject, found⟩
      cases value with
      | attr attr =>
          have digit (index : Nat) (isSlot : part = .slot index) :
              index ≤ 9 := by
            subst isSlot
            exact partFits
          have asks (isFlag : part = .enabled) :
              context.AsksFlag expression.selector attr := by
            subst isFlag
            have isFlagText : segment = ['e'] := partFits
            have selector :
                expression.selector = subject.letter ++ "." ++ name ++ ".e" := by
              apply String.toList_injective
              rw [isText, isFlagText]
              simp
            rw [selector]
            exact .field isSubject found
          refine (tellsTruth_attributePart (.field isSubject found) digit
            asks).bind ?_
          intro value comes
          exact Run.ensures_pure comes.selectBranch
      | text _ | number _ | flag _ =>
          exact tellsTruth_fail ⟨subject, fields, _, isSubject, found, rfl, rfl⟩
  | unknownMain main =>
      exact tellsTruth_fail trivial
  | nestedAttribute =>
      exact tellsTruth_fail trivial
  | tooLong =>
      exact tellsTruth_fail fits

theorem tellsTruth_render
    (expands : ∀ key entry, table.templates.get? key = some entry →
      TellsTruth context (fun _ => True) (expand key entry)) :
    TellsTruth context (fun _ => True)
      (expression.render table context expand) := by
  refine (tellsTruth_evaluate expands).bind ?_
  intro value comes
  exact tellsTruth_write comes _

end Rendering

end Expression

/-! ## All calls -/

namespace Environment

variable {env : Environment}

/-- An entry is resolved one level deeper in the same context, so the induction
is on the levels left to go. -/
theorem isTrueOf_of_resolveAt
    {depth : Nat} {template : String} {error : ResolveError}
    (failed : (env.resolveAt depth template).outcome = .error error) :
    error.cause.IsTrueOf env.context := by
  have renders :
      FailsElsewhere (fun error => error.cause.IsTrueOf env.context)
        (fun nesting expression =>
          expression.render env.table env.context
            (env.expandAt depth nesting)) := by
    intro nesting expression other otherFailed
    have rendered :
        Expression.TellsTruth env.context (fun _ => True)
          (expression.render env.table env.context
            (env.expandAt depth nesting)) := by
      apply Expression.tellsTruth_render
      intro key entry found
      refine ⟨fun _ _ => trivial, ?_⟩
      intro wrapped wrappedFailed
      unfold expandAt at wrappedFailed
      split at wrappedFailed
      · rename_i within
        obtain ⟨inner, innerFailed, rfl⟩ :=
          Run.error_of_mapError wrappedFailed
        have innerTrue := isTrueOf_of_resolveAt innerFailed
        exact innerTrue
      · cases wrappedFailed
    exact rendered.error other otherFailed
  rw [resolveAt_eq_evaluate] at failed
  have ends := Pieces.endsIn_evaluate renders 0
    (parseTemplate env.limits.maxNesting template)
  rcases ends.error error failed with isTrue | ⟨fault, _, isFault⟩
  · exact isTrue
  · exact error.isTrueOf_of_fault? isFault
termination_by env.limits.maxDepth + 1 - depth
decreasing_by omega

/-- The cause of every error is true of the context, at every depth and for
every way to call. -/
theorem errors_are_true_of_context (env : Environment) :
    (∀ given error, env.FailsWith given error →
      error.root.cause.IsTrueOf env.context) ∧
      ∀ depth template error,
        (env.resolveAt depth template).outcome = .error error →
        error.root.cause.IsTrueOf env.context := by
  constructor
  · intro given error fails
    rcases fails with failed | ⟨key, keyFails⟩
    · have isTrue := isTrueOf_of_resolveAt failed
      exact isTrue
    · obtain ⟨entry, inner, _, innerFailed, rfl⟩ := keyFails.exists_inner
      have innerTrue := isTrueOf_of_resolveAt innerFailed
      exact innerTrue
  · intro depth template error failed
    have isTrue := isTrueOf_of_resolveAt failed
    exact isTrue

/-- An attribute that counts two slots and has no value in either. The index is
written by another expression, inside an entry. -/
theorem missing_slot_value_is_true_of_context :
    let attr : Attribute :=
      { slotCount := 2
        slot := fun _ => none
        rawSlot := fun _ => none
        enabled := none
        selfText := fun _ => ""
        debugText := "" }
    let entry := "\x7ba.\x7b0\x7d\x7d"
    let env : Environment :=
      ⟨{ templates := Dictionary.insert {} "K" entry }, {},
        { attr := some attr, args := [.text "1"] }⟩
    (env.resolve "\x7bK\x7d").outcome =
        .error ⟨[⟨"K", entry⟩], .slotOutOfRange "a.1" 1 2, ⟨0, 7⟩⟩ ∧
      (Cause.slotOutOfRange "a.1" 1 2).IsTrueOf env.context ∧
      (env.resolveAt 3 "\x7b9\x7d").outcome =
        .error (.raised (.argumentOutOfRange 9 1) ⟨0, 3⟩) ∧
      (Cause.argumentOutOfRange 9 1).IsTrueOf env.context := by
  intro attr entry env
  have failed :
      (env.resolve "\x7bK\x7d").outcome =
        .error ⟨[⟨"K", entry⟩], .slotOutOfRange "a.1" 1 2, ⟨0, 7⟩⟩ := by
    cbv
  have deepFailed :
      (env.resolveAt 3 "\x7b9\x7d").outcome =
        .error (.raised (.argumentOutOfRange 9 1) ⟨0, 3⟩) := by
    cbv
  have allTrue := env.errors_are_true_of_context
  exact ⟨failed, allTrue.1 _ _ (.inl failed), deepFailed,
    allTrue.2 _ _ _ deepFailed⟩

end Environment

end Phrasebook
