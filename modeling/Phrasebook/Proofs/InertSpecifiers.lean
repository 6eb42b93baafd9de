import Phrasebook.Proofs.Branching
import Phrasebook.Proofs.Substitution

/-!
# Specifiers that do nothing

Only a number heeds a specifier. Branches let no number through, and of the
selectors only some can read one, so that a specifier elsewhere changes nothing
but the place where its expression ends. It can neither change a text nor make
an expression fail.
-/

namespace Phrasebook

/-! ## Selectors of numbers -/

namespace Selector

/-- The selectors whose value may be a number: an argument, a field, and a slot
of an attribute. -/
inductive MayBeNumber : Selector → Prop
  | argument (index : Nat) : MayBeNumber (.argument index)
  | slot (index : Nat) : MayBeNumber (.attrPart (.slot index))
  | field (subject : SubjectRole) (name : String) :
      MayBeNumber (.field subject name)
  | fieldSlot (subject : SubjectRole) (name : String) (index : Nat) :
      MayBeNumber (.fieldPart subject name (.slot index))

/-- The texts of the selectors whose value may be a number. -/
inductive NamesNumber : String → Prop
  | argument {digit : Char} :
      digit.isDigit →
      NamesNumber (String.singleton digit)
  | slot {digit : Char} :
      digit.isDigit →
      NamesNumber ("a." ++ String.singleton digit)
  | field {subject : SubjectRole} {name : String} :
      '.' ∉ name.toList →
      NamesNumber (subject.letter ++ "." ++ name)
  | fieldSlot {subject : SubjectRole} {name : String} {digit : Char} :
      '.' ∉ name.toList →
      digit.isDigit →
      NamesNumber (subject.letter ++ "." ++ name ++ "." ++
        String.singleton digit)

theorem eq_digit_of_singleDigit?
    {segment : List Char} {index : Nat}
    (isIndex : singleDigit? segment = some index) :
    ∃ digit : Char, segment = [digit] ∧ digit.isDigit := by
  unfold singleDigit? at isIndex
  split at isIndex
  · rename_i digit
    refine ⟨digit, rfl, ?_⟩
    by_contra notDigit
    rw [decimalDigit?_eq_none (Bool.eq_false_iff.mpr notDigit)] at isIndex
    cases isIndex
  · cases isIndex

theorem eq_digit_of_ofSegment
    {segment : List Char} {index : Nat}
    (isSlot : AttributePart.ofSegment segment = .slot index) :
    ∃ digit : Char, segment = [digit] ∧ digit.isDigit := by
  unfold AttributePart.ofSegment at isSlot
  split at isSlot
  · cases isSlot
  · split at isSlot
    · rename_i found isIndex
      exact eq_digit_of_singleDigit? isIndex
    · cases isSlot

theorem eq_digit_of_ofSingle
    {segment : List Char} (mayBe : (ofSingle segment).MayBeNumber) :
    ∃ digit : Char, segment = [digit] ∧ digit.isDigit := by
  unfold ofSingle at mayBe
  split at mayBe
  · cases mayBe
  · split at mayBe
    · cases mayBe
    · split at mayBe
      · rename_i index isIndex
        exact eq_digit_of_singleDigit? isIndex
      · cases mayBe

theorem segments_of_ofPair
    {main second : List Char} (mayBe : (ofPair main second).MayBeNumber) :
    (main = ['a'] ∧ ∃ digit : Char, second = [digit] ∧ digit.isDigit) ∨
      ∃ subject : SubjectRole, main = subject.letter.toList := by
  unfold ofPair at mayBe
  split at mayBe
  · rename_i isAttribute
    generalize isPart : AttributePart.ofSegment second = part at mayBe
    cases mayBe
    exact .inl ⟨isAttribute, eq_digit_of_ofSegment isPart⟩
  · split at mayBe
    · rename_i subject named
      exact .inr ⟨subject, SubjectRole.eq_letter named⟩
    · cases mayBe

theorem segments_of_ofTriple
    {main second third : List Char}
    (mayBe : (ofTriple main second third).MayBeNumber) :
    (∃ subject : SubjectRole, main = subject.letter.toList) ∧
      ∃ digit : Char, third = [digit] ∧ digit.isDigit := by
  unfold ofTriple at mayBe
  split at mayBe
  · cases mayBe
  · split at mayBe
    · rename_i subject named
      generalize isPart : AttributePart.ofSegment third = part at mayBe
      cases mayBe
      exact ⟨⟨subject, SubjectRole.eq_letter named⟩,
        eq_digit_of_ofSegment isPart⟩
    · cases mayBe

/-- A selector that may read a number is written as one of these texts. -/
theorem namesNumber_of_ofText
    {text : String} (mayBe : (ofText text).MayBeNumber) :
    NamesNumber text := by
  have joined := flatMap_splitAtMark '.' text.toList
  have unmarked := not_mem_splitAtMark '.' text.toList
  unfold ofText at mayBe
  split at mayBe
  · rename_i segment isSplit
    rw [isSplit] at joined
    obtain ⟨digit, rfl, isDigit⟩ := eq_digit_of_ofSingle mayBe
    have isText : text = String.singleton digit := by
      apply String.toList_injective
      simp [← joined]
    rw [isText]
    exact .argument isDigit
  · rename_i main second isSplit
    rw [isSplit] at joined unmarked
    rcases segments_of_ofPair mayBe with
      ⟨rfl, digit, rfl, isDigit⟩ | ⟨subject, rfl⟩
    · have isText : text = "a." ++ String.singleton digit := by
        apply String.toList_injective
        simp [← joined]
      rw [isText]
      exact .slot isDigit
    · have noDot := unmarked.2 second List.mem_cons_self
      have isText :
          text = subject.letter ++ "." ++ String.ofList second := by
        apply String.toList_injective
        simp [← joined]
      rw [isText]
      exact .field (by rwa [String.toList_ofList])
  · rename_i main second third isSplit
    rw [isSplit] at joined unmarked
    obtain ⟨⟨subject, rfl⟩, digit, rfl, isDigit⟩ := segments_of_ofTriple mayBe
    have noDot := unmarked.2 second List.mem_cons_self
    have isText :
        text = subject.letter ++ "." ++ String.ofList second ++ "." ++
          String.singleton digit := by
      apply String.toList_injective
      simp [← joined]
    rw [isText]
    exact .fieldSlot (by rwa [String.toList_ofList]) isDigit
  · cases mayBe

end Selector

/-! ## Values -/

/-- A number and a flag are tested, and nothing else is kept. -/
theorem Branches.condition?_select (branches : Branches) (value : Value) :
    (branches.select value).condition? = none := by
  cases value <;> rfl

def Cause.isOfSpecifier : Cause → Bool
  | invalidFormat _ _ => true
  | _ => false

namespace Expression

variable {α : Type} {expression : Expression}

/-- A value that an expression can have: with branches it is neither a number
nor a flag, and a number only where the selector can read one. -/
structure Permits (expression : Expression) (value : Value) : Prop where
  untested : expression.branches.isSome → value.condition? = none
  number : ∀ x, value = .number x →
    (Selector.ofText expression.selector).MayBeNumber

/-- A run whose error is not about a specifier, unless it comes from an
entry. -/
abbrev BlamesNone (answers : α → Prop) (run : Run α) : Prop :=
  run.Ensures answers fun error =>
    error.entries = [] → error.cause.isOfSpecifier = false

theorem permits_text (content : String) :
    expression.Permits (.text content) where
  untested _ := rfl
  number := by
    intro x isNumber
    cases isNumber

theorem permits_selectBranch
    {selector : Selector} {value : Value}
    (isSelector : Selector.ofText expression.selector = selector)
    (mayBe : ∀ x, value = .number x → selector.MayBeNumber) :
    expression.Permits (selectBranch expression.branches value) := by
  subst isSelector
  cases hasBranches : expression.branches with
  | none =>
      refine ⟨?_, mayBe⟩
      rw [hasBranches]
      intro isSome
      cases isSome
  | some branches =>
      have untested := branches.condition?_select value
      refine ⟨fun _ => untested, ?_⟩
      intro x isNumber
      change branches.select value = .number x at isNumber
      rw [isNumber] at untested
      cases untested

theorem blamesNone_fail
    {answers : α → Prop} {cause : Cause}
    (isOther : cause.isOfSpecifier = false) :
    BlamesNone answers (expression.fail cause) :=
  Run.ensures_fail fun _ => isOther

theorem blamesNone_require
    {cause : Cause} (isOther : cause.isOfSpecifier = false)
    (answer : Option α) :
    BlamesNone (fun _ => True) (expression.require cause answer) := by
  cases answer with
  | none =>
      exact blamesNone_fail isOther
  | some value =>
      exact Run.ensures_pure trivial

theorem blamesNone_subjectField
    (context : Context) (subject : SubjectRole) (name : String) :
    BlamesNone (fun _ => True)
      (expression.subjectField context subject name) :=
  (blamesNone_require rfl _).bind fun _ _ => blamesNone_require rfl _

/-- The only part of an attribute that can be a number is a slot. -/
theorem blamesNone_attributePart (attr : Attribute) (part : AttributePart) :
    BlamesNone
      (fun value => ∀ x, value = .number x → ∃ index, part = .slot index)
      (expression.attributePart attr part) := by
  cases part with
  | enabled =>
      refine (blamesNone_require rfl _).bind ?_
      intro isSet _
      apply Run.ensures_pure
      intro x isNumber
      cases isNumber
  | slot index =>
      have found :
          BlamesNone (fun _ => True) (expression.slotValue attr index) :=
        blamesNone_require rfl _
      exact ⟨fun _ _ _ _ => ⟨index, rfl⟩, found.error⟩
  | unknown text =>
      exact blamesNone_fail rfl

theorem blamesNone_attributeCondition (attr : Attribute) :
    BlamesNone (fun _ => True) (expression.attributeCondition attr) := by
  unfold attributeCondition
  split
  · exact Run.ensures_pure trivial
  · exact blamesNone_require rfl _

section Evaluation

variable {table : Table} {context : Context}
  {expand : String → String → Run String}

/-- The cases are those of the selector. Branches are chosen from last, so that
no number comes out behind them. -/
theorem blamesNone_evaluate
    (expands : ∀ key entry error, (expand key entry).outcome = .error error →
      error.entries ≠ []) :
    BlamesNone expression.Permits
      (expression.evaluate table context expand) := by
  unfold evaluate
  cases isSelector : Selector.ofText expression.selector with
  | attr =>
      refine (blamesNone_require rfl _).bind ?_
      intro attr _
      split
      · exact blamesNone_fail rfl
      · exact Run.ensures_pure (permits_text _)
  | bareSubject subject | unknownMain main | nestedAttribute | tooLong =>
      exact blamesNone_fail rfl
  | argument index =>
      refine (blamesNone_require rfl _).bind ?_
      intro value _
      apply Run.ensures_pure
      exact permits_selectBranch isSelector fun _ _ => .argument index
  | key key =>
      simp only
      cases table.templates.get? key with
      | none =>
          have emitted :
              BlamesNone (fun _ => True) (Run.emit (.keyMissing key)) :=
            ⟨fun _ _ => trivial, fun _ failed => by cases failed⟩
          refine emitted.bind ?_
          intro _ _
          exact Run.ensures_pure (permits_text key)
      | some entry =>
          simp only
          split
          · exact Run.ensures_pure (permits_text key)
          · have expanded : BlamesNone (fun _ => True) (expand key entry) := by
              refine ⟨fun _ _ => trivial, ?_⟩
              intro error failed noEntries
              exact absurd noEntries (expands key entry error failed)
            refine expanded.bind ?_
            intro text _
            rw [selectBranch_text]
            exact Run.ensures_pure (permits_text text)
  | attrPart part =>
      refine (blamesNone_require rfl _).bind ?_
      intro attr _
      refine (blamesNone_attributePart attr part).bind ?_
      intro value onlySlot
      apply Run.ensures_pure
      apply permits_selectBranch isSelector
      intro x isNumber
      obtain ⟨index, rfl⟩ := onlySlot x isNumber
      exact .slot index
  | field subject name =>
      refine (blamesNone_subjectField context subject name).bind ?_
      intro value _
      have kept (value : Value) :
          expression.Permits (selectBranch expression.branches value) :=
        permits_selectBranch isSelector fun _ _ => .field subject name
      cases value with
      | attr attr =>
          cases hasBranches : expression.branches with
          | none =>
              exact Run.ensures_pure (permits_text _)
          | some branches =>
              refine (blamesNone_attributeCondition attr).bind ?_
              intro condition _
              have chosen := kept condition
              rw [hasBranches] at chosen
              exact Run.ensures_pure chosen
      | text _ | number _ | flag _ =>
          exact Run.ensures_pure (kept _)
  | fieldPart subject name part =>
      refine (blamesNone_subjectField context subject name).bind ?_
      intro value _
      cases value with
      | attr attr =>
          refine (blamesNone_attributePart attr part).bind ?_
          intro value onlySlot
          apply Run.ensures_pure
          apply permits_selectBranch isSelector
          intro x isNumber
          obtain ⟨index, rfl⟩ := onlySlot x isNumber
          exact .fieldSlot subject name index
      | text _ | number _ | flag _ =>
          exact blamesNone_fail rfl

end Evaluation

/-! ## Specified expressions -/

def specified (expression : Expression) (specifier : String) (stop : Nat) :
    Expression :=
  { expression with
    specifier := some specifier
    span := ⟨expression.span.start, stop⟩ }

def withSpecifier (expression : Expression) (specifier : Option String) :
    Expression :=
  { expression with specifier := specifier }

theorem write_of_not_number
    {value : Value} (notNumber : ∀ x, value ≠ .number x) (onOwner : Bool) :
    expression.write onOwner value = pure (value.toText onOwner) := by
  cases value with
  | number x =>
      exact absurd rfl (notNumber x)
  | text content | flag isSet | attr readings =>
      unfold write
      split
      · rename_i isNumber
        cases isNumber
      · rfl

section Rendering

variable {table : Table} {context : Context}
  {expand : String → String → Run String}

theorem evaluate_withSpecifier (specifier : Option String) :
    (expression.withSpecifier specifier).evaluate table context expand =
      expression.evaluate table context expand :=
  rfl

/-- Where the value is no number, the specifier is not looked at. -/
theorem render_withSpecifier
    (notNumber : ∀ x,
      (expression.evaluate table context expand).outcome ≠ .ok (.number x))
    (specifier : Option String) :
    (expression.withSpecifier specifier).render table context expand =
      expression.render table context expand := by
  unfold render
  rw [evaluate_withSpecifier]
  cases evaluated : (expression.evaluate table context expand).outcome with
  | error error =>
      rw [Run.bind_of_error evaluated, Run.bind_of_error evaluated]
  | ok value =>
      have isOther (x : Binary64) : value ≠ .number x := by
        rintro rfl
        exact notNumber x evaluated
      rw [Run.bind_of_ok evaluated, Run.bind_of_ok evaluated,
        write_of_not_number isOther, write_of_not_number isOther]

theorem number_of_write_error
    {onOwner : Bool} {value : Value} {error : ResolveError}
    (failed : (expression.write onOwner value).outcome = .error error) :
    ∃ x specifier fault, value = .number x ∧
      expression.specifier = some specifier ∧
      formatNumber x specifier = .error fault ∧
      error = .raised (.invalidFormat specifier fault) expression.span := by
  unfold write at failed
  split at failed
  · rename_i specifier x isSpecifier
    split at failed
    · cases failed
    · rename_i fault isFault
      cases failed
      exact ⟨x, specifier, fault, rfl, isSpecifier, isFault, rfl⟩
  · cases failed

/-- Only a number makes an expression fail with its specifier. -/
theorem number_of_invalidFormat
    (expands : ∀ key entry error, (expand key entry).outcome = .error error →
      error.entries ≠ [])
    {specifier : String} {fault : SpecifierFault} {span : Span}
    (failed : (expression.render table context expand).outcome =
      .error (.raised (.invalidFormat specifier fault) span)) :
    ∃ x, (expression.evaluate table context expand).outcome =
        .ok (.number x) ∧
      expression.specifier = some specifier ∧
      formatNumber x specifier = .error fault ∧ span = expression.span := by
  have evaluates :
      BlamesNone expression.Permits
        (expression.evaluate table context expand) :=
    blamesNone_evaluate expands
  rcases Run.error_of_bind failed with inValue | ⟨value, evaluated, inText⟩
  · cases evaluates.error _ inValue rfl
  · obtain ⟨x, asked, found, rfl, isSpecifier, isFault, isError⟩ :=
      number_of_write_error inText
    cases isError
    exact ⟨x, evaluated, isSpecifier, isFault, rfl⟩

end Rendering

end Expression

/-! ## Ends of branches -/

/-- A text behind which a brace closes an expression with branches. -/
def EndsInBranches (limit : Nat) (text : String) : Prop :=
  ∃ scan, (Scan.outline limit text.toList).outcome = .ok scan ∧
    scan.slash = false ∧ Scan.regionOf scan.frames = some .ifTrue

/-- The branches are complete wherever a pass gets behind such a text. -/
theorem EndsInBranches.exists_frame
    {limit : Nat} {render : Nat → Expression → Run String} {text : String}
    {real : Scan} (ends : EndsInBranches limit text)
    (passed :
      (text.toList.foldlM (Scan.step limit render) {}).outcome = .ok real) :
    ∃ output start selector ifFalse buffer outer,
      real = ⟨text.length, false, output,
        ⟨start, .ifTrue selector ifFalse, buffer⟩ :: outer⟩ := by
  obtain ⟨scan, reached, settled, inRegion⟩ := ends
  have start : Scan.SameOutline {} {} := ⟨rfl, rfl⟩
  have same : Scan.SameOutline scan real :=
    Scan.agree_pass start text.toList scan real reached passed
  have realSettled := same.slash.symm.trans settled
  have realRegion := same.region.symm.trans inRegion
  have place := Scan.position_of_text passed
  obtain ⟨position, slash, output, frames⟩ := real
  cases place
  cases realSettled
  rcases frames with _ | ⟨⟨start, _ | _ | _ | _, buffer⟩, outer⟩ <;>
    cases realRegion
  exact ⟨_, _, _, _, _, _, rfl⟩

/-! ## Other places of the end -/

/-- An error of an expression that ends at another place. Errors inside entries
do not tell the place. -/
def ResolveError.endingAt (stop : Nat) (error : ResolveError) :
    ResolveError :=
  match error.entries with
  | [] => { error with span := ⟨error.span.start, stop⟩ }
  | _ :: _ => error

/-- Errors that only move make the other run the same one with its error
moved. -/
theorem Run.Corresponds.eq_mapError
    {α : Type} {change : Nat → Nat} {run other : Run α}
    (corresponds : run.Corresponds (movedBy change) Eq other) :
    other = run.mapError (ResolveError.moved change) := by
  obtain ⟨logs, outcomes⟩ :=
    corresponds.of_not_exempt (Comparison.not_exempts_strict _ _ _)
  have sameLog : other.log = run.log := logs.trans (List.map_id _)
  have sameOutcome := Run.outcome_of_outcomes outcomes
  exact congrArg₂ Run.mk sameLog sameOutcome

namespace Environment

variable {env : Environment} {depth nesting : Nat} {expression : Expression}

theorem entries_of_expandAt_error
    (env : Environment) (depth nesting : Nat) (key entry : String)
    (error : ResolveError)
    (failed : (env.expandAt depth nesting key entry).outcome = .error error) :
    error.entries ≠ [] := by
  obtain ⟨inner, rfl⟩ := expandAt_error failed
  exact List.cons_ne_nil _ _

theorem span_of_renderAt_error
    {error : ResolveError}
    (failed : (env.renderAt depth nesting expression).outcome = .error error)
    (noEntries : error.entries = []) :
    error.span = expression.span := by
  have obeys :
      (env.renderAt depth nesting expression).Obeys .any fun error =>
        error.entries = [] → error.span = expression.span := by
    apply Expression.obeys_render
    · intro key missing
      trivial
    · intro other raises _
      obtain ⟨cause, _, rfl⟩ := raises
      rfl
    · intro key entry found
      refine ⟨trivial, ?_⟩
      intro other otherFailed isEmpty
      exact absurd isEmpty
        (env.entries_of_expandAt_error depth nesting key entry other
          otherFailed)
  exact obeys.error error failed noEntries

theorem renderAt_moved
    (env : Environment) (depth nesting : Nat) (change : Nat → Nat)
    (expression : Expression) :
    env.renderAt depth nesting (expression.moved change) =
      (env.renderAt depth nesting expression).mapError
        (ResolveError.moved change) :=
  ((env.conforms_movedBy depth change).renders nesting expression).eq_mapError

/-- Both expressions are moved from one that stands in the first place of all,
so that nothing has to be known of where they start and end. -/
theorem renderAt_endingAt
    (env : Environment) (depth nesting : Nat) (expression : Expression)
    (stop : Nat) :
    env.renderAt depth nesting
        { expression with span := ⟨expression.span.start, stop⟩ } =
      (env.renderAt depth nesting expression).mapError
        (ResolveError.endingAt stop) := by
  let base : Expression := { expression with span := ⟨0, 1⟩ }
  let change (stop place : Nat) : Nat :=
    if place = 0 then expression.span.start else stop
  have moved (stop : Nat) :
      env.renderAt depth nesting
          { expression with span := ⟨expression.span.start, stop⟩ } =
        (env.renderAt depth nesting base).mapError
          (ResolveError.moved (change stop)) :=
    env.renderAt_moved depth nesting (change stop) base
  have here :
      env.renderAt depth nesting expression =
        (env.renderAt depth nesting base).mapError
          (ResolveError.moved (change expression.span.stop)) :=
    moved expression.span.stop
  have sameError (error : ResolveError)
      (failed : (env.renderAt depth nesting base).outcome = .error error) :
      error.moved (change stop) =
        (error.moved (change expression.span.stop)).endingAt stop := by
    have atBase := span_of_renderAt_error failed
    obtain ⟨entries, cause, span⟩ := error
    cases entries with
    | nil =>
        cases atBase rfl
        rfl
    | cons entry rest =>
        rfl
  rw [moved, here]
  unfold Run.mapError
  cases rendered : (env.renderAt depth nesting base).outcome with
  | ok text =>
      rfl
  | error error =>
      have same := sameError error rendered
      simp only [Except.mapError, same]

/-- An expression is rendered with every specifier as it is rendered itself,
and only the end of its own errors moves. -/
def IgnoresSpecifiers (env : Environment) (depth nesting : Nat)
    (expression : Expression) : Prop :=
  ∀ specifier stop,
    env.renderAt depth nesting (expression.specified specifier stop) =
      (env.renderAt depth nesting expression).mapError
        (ResolveError.endingAt stop)

theorem renderAt_withSpecifier
    (notNumber : ∀ x,
      (env.valueAt depth nesting expression).outcome ≠ .ok (.number x))
    (specifier : Option String) :
    env.renderAt depth nesting (expression.withSpecifier specifier) =
      env.renderAt depth nesting expression :=
  Expression.render_withSpecifier notNumber specifier

theorem corresponds_withSpecifier
    (notNumber : ∀ x,
      (env.valueAt depth nesting expression).outcome ≠ .ok (.number x))
    (specifier : Option String) (change : Nat → Nat) :
    (env.renderAt depth nesting expression).Corresponds (movedBy change) Eq
      (env.renderAt depth nesting
        ((expression.withSpecifier specifier).moved change)) := by
  rw [← renderAt_withSpecifier notNumber specifier]
  exact (env.conforms_movedBy depth change).renders _ _

theorem ignoresSpecifiers_of_not_number
    (notNumber : ∀ x,
      (env.valueAt depth nesting expression).outcome ≠ .ok (.number x)) :
    env.IgnoresSpecifiers depth nesting expression := by
  intro specifier stop
  rw [← renderAt_withSpecifier notNumber (some specifier), ← renderAt_endingAt]
  rfl

theorem permits_of_valueAt
    {value : Value}
    (evaluated : (env.valueAt depth nesting expression).outcome = .ok value) :
    expression.Permits value := by
  have evaluates :
      Expression.BlamesNone expression.Permits
        (env.valueAt depth nesting expression) :=
    Expression.blamesNone_evaluate (env.entries_of_expandAt_error depth nesting)
  exact evaluates.ok value evaluated

theorem valueAt_ne_number_of_branches
    (hasBranches : expression.branches.isSome) (x : Binary64) :
    (env.valueAt depth nesting expression).outcome ≠ .ok (.number x) := by
  intro isNumber
  have untested := (permits_of_valueAt isNumber).untested hasBranches
  cases untested

/-! ## Where specifiers fail -/

/-- An expression that fails with its specifier has no branches, reads a number,
and its selector is one of those that can. -/
theorem number_of_renderAt_invalidFormat
    {specifier : String} {fault : SpecifierFault} {span : Span}
    (failed : (env.renderAt depth nesting expression).outcome =
      .error (.raised (.invalidFormat specifier fault) span)) :
    expression.branches = none ∧ expression.specifier = some specifier ∧
      expression.span = span ∧ Selector.NamesNumber expression.selector ∧
      ∃ x, (env.valueAt depth nesting expression).outcome =
          .ok (.number x) ∧
        formatNumber x specifier = .error fault := by
  obtain ⟨x, evaluated, isSpecifier, isFault, isSpan⟩ :=
    Expression.number_of_invalidFormat
      (env.entries_of_expandAt_error depth nesting) failed
  have permits := permits_of_valueAt evaluated
  have mayBe := permits.number x rfl
  refine ⟨?_, isSpecifier, isSpan.symm,
    Selector.namesNumber_of_ofText mayBe, x, evaluated, isFault⟩
  cases hasBranches : expression.branches with
  | none =>
      rfl
  | some branches =>
      have isSome : expression.branches.isSome := by
        rw [hasBranches]
        rfl
      exact absurd evaluated (valueAt_ne_number_of_branches isSome x)

/-- An expression in the text that an error is shown in fails with the error. It
has no branches, and its selector can read a number. -/
def BlamesExpression (env : Environment) (given : String)
    (error : ResolveError) : Prop :=
  ∃ depth nesting expression,
    expression.StandsIn env.limits.maxNesting (error.shown given).toList
      nesting ∧
    expression.branches = none ∧
    Selector.NamesNumber expression.selector ∧
    (env.renderAt depth nesting expression).outcome =
      .error (.raised error.cause error.span)

/-- The induction is on the levels left to go. What fails in an entry fails in
an expression of the entry, and a fault of the grammar is never about a
specifier. -/
theorem blamesExpression_of_resolveAt
    {depth : Nat} {template : String} {error : ResolveError}
    (failed : (env.resolveAt depth template).outcome = .error error)
    (isOfSpecifier : error.cause.isOfSpecifier = true) :
    env.BlamesExpression template error := by
  have rendersIn :
      RendersIn env.limits.maxNesting template.toList .any
        (fun error => error.cause.isOfSpecifier = true →
          env.BlamesExpression template error)
        (env.renderAt depth) := by
    constructor
    · intro nesting expression stands
      refine ⟨trivial, ?_⟩
      intro other otherFailed ofSpecifier
      rcases expression.render_cases env.table env.context
          (env.expandAt depth nesting) with
        readsOnly | ⟨key, _, missed⟩ | ⟨key, entry, _, expanded⟩
      · obtain ⟨cause, _, rfl⟩ := readsOnly.error other otherFailed
        cases cause with
        | invalidFormat specifier fault =>
            have blamed := number_of_renderAt_invalidFormat otherFailed
            exact ⟨depth, nesting, expression, stands, blamed.1,
              blamed.2.2.2.1, otherFailed⟩
        | _ =>
            cases ofSpecifier
      · cases (congrArg Run.outcome missed).symm.trans otherFailed
      · have entryFailed :
            (env.expandAt depth nesting key entry).outcome = .error other :=
          (congrArg Run.outcome expanded).symm.trans otherFailed
        unfold expandAt at entryFailed
        split at entryFailed
        · rename_i within
          obtain ⟨inner, innerFailed, rfl⟩ := Run.error_of_mapError entryFailed
          have blamed := blamesExpression_of_resolveAt innerFailed ofSpecifier
          unfold BlamesExpression
          rw [inner.shown_inEntry]
          exact blamed
        · cases entryFailed
    · intro cause span isFault _ ofSpecifier
      cases cause with
      | invalidFormat specifier fault =>
          exact absurd rfl isFault
      | _ =>
          cases ofSpecifier
  have placed := parseTemplate_placed env.limits.maxNesting template
  rw [resolveAt_eq_evaluate] at failed
  exact (Pieces.obeys_evaluate rendersIn placed).error error failed
    isOfSpecifier
termination_by env.limits.maxDepth + 1 - depth
decreasing_by omega

/-! ## Specifiers in templates -/

section Templates

variable {position start : Nat} {output buffer selector : String}
  {outer : List Frame} {stage : Stage} {branches : Option Branches}

/-- A specifier in front of the brace changes nothing but places, where the
expression that the brace closes has no number. -/
theorem complete_inert
    (env : Environment) (depth : Nat)
    (head : Scan.headOf stage buffer = some (selector, branches))
    (notNumber : ∀ x,
      (env.valueAt depth outer.length ⟨selector, branches, none,
        Scan.siteIn outer, ⟨start, position + 1⟩⟩).outcome ≠ .ok (.number x))
    {specifier : List Char} (isSpecifier : IsSpecifier specifier)
    {change : Nat → Nat}
    (unmoved :
      Scan.moved change "" ⟨position, false, output,
        ⟨start, stage, buffer⟩ :: outer⟩ =
      ⟨position, false, output, ⟨start, stage, buffer⟩ :: outer⟩)
    (isBehind : change (position + 1) = position + specifier.length + 2)
    (steady : ∀ p, position + 1 ≤ p → change (p + 1) = change p + 1)
    (after : List Char) :
    Scan.complete env.limits.maxNesting (env.renderAt depth)
        ⟨position, false, output, ⟨start, stage, buffer⟩ :: outer⟩
        (':' :: (specifier ++ '\x7d' :: after)) =
      (Scan.complete env.limits.maxNesting (env.renderAt depth)
        ⟨position, false, output, ⟨start, stage, buffer⟩ :: outer⟩
        ('\x7d' :: after)).mapError (ResolveError.moved change) := by
  let plain : Expression :=
    ⟨selector, branches, none, Scan.siteIn outer, ⟨start, position + 1⟩⟩
  obtain ⟨reading, wasRead, isRest⟩ := isSpecifier.read after
  have sameFrames := congrArg Scan.frames unmoved
  have sameStart : change start = start :=
    congrArg Frame.start (List.cons.inj sameFrames).1
  have outerUnmoved :
      Scan.moved change "" ⟨position, false, output, outer⟩ =
        ⟨position, false, output, outer⟩ := by
    have sameOuter : outer.map (Frame.moved change) = outer :=
      (List.cons.inj sameFrames).2
    have samePosition : change position = position :=
      congrArg Scan.position unmoved
    simp only [Scan.moved, samePosition, sameOuter, String.empty_append]
  have plainEnds :
      position + (after.length + 1) = position + 1 + after.length := by
    omega
  have specifiedEnds :
      position + ((specifier ++ '\x7d' :: after).length + 1) =
        position + specifier.length + 2 + after.length := by
    simp only [List.length_append, List.length_cons]
    omega
  rw [Scan.complete_plain head plainEnds,
    Scan.complete_specified head specifiedEnds wasRead, isRest,
    Nat.add_sub_cancel, Nat.add_sub_cancel]
  apply Run.Corresponds.eq_mapError
  have isMoved :
      Expression.moved change
          (plain.withSpecifier (some (String.ofList reading.value))) =
        ⟨selector, branches, some (String.ofList reading.value),
          Scan.siteIn outer, ⟨start, position + specifier.length + 2⟩⟩ := by
    simp only [Expression.moved, Expression.withSpecifier, Span.moved, plain,
      sameStart, isBehind]
  have rendered :=
    corresponds_withSpecifier notNumber (some (String.ofList reading.value))
      change
  rw [isMoved] at rendered
  refine rendered.bind ?_
  rintro written _ rfl
  have behind :=
    Scan.follows_write outerUnmoved rfl isBehind written
  have completes :=
    Scan.corresponds_complete (env.conforms_movedBy depth change) after behind
      fun p fromHere _ => steady p fromHere
  refine completes.mono ?_
  rintro text _ rfl
  exact String.empty_append.symm

end Templates

/-- A specifier behind branches moves what stands behind it, and that is all. -/
theorem resolveAt_specified
    (env : Environment) (depth : Nat) {before : String}
    (ends : EndsInBranches env.limits.maxNesting before) {specifier : String}
    (isSpecifier : IsSpecifier specifier.toList) (after : String) :
    env.resolveAt depth (before ++ (":" ++ specifier ++ "\x7d" ++ after)) =
      (env.resolveAt depth (before ++ ("\x7d" ++ after))).mapError
        (ResolveError.moved
          (displaced (before.length + 1) 0 (specifier.length + 1))) := by
  have unmoved (p : Nat) (inText : p ≤ before.length) :
      displaced (before.length + 1) 0 (specifier.length + 1) p = p :=
    displaced_of_lt (Nat.lt_succ_of_le inText)
  have reached := env.pass_unmoved depth unmoved
  have closed : ("\x7d" ++ after).toList = '\x7d' :: after.toList := by
    simp
  have specified :
      (":" ++ specifier ++ "\x7d" ++ after).toList =
        ':' :: (specifier.toList ++ '\x7d' :: after.toList) := by
    simp
  rw [resolveAt_append_eq, resolveAt_append_eq, closed, specified]
  cases passed : (before.toList.foldlM
      (Scan.step env.limits.maxNesting (env.renderAt depth)) {}).outcome with
  | error error =>
      rw [passed] at reached
      rw [Run.bind_of_error passed, Run.bind_of_error passed]
      have sameError := Except.error.inj reached.of_error
      exact congrArg (fun error => Run.mk _ (.error error)) sameError
  | ok real =>
      rw [passed] at reached
      obtain ⟨_, isReal, realUnmoved⟩ := reached.of_ok
      cases isReal
      obtain ⟨output, start, selector, ifFalse, buffer, outer, rfl⟩ :=
        ends.exists_frame passed
      have isBehind :
          displaced (before.length + 1) 0 (specifier.length + 1)
              (before.length + 1) =
            before.length + specifier.toList.length + 2 := by
        rw [displaced_of_le (Nat.le_refl _), String.length_toList]
        omega
      have inert := env.complete_inert depth rfl
        (valueAt_ne_number_of_branches rfl) isSpecifier realUnmoved.symm
        isBehind (fun p behind => displaced_succ_of_le behind (Nat.zero_le _))
        after.toList
      rw [Run.bind_of_ok passed, Run.bind_of_ok passed, inert]
      rfl

/-! ## Specifiers of expressions -/

/-- The selectors of keys and of flags, and those that show an attribute as a
whole. -/
inductive NeverNumber (env : Environment) (selector : String) : Prop
  | key {key : String} :
      Selector.ofText selector = .key key →
      NeverNumber env selector
  | attr :
      Selector.ofText selector = .attr →
      NeverNumber env selector
  | flag :
      Selector.ofText selector = .attrPart .enabled →
      NeverNumber env selector
  | fieldFlag {subject : SubjectRole} {name : String} :
      Selector.ofText selector = .fieldPart subject name .enabled →
      NeverNumber env selector
  | shown {attr : Attribute} :
      env.context.ShowsAttribute selector attr →
      NeverNumber env selector

theorem NeverNumber.valueAt_ne
    (never : env.NeverNumber expression.selector) (x : Binary64) :
    (env.valueAt depth nesting expression).outcome ≠ .ok (.number x) := by
  intro isNumber
  have permits := permits_of_valueAt isNumber
  have mayBe := permits.number x rfl
  cases never with
  | key isSelector | attr isSelector | flag isSelector
  | fieldFlag isSelector =>
      rw [isSelector] at mayBe
      cases mayBe
  | @shown attr shows =>
      cases hasBranches : expression.branches with
      | none =>
          have isText :
              env.valueAt depth nesting expression =
                pure (.text (attr.selfText env.context.onOwner)) :=
            Expression.evaluate_of_showsAttribute hasBranches shows
          rw [isText] at isNumber
          cases isNumber
      | some branches =>
          have isSome : expression.branches.isSome := by
            rw [hasBranches]
            rfl
          exact valueAt_ne_number_of_branches isSome x isNumber

theorem not_invalidFormat_of_not_number
    (notNumber : ∀ x,
      (env.valueAt depth nesting expression).outcome ≠ .ok (.number x))
    (specifier : String) (fault : SpecifierFault) (span : Span) :
    (env.renderAt depth nesting expression).outcome ≠
      .error (.raised (.invalidFormat specifier fault) span) := by
  intro failed
  obtain ⟨_, _, _, _, x, evaluated, _⟩ :=
    number_of_renderAt_invalidFormat failed
  exact notNumber x evaluated

/-- Only a number heeds a specifier, and with branches no value is one. An
expression without a number is rendered with any specifier as without one, up to
the end of its errors, and so is a template with branches in it, up to the
places behind. Only an expression without branches fails with its specifier, and
only with a selector that can read a number; for keys, for flags and for
attributes that are shown as a whole no specifier fails. -/
theorem specifiers_are_inert (env : Environment) :
    (∀ depth nesting expression value,
      expression.branches.isSome →
      (env.valueAt depth nesting expression).outcome = .ok value →
      value.asNumber? = none ∧ value.asFlag? = none) ∧
    (∀ depth nesting expression,
      expression.branches.isSome →
      env.IgnoresSpecifiers depth nesting expression) ∧
    (∀ depth before specifier after,
      EndsInBranches env.limits.maxNesting before →
      IsSpecifier specifier.toList →
      env.resolveAt depth (before ++ (":" ++ specifier ++ "\x7d" ++ after)) =
        (env.resolveAt depth (before ++ ("\x7d" ++ after))).mapError
          (ResolveError.moved
            (displaced (before.length + 1) 0 (specifier.length + 1)))) ∧
    (∀ depth nesting expression,
      expression.branches = none →
      (∀ x, (env.valueAt depth nesting expression).outcome ≠
        .ok (.number x)) →
      env.IgnoresSpecifiers depth nesting expression) ∧
    (∀ depth nesting expression specifier fault span,
      (env.renderAt depth nesting expression).outcome =
        .error (.raised (.invalidFormat specifier fault) span) →
      expression.branches = none ∧ expression.specifier = some specifier ∧
        expression.span = span ∧
        Selector.NamesNumber expression.selector ∧
        ∃ x, (env.valueAt depth nesting expression).outcome =
            .ok (.number x) ∧
          formatNumber x specifier = .error fault) ∧
    (∀ depth template error specifier fault,
      (env.resolveAt depth template).outcome = .error error →
      error.cause = .invalidFormat specifier fault →
      env.BlamesExpression template error) ∧
    ∀ depth nesting expression,
      env.NeverNumber expression.selector →
      env.IgnoresSpecifiers depth nesting expression ∧
        ∀ specifier fault span,
          (env.renderAt depth nesting expression).outcome ≠
            .error (.raised (.invalidFormat specifier fault) span) := by
  refine ⟨?_, ?_, ?_, ?_, ?_, ?_, ?_⟩
  · intro depth nesting expression value hasBranches evaluated
    have untested := (permits_of_valueAt evaluated).untested hasBranches
    cases value with
    | text content | attr readings =>
        exact ⟨rfl, rfl⟩
    | number x | flag isSet =>
        cases untested
  · intro depth nesting expression hasBranches
    apply ignoresSpecifiers_of_not_number
    exact valueAt_ne_number_of_branches hasBranches
  · intro depth before specifier after ends isSpecifier
    exact env.resolveAt_specified depth ends isSpecifier after
  · intro depth nesting expression _ notNumber
    exact ignoresSpecifiers_of_not_number notNumber
  · intro depth nesting expression specifier fault span failed
    exact number_of_renderAt_invalidFormat failed
  · intro depth template error specifier fault failed isCause
    apply blamesExpression_of_resolveAt failed
    rw [isCause]
    rfl
  · intro depth nesting expression never
    exact ⟨ignoresSpecifiers_of_not_number never.valueAt_ne,
      not_invalidFormat_of_not_number never.valueAt_ne⟩

/-- An unknown letter behind branches, for a number, and for a missing key. -/
theorem unknown_letter_fails_for_number_alone :
    let env : Environment :=
      ⟨{}, {}, ⟨.neither, none, [.number (.ofInt 3)]⟩⟩
    let branched : Expression :=
      ⟨"0", some ⟨"no", "yes"⟩, none, .entry, ⟨0, 10⟩⟩
    let named : Expression := ⟨"hero", none, none, .entry, ⟨0, 6⟩⟩
    let error : ResolveError :=
      .raised (.invalidFormat "Q" (.unknownLetter 'Q')) ⟨0, 5⟩
    env.renderAt 0 0 (branched.specified "Q" 12) =
        (env.renderAt 0 0 branched).mapError (ResolveError.endingAt 12) ∧
      env.resolveAt 0 ("\x7b0?no|yes" ++ (":" ++ "Q" ++ "\x7d" ++ "!")) =
        (env.resolveAt 0 ("\x7b0?no|yes" ++ ("\x7d" ++ "!"))).mapError
          (ResolveError.moved (displaced 10 0 2)) ∧
      (env.resolveAt 0 "\x7b0:Q\x7d").outcome = .error error ∧
      env.BlamesExpression "\x7b0:Q\x7d" error ∧
      env.renderAt 0 0 (named.specified "Q" 8) =
        (env.renderAt 0 0 named).mapError (ResolveError.endingAt 8) := by
  intro env branched named error
  obtain ⟨-, branchedIgnores, inTemplate, -, -, blames, never⟩ :=
    env.specifiers_are_inert
  have ends : EndsInBranches 64 "\x7b0?no|yes" :=
    ⟨_, rfl, rfl, rfl⟩
  have isSpecifier : IsSpecifier "Q".toList :=
    .ordinary (by decide) (by decide) .nil
  have failed : (env.resolveAt 0 "\x7b0:Q\x7d").outcome = .error error := by
    cbv
  have isKey : env.NeverNumber named.selector :=
    .key (by decide : Selector.ofText "hero" = .key "hero")
  exact ⟨branchedIgnores 0 0 branched rfl "Q" 12,
    inTemplate 0 _ "Q" "!" ends isSpecifier, failed,
    blames 0 _ error _ _ failed rfl, (never 0 0 named isKey).1 "Q" 8⟩

end Environment

end Phrasebook
