import Mathlib
import Phrasebook.Proofs.Invariants
import Phrasebook.Proofs.Rendering

/-!
# What is accepted

A pass over a template of the grammar fails only where one of its expressions
cannot be rendered. A pass over any other text always fails, with a fault that
depends on nothing but the text, unless an expression that is closed before the
fault shows cannot be rendered. What is written for the expressions is never
read again, so that it can make no difference.
-/

namespace Phrasebook

/-! ## Where evaluations stop -/

/-- The place where an evaluation stops: at its fault, or else behind what was
read. -/
def stopOf (fault? : Option Fault) (behind : Nat) : Nat :=
  (fault?.map fun fault => fault.span.stop).getD behind

theorem stopOf_or (first? second? : Option Fault) (behind : Nat) :
    stopOf (first?.or second?) behind =
      stopOf first? (stopOf second? behind) := by
  cases first? <;> rfl

theorem stopOf_mono
    (fault? : Option Fault) {place behind : Nat} (ordered : place ≤ behind) :
    stopOf fault? place ≤ stopOf fault? behind := by
  cases fault? with
  | none =>
      exact ordered
  | some fault =>
      exact Nat.le_refl _

theorem Ending.le_stopOf
    (ending : Ending) (start : Nat) {stop behind : Nat}
    (upTo : stop ≤ behind) :
    stop ≤ stopOf (ending.fault? ⟨start, stop⟩) behind := by
  cases ending with
  | plain | specified _ =>
      exact upTo
  | missing =>
      exact Nat.le_refl stop

theorem le_behind_cons (size : Nat) (c : Char) (rest : List Char) :
    size - (c :: rest).length ≤ size - rest.length :=
  Nat.sub_le_sub_left (Nat.le_succ _) size

theorem le_behind_ending (size : Nat) (text : List Char) :
    size - text.length ≤ size - (readEnding text).rest.length :=
  Nat.sub_le_sub_left (readEnding_isSuffix text).length_le size

section Stops

variable {limit size : Nat}

mutual

/-- Pieces stop behind the place where they begin. -/
theorem ReadsText.le_stopOf
    {region : Region} {level : Nat} {text rest : List Char} {pieces : Pieces}
    (reads : ReadsText limit size region level text pieces rest)
    {behind : Nat} (upTo : size - rest.length ≤ behind) :
    size - text.length ≤ stopOf pieces.fault? behind := by
  match reads with
  | .stop _ =>
      exact upTo
  | .dangling =>
      exact Nat.sub_le _ _
  | .escape _ restReads =>
      exact Nat.le_trans
        (Nat.sub_le_sub_left (Nat.le_add_right _ 2) size)
        (restReads.le_stopOf upTo)
  | .slash _ restReads | .ordinary _ _ _ restReads =>
      exact Nat.le_trans (Nat.sub_le_sub_left (Nat.le_succ _) size)
        (restReads.le_stopOf upTo)
  | .tooDeep rest _ =>
      exact Nat.sub_le_sub_left (Nat.le_succ _) size
  | .nested _ expressionReads restReads =>
      rw [Pieces.fault?, stopOf_or]
      exact expressionReads.le_stopOf (restReads.le_stopOf upTo)

theorem ReadsExpression.le_stopOf
    {site : Site} {level : Nat} {text rest : List Char} {tree : SyntaxTree}
    (reads : ReadsExpression limit size site level text tree rest)
    {place : Nat} (upTo : size - rest.length ≤ place) :
    size - (text.length + 1) ≤ stopOf tree.fault? place := by
  refine Nat.le_trans (le_behind_cons size '\x7b' text) ?_
  match reads with
  | .single behind selectorReads _ =>
      rw [SyntaxTree.fault?, stopOf_or]
      apply selectorReads.le_stopOf
      exact Nat.le_trans (le_behind_ending size behind)
        (Ending.le_stopOf _ _ upTo)
  | .half rest behind selectorReads ifFalseReads _ =>
      rw [SyntaxTree.fault?, stopOf_or, stopOf_or]
      apply selectorReads.le_stopOf
      refine Nat.le_trans (le_behind_cons size '?' rest) ?_
      exact ifFalseReads.le_stopOf (le_behind_ending size behind)
  | .branched rest last behind selectorReads ifFalseReads ifTrueReads =>
      rw [SyntaxTree.fault?, stopOf_or, stopOf_or, stopOf_or]
      apply selectorReads.le_stopOf
      refine Nat.le_trans (le_behind_cons size '?' rest) ?_
      apply ifFalseReads.le_stopOf
      refine Nat.le_trans (le_behind_cons size '|' last) ?_
      apply ifTrueReads.le_stopOf
      exact Nat.le_trans (le_behind_ending size behind)
        (Ending.le_stopOf _ _ upTo)

end

end Stops

/-! ## Expressions that fail -/

/-- The rendering of an expression of a text fails, and the expression is closed
at a place at the latest. -/
def FailsBy (limit : Nat) (text : List Char)
    (render : Nat → Expression → Run String) (place : Nat)
    (error : ResolveError) : Prop :=
  ∃ level expression, expression.StandsIn limit text level ∧
    expression.span.stop ≤ place ∧
    (render level expression).outcome = .error error

section Evaluation

variable {limit size : Nat} {whole : List Char}
  {render : Nat → Expression → Run String}

theorem FailsBy.mono
    {place later : Nat} {error : ResolveError}
    (fails : FailsBy limit whole render place error)
    (ordered : place ≤ later) :
    FailsBy limit whole render later error := by
  obtain ⟨level, expression, stands, closed, failed⟩ := fails
  exact ⟨level, expression, stands, Nat.le_trans closed ordered, failed⟩

/-- The first part of a run stops before the second one, or else with a fault,
and then there is no second part. -/
theorem Run.EndsIn.bind_failsBy
    {α β : Type} {run : Run α} {next : α → Run β}
    {first? second? : Option Fault} {middle behind : Nat}
    (first : run.EndsIn
      (FailsBy limit whole render (stopOf first? middle)) first?)
    (ordered : middle ≤ stopOf second? behind)
    (second : first? = none → ∀ value,
      (next value).EndsIn
        (FailsBy limit whole render (stopOf second? behind)) second?) :
    (run >>= next).EndsIn
      (FailsBy limit whole render (stopOf (first?.or second?) behind))
      (first?.or second?) := by
  rw [stopOf_or]
  refine (first.mono ?_).bind ?_
  · intro error fails
    exact fails.mono (stopOf_mono first? ordered)
  · intro faultless value
    rw [faultless]
    exact second faultless value

theorem Ending.endsIn_of_placed
    {ending : Ending} {level start stop : Nat}
    (placed : ending.Placed limit whole level ⟨start, stop⟩) (site : Site)
    (selector : String) (branches : Option Branches) :
    (ending.evaluate render level site ⟨start, stop⟩ selector
      branches).EndsIn
        (FailsBy limit whole render
          (stopOf (ending.fault? ⟨start, stop⟩) stop))
        (ending.fault? ⟨start, stop⟩) := by
  cases ending with
  | plain | specified specifier =>
      refine ⟨fun _ _ => rfl, fun error failed => .inl ?_⟩
      refine ⟨level, _, ?_, Nat.le_refl stop, failed⟩
      exact placed
  | missing =>
      exact Run.endsIn_fail rfl

mutual

/-- The evaluation of what is read meets its first fault, unless an expression
that is closed before cannot be rendered. -/
theorem ReadsText.endsIn_evaluate
    {region : Region} {level : Nat} {text rest : List Char} {pieces : Pieces}
    (reads : ReadsText limit size region level text pieces rest)
    (suffix : text <:+ whole) (isSize : whole.length = size) :
    (pieces.evaluate render level).EndsIn
      (FailsBy limit whole render
        (stopOf pieces.fault? (size - rest.length)))
      pieces.fault? := by
  match reads with
  | .stop _ =>
      exact Run.endsIn_pure ""
  | .dangling | .tooDeep _ _ =>
      exact Run.endsIn_fail rfl
  | .escape _ restReads =>
      have restSuffix := (List.suffix_append ['/', _] _).trans suffix
      exact (restReads.endsIn_evaluate restSuffix isSize).bind_pure _
  | .slash _ restReads | .ordinary _ _ _ restReads =>
      have restSuffix := (List.suffix_cons _ _).trans suffix
      exact (restReads.endsIn_evaluate restSuffix isSize).bind_pure _
  | .nested shallow expressionReads restReads =>
      have behindSuffix :=
        expressionReads.isSuffix.trans
          ((List.suffix_cons '\x7b' _).trans suffix)
      refine (expressionReads.endsIn_evaluate shallow suffix
        isSize).bind_failsBy (restReads.le_stopOf (Nat.le_refl _)) ?_
      intro _ written
      exact (restReads.endsIn_evaluate behindSuffix isSize).bind_pure _

theorem ReadsExpression.endsIn_evaluate
    {site : Site} {level : Nat} {text rest : List Char} {tree : SyntaxTree}
    (reads : ReadsExpression limit size site level text tree rest)
    (shallow : level ≤ limit) (suffix : '\x7b' :: text <:+ whole)
    (isSize : whole.length = size) :
    (tree.evaluate render level).EndsIn
      (FailsBy limit whole render (stopOf tree.fault? (size - rest.length)))
      tree.fault? := by
  have placed := reads.placed shallow suffix isSize
  have textSuffix := (List.suffix_cons _ _).trans suffix
  match reads with
  | .single behind selectorReads _ =>
      refine (selectorReads.endsIn_evaluate textSuffix isSize).bind_failsBy
        ?_ ?_
      · exact Nat.le_trans (le_behind_ending size behind)
          (Ending.le_stopOf _ _ (Nat.le_refl _))
      · intro selectorFaultless selector
        exact Ending.endsIn_of_placed (placed.2 selectorFaultless) site
          selector none
  | .half afterMark behind selectorReads ifFalseReads _ =>
      have markSuffix :=
        (List.suffix_cons _ _).trans
          (selectorReads.isSuffix.trans textSuffix)
      refine (selectorReads.endsIn_evaluate textSuffix isSize).bind_failsBy
        ?_ ?_
      · rw [stopOf_or]
        exact Nat.le_trans (le_behind_cons size '?' afterMark)
          (ifFalseReads.le_stopOf (le_behind_ending size behind))
      · intro _ selector
        refine (ifFalseReads.endsIn_evaluate markSuffix isSize).bind_failsBy
          (le_behind_ending size behind) ?_
        intro _ _
        exact Run.endsIn_fail (Ending.fault?_raised_causeOfHalf _ _ selector)
  | .branched afterMark afterBar behind selectorReads ifFalseReads
      ifTrueReads =>
      have markSuffix :=
        (List.suffix_cons _ _).trans
          (selectorReads.isSuffix.trans textSuffix)
      have barSuffix :=
        (List.suffix_cons _ _).trans
          (ifFalseReads.isSuffix.trans markSuffix)
      have trueUpTo :=
        Nat.le_trans (le_behind_ending size behind)
          ((readEnding behind).value.le_stopOf (size - (text.length + 1))
            (Nat.le_refl _))
      have falseUpTo :=
        Nat.le_trans (le_behind_cons size '|' afterBar)
          (ifTrueReads.le_stopOf trueUpTo)
      refine (selectorReads.endsIn_evaluate textSuffix isSize).bind_failsBy
        ?_ ?_
      · rw [stopOf_or, stopOf_or]
        exact Nat.le_trans (le_behind_cons size '?' afterMark)
          (ifFalseReads.le_stopOf falseUpTo)
      intro selectorFaultless selector
      refine (ifFalseReads.endsIn_evaluate markSuffix isSize).bind_failsBy
        ?_ ?_
      · rw [stopOf_or]
        exact falseUpTo
      intro ifFalseFaultless ifFalse
      refine (ifTrueReads.endsIn_evaluate barSuffix isSize).bind_failsBy
        trueUpTo ?_
      intro ifTrueFaultless ifTrue
      have ended :=
        placed.2.2.2 selectorFaultless ifFalseFaultless ifTrueFaultless
      exact Ending.endsIn_of_placed ended site selector _

end

end Evaluation

/-! ## Templates -/

section Templates

variable {limit : Nat} {template : String}

theorem endsIn_scanTemplate
    (limit : Nat) (render : Nat → Expression → Run String)
    (template : String) :
    (scanTemplate limit render template).EndsIn
      (FailsBy limit template.toList render
        (stopOf (templateFault? limit template) template.length))
      (templateFault? limit template) := by
  have reads :=
    readText_related limit template.length .outside 0 template.toList
  have ends :
      ((parseTemplate limit template).evaluate render 0).EndsIn _
        (templateFault? limit template) :=
    reads.endsIn_evaluate (List.suffix_refl _) String.length_toList
  rw [scanTemplate_eq_evaluate]
  rw [reads.stops.eq_nil] at ends
  exact ends

/-- A fault of the text is met in every pass, or an expression in front of it
has failed before. -/
theorem scanTemplate_fails_of_fault
    {fault : Fault} (isFault : templateFault? limit template = some fault)
    (render : Nat → Expression → Run String) :
    ∃ error, (scanTemplate limit render template).outcome = .error error ∧
      (error.fault? = some fault ∨
        FailsBy limit template.toList render fault.span.stop error) := by
  have ends := endsIn_scanTemplate limit render template
  rw [isFault] at ends
  cases outcome : (scanTemplate limit render template).outcome with
  | ok text =>
      have noFault := ends.ok text outcome
      cases noFault
  | error error =>
      refine ⟨error, rfl, ?_⟩
      rcases ends.error error outcome with fails | ⟨_, isOther, errorFault⟩
      · exact .inr fails
      · cases isOther
        exact .inl errorFault

theorem scanTemplate_succeeds_or_fails
    (isTemplate : IsTemplate limit template.toList)
    (render : Nat → Expression → Run String) :
    (∃ text, (scanTemplate limit render template).outcome = .ok text) ∨
      ∃ error, (scanTemplate limit render template).outcome = .error error ∧
        FailsBy limit template.toList render template.length error := by
  have ends := endsIn_scanTemplate limit render template
  rw [templateFault?_eq_none_iff.mpr isTemplate] at ends
  cases outcome : (scanTemplate limit render template).outcome with
  | ok text =>
      exact .inl ⟨text, rfl⟩
  | error error =>
      rcases ends.error error outcome with fails | ⟨_, isOther, _⟩
      · exact .inr ⟨error, rfl, fails⟩
      · cases isOther

/-- A pass in which every expression is rendered succeeds on the templates of
the grammar alone. -/
theorem scanTemplate_succeeds_iff
    {render : Nat → Expression → Run String}
    (renders : ∀ level expression,
      ∃ text, (render level expression).outcome = .ok text) :
    (∃ text, (scanTemplate limit render template).outcome = .ok text) ↔
      IsTemplate limit template.toList := by
  constructor
  · rintro ⟨text, succeeded⟩
    have ends := endsIn_scanTemplate limit render template
    exact templateFault?_eq_none_iff.mp (ends.ok text succeeded)
  · intro isTemplate
    rcases scanTemplate_succeeds_or_fails isTemplate render with
      succeeds | ⟨error, _, level, expression, _, _, failed⟩
    · exact succeeds
    · obtain ⟨text, rendered⟩ := renders level expression
      rw [rendered] at failed
      cases failed

end Templates

/-! ## Environments -/

namespace Environment

variable {env : Environment}

theorem resolve_eq_scanTemplate (env : Environment) (template : String) :
    env.resolve template =
      scanTemplate env.limits.maxNesting (env.renderAt 0) template := by
  rw [resolve, resolveAt]
  rfl

/-- What an expression fails with is no fault of the template around it. -/
theorem fault?_eq_none_of_renderAt
    {depth nesting : Nat} {expression : Expression} {error : ResolveError}
    (failed : (env.renderAt depth nesting expression).outcome =
      .error error) :
    error.fault? = none := by
  have fails :
      FailsElsewhere (fun error => error.fault? = none)
        (env.renderAt depth) := by
    apply failsElsewhere_render
    · intro cause span noFault
      simp only [ResolveError.raised, ResolveError.fault?, noFault,
        Option.map_none]
    · intro inside key entry inner shallow found innerFailed
      rfl
  exact fails nesting expression error failed

theorem fault?_eq_none_of_failsBy
    {limit place : Nat} {text : List Char} {error : ResolveError}
    (fails : FailsBy limit text (env.renderAt 0) place error) :
    error.fault? = none := by
  obtain ⟨level, expression, _, _, failed⟩ := fails
  exact fault?_eq_none_of_renderAt failed

end Environment

/-- Exactly the templates of the grammar are accepted, however expressions are
rendered. Where all of them are, the templates of the grammar succeed and no
other text does. A text outside the grammar always fails: with a fault that is
the same for all passes, or with the error of an expression that is closed
before the fault shows. A template of the grammar fails only with the error of
one of its expressions, which in an environment is no fault of the template, and
no fault at all where all entries belong to the grammar. -/
theorem resolve_accepts_grammar (limit : Nat) (template : String) :
    (∀ render : Nat → Expression → Run String,
      (∀ level expression,
        ∃ text, (render level expression).outcome = .ok text) →
      ((∃ text, (scanTemplate limit render template).outcome = .ok text) ↔
        IsTemplate limit template.toList)) ∧
      (¬ IsTemplate limit template.toList →
        ∃ fault : Fault,
          (∀ render, ∃ error,
            (scanTemplate limit render template).outcome = .error error ∧
              (error.fault? = some fault ∨
                FailsBy limit template.toList render fault.span.stop
                  error)) ∧
          ∀ env : Environment, env.limits.maxNesting = limit →
            ∃ error, (env.resolve template).outcome = .error error ∧
              (error.fault? = some fault ∨
                error.fault? = none ∧
                  FailsBy limit template.toList (env.renderAt 0)
                    fault.span.stop error)) ∧
      (IsTemplate limit template.toList →
        (∀ render,
          (∃ text, (scanTemplate limit render template).outcome = .ok text) ∨
            ∃ error,
              (scanTemplate limit render template).outcome = .error error ∧
                FailsBy limit template.toList render template.length
                  error) ∧
        ∀ env : Environment, env.limits.maxNesting = limit →
          (∃ text, (env.resolve template).outcome = .ok text) ∨
            ∃ error, (env.resolve template).outcome = .error error ∧
              error.fault? = none ∧
              FailsBy limit template.toList (env.renderAt 0) template.length
                error ∧
              ((∀ key entry, env.table.templates.get? key = some entry →
                  IsTemplate limit entry.toList) →
                error.cause.faultKind? = none)) := by
  refine ⟨fun render renders => scanTemplate_succeeds_iff renders, ?_, ?_⟩
  · intro notTemplate
    cases isFault : templateFault? limit template with
    | none =>
        exact absurd (templateFault?_eq_none_iff.mp isFault) notTemplate
    | some fault =>
        refine ⟨fault, scanTemplate_fails_of_fault isFault, ?_⟩
        rintro env rfl
        rw [env.resolve_eq_scanTemplate]
        obtain ⟨error, failed, isFault | fails⟩ :=
          scanTemplate_fails_of_fault isFault (env.renderAt 0)
        · exact ⟨error, failed, .inl isFault⟩
        · exact ⟨error, failed,
            .inr ⟨Environment.fault?_eq_none_of_failsBy fails, fails⟩⟩
  · intro isTemplate
    refine ⟨scanTemplate_succeeds_or_fails isTemplate, ?_⟩
    rintro env rfl
    have isScan := env.resolve_eq_scanTemplate template
    rcases scanTemplate_succeeds_or_fails isTemplate (env.renderAt 0) with
      succeeds | ⟨error, failed, fails⟩
    · rw [isScan]
      exact .inl succeeds
    · rw [← isScan] at failed
      refine .inr ⟨error, failed,
        Environment.fault?_eq_none_of_failsBy fails, fails, ?_⟩
      intro entriesAreTemplates
      exact Environment.faultKind?_eq_none_of_templates entriesAreTemplates
        isTemplate failed

/-- An argument is accepted where there is one, whatever marks its text has. A
lone slash has the same fault in every environment, and a missing argument is no
fault of the template that asks for it. -/
theorem argument_accepted_and_slash_rejected :
    let given : Environment := ⟨{}, {}, { args := [.text "/\x7b"] }⟩
    let empty : Environment := ⟨{}, {}, {}⟩
    let argument := "\x7b0\x7d"
    (given.resolve argument).outcome = .ok "/\x7b" ∧
      (∃ text,
        (scanTemplate 64 (fun _ expression => pure expression.selector)
          argument).outcome = .ok text) ∧
      (∃ error, (empty.resolve argument).outcome = .error error ∧
        error.fault? = none ∧
        FailsBy 64 argument.toList (empty.renderAt 0) argument.length error ∧
        error.cause.faultKind? = none) ∧
      (∀ env : Environment, (env.resolve "/").outcome =
        .error (.raised .danglingEscape ⟨0, 1⟩)) ∧
      ∃ fault : Fault,
        (∀ render, ∃ error,
          (scanTemplate 64 render "/").outcome = .error error ∧
            (error.fault? = some fault ∨
              FailsBy 64 "/".toList render fault.span.stop error)) ∧
        ∀ env : Environment, env.limits.maxNesting = 64 →
          ∃ error, (env.resolve "/").outcome = .error error ∧
            (error.fault? = some fault ∨
              error.fault? = none ∧
                FailsBy 64 "/".toList (env.renderAt 0) fault.span.stop
                  error) := by
  intro given empty argument
  have selector : IsText 64 .selector 1 ['0'] :=
    .ordinary (by decide) (by decide) (by decide) .nil
  have isTemplate : IsTemplate 64 "\x7b0\x7d".toList :=
    .nested (.plain (Nat.zero_le _) selector .plain) .nil
  have written : (given.resolve argument).outcome = .ok "/\x7b" := by
    rw [Environment.resolve, Environment.resolveAt]
    cbv
  have argumentFails :
      (empty.resolve argument).outcome =
        .error (.raised (.argumentOutOfRange 0 0) ⟨0, 3⟩) := by
    rw [Environment.resolve, Environment.resolveAt]
    cbv
  have slashFails (env : Environment) :
      (env.resolve "/").outcome =
        .error (.raised .danglingEscape ⟨0, 1⟩) := by
    rw [Environment.resolve, Environment.resolveAt]
    rfl
  have notTemplate : ¬ IsTemplate 64 "/".toList := by
    intro isTemplate
    have slashAccepted := (resolve_accepts_grammar 64 "/").2.2 isTemplate
    rcases slashAccepted.2 empty rfl with
      ⟨text, succeeded⟩ | ⟨error, failed, noFault, _⟩
    · rw [slashFails] at succeeded
      cases succeeded
    · rw [slashFails] at failed
      cases failed
      cases noFault
  have accepted := resolve_accepts_grammar 64 argument
  refine ⟨written, (accepted.1 _ ?_).mpr isTemplate, ?_, slashFails,
    (resolve_accepts_grammar 64 "/").2.1 notTemplate⟩
  · intro level expression
    exact ⟨expression.selector, rfl⟩
  · rcases (accepted.2.2 isTemplate).2 empty rfl with
      ⟨text, succeeded⟩ | ⟨error, failed, noFault, fails, entries⟩
    · rw [argumentFails] at succeeded
      cases succeeded
    · refine ⟨error, failed, noFault, fails, entries ?_⟩
      intro key entry found
      cases found

end Phrasebook
