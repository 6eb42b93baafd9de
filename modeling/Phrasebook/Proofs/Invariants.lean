import Phrasebook.Proofs.FaultyRuns
import Phrasebook.Proofs.Places

/-!
# Invariants of runs

What a run may log and how it may fail is shown once for each thing that can
happen at a level, and then holds of every run. The levels left to go bound how
entries are expanded inside one another, whatever the table is.
-/

namespace Phrasebook

/-- An expression marks an expression of a text, with so many around it. -/
def Expression.StandsIn (limit : Nat) (text : List Char) (level : Nat)
    (expression : Expression) : Prop :=
  ∃ part, IsExpression limit level part ∧ Marks text expression.span part

theorem IsExpression.le
    {limit level : Nat} {text : List Char}
    (isExpression : IsExpression limit level text) :
    level ≤ limit := by
  cases isExpression with
  | plain shallow _ _ | branched shallow _ _ _ _ =>
      exact shallow

/-- What is not a fault of the grammar is met in a whole expression. -/
theorem Expression.StandsIn.fits
    {limit level : Nat} {text : List Char} {expression : Expression}
    (stands : expression.StandsIn limit text level) {cause : Cause}
    (noFault : cause.faultKind? = none) :
    cause.Fits limit text expression.span := by
  have inExpression :
      ∃ level part, IsExpression limit level part ∧
        Marks text expression.span part :=
    ⟨level, stands⟩
  cases cause with
  | unterminatedExpression | danglingEscape | nestingTooDeep _
  | incompleteBranch _ =>
      cases noFault
  | selectorTooLong _ | invalidSelector _ _ | slotOutOfRange _ _ _
  | argumentOutOfRange _ _ | missingContext _ | missingField _ _
  | noEnabledFlag _ | invalidFormat _ _ =>
      exact inExpression

/-! ## Evaluations -/

theorem Pieces.fault?_eq_none_of_ok
    {render : Nat → Expression → Run String} {level : Nat} {pieces : Pieces}
    {text : String}
    (ok : (pieces.evaluate render level).outcome = .ok text) :
    pieces.fault? = none := by
  have renders : FailsElsewhere (fun _ => True) render := by
    intro _ _ _ _
    trivial
  exact (pieces.endsIn_evaluate renders level).ok text ok

/-- Expressions that stand in a text are rendered under a law, and faults that
fit the text are expected. -/
structure RendersIn (limit : Nat) (text : List Char) (law : LogLaw)
    (expected : ResolveError → Prop)
    (render : Nat → Expression → Run String) : Prop where
  renders : ∀ {level : Nat} {expression : Expression},
    expression.StandsIn limit text level →
    (render level expression).Obeys law expected
  fails : ∀ {cause : Cause} {span : Span},
    cause.faultKind? ≠ none →
    cause.Fits limit text span →
    expected (.raised cause span)

theorem Ending.faultKind?_causeOfHalf (ending : Ending) (selector : String) :
    (ending.causeOfHalf selector).faultKind? ≠ none := by
  cases ending <;> exact Option.some_ne_none _

section Evaluation

variable {limit : Nat} {text : List Char} {law : LogLaw}
  {expected : ResolveError → Prop} {render : Nat → Expression → Run String}

theorem Ending.obeys_evaluate
    (rendersIn : RendersIn limit text law expected render)
    {ending : Ending} {level : Nat} {span : Span}
    (placed : ending.Placed limit text level span) (site : Site)
    (selector : String) (branches : Option Branches) :
    (ending.evaluate render level site span selector branches).Obeys law
      expected := by
  cases ending with
  | plain | specified specifier =>
      exact rendersIn.renders placed
  | missing =>
      exact Run.obeys_fail (rendersIn.fails (Option.some_ne_none _) placed)

mutual

/-- A law of rendering is a law of evaluating pieces that are placed in a
text. -/
theorem Pieces.obeys_evaluate
    (rendersIn : RendersIn limit text law expected render)
    {level : Nat} {pieces : Pieces}
    (placed : pieces.Placed limit text level) :
    (pieces.evaluate render level).Obeys law expected := by
  match pieces with
  | .nil =>
      exact Run.obeys_pure ""
  | .literal c rest =>
      refine (rest.obeys_evaluate rendersIn placed).bind ?_
      intro behind _
      exact Run.obeys_pure _
  | .nested expression rest =>
      obtain ⟨expressionPlaced, restPlaced⟩ := placed
      refine (expression.obeys_evaluate rendersIn expressionPlaced).bind ?_
      intro written _
      refine (rest.obeys_evaluate rendersIn restPlaced).bind ?_
      intro behind _
      exact Run.obeys_pure _
  | .dangling span =>
      exact Run.obeys_fail (rendersIn.fails (Option.some_ne_none _) placed)
  | .tooDeep deepest span =>
      exact Run.obeys_fail (rendersIn.fails (Option.some_ne_none _) placed)

/-- The parts are evaluated under the law first, the expression after them. -/
theorem SyntaxTree.obeys_evaluate
    (rendersIn : RendersIn limit text law expected render)
    {level : Nat} {tree : SyntaxTree}
    (placed : tree.Placed limit text level) :
    (tree.evaluate render level).Obeys law expected := by
  match tree with
  | .single site span selector ending =>
      obtain ⟨selectorPlaced, endingPlaced⟩ := placed
      refine (selector.obeys_evaluate rendersIn selectorPlaced).bind ?_
      intro written selectorOk
      have ended := endingPlaced (Pieces.fault?_eq_none_of_ok selectorOk)
      exact Ending.obeys_evaluate rendersIn ended site written none
  | .half site span selector ifFalse ending =>
      obtain ⟨selectorPlaced, ifFalsePlaced, fits⟩ := placed
      refine (selector.obeys_evaluate rendersIn selectorPlaced).bind ?_
      intro written selectorOk
      refine (ifFalse.obeys_evaluate rendersIn ifFalsePlaced).bind ?_
      intro _ ifFalseOk
      have causeFits :=
        fits (Pieces.fault?_eq_none_of_ok selectorOk)
          (Pieces.fault?_eq_none_of_ok ifFalseOk) written
      have isFault := ending.faultKind?_causeOfHalf written
      exact Run.obeys_fail (rendersIn.fails isFault causeFits)
  | .branched site span selector ifFalse ifTrue ending =>
      obtain ⟨selectorPlaced, ifFalsePlaced, ifTruePlaced, endingPlaced⟩ :=
        placed
      refine (selector.obeys_evaluate rendersIn selectorPlaced).bind ?_
      intro written selectorOk
      refine (ifFalse.obeys_evaluate rendersIn ifFalsePlaced).bind ?_
      intro falseWritten ifFalseOk
      refine (ifTrue.obeys_evaluate rendersIn ifTruePlaced).bind ?_
      intro trueWritten ifTrueOk
      have ended :=
        endingPlaced (Pieces.fault?_eq_none_of_ok selectorOk)
          (Pieces.fault?_eq_none_of_ok ifFalseOk)
          (Pieces.fault?_eq_none_of_ok ifTrueOk)
      exact Ending.obeys_evaluate rendersIn ended site written _

end

end Evaluation

/-! ## Runs -/

namespace Environment

/-- A law of logs at each level, and the errors that are expected at each level
in each text, with what has to be shown so that all runs have them. -/
structure Invariant (env : Environment) where
  law : Nat → LogLaw
  expected : Nat → String → ResolveError → Prop
  misses : ∀ {depth : Nat} {key : String},
    env.table.templates.get? key = none →
    (law depth).holds [.keyMissing key]
  limitReached : ∀ {depth nesting : Nat} {key entry : String},
    nesting ≤ env.limits.maxNesting →
    env.limits.maxDepth < depth + nesting →
    env.table.templates.get? key = some entry →
    (law depth).holds
      [.limitReached key (depth + nesting) env.limits.maxDepth]
  expands : ∀ {depth nesting : Nat} {key entry : String},
    nesting ≤ env.limits.maxNesting →
    depth + nesting ≤ env.limits.maxDepth →
    env.table.templates.get? key = some entry →
    (law (depth + nesting + 1)).holds
      (env.resolveAt (depth + nesting + 1) entry).log →
    (law depth).holds (.expanding key (depth + nesting) ::
      (env.resolveAt (depth + nesting + 1) entry).log)
  fails : ∀ {depth : Nat} {template : String} {cause : Cause} {span : Span},
    depth ≤ env.limits.maxDepth + 1 →
    cause.Fits env.limits.maxNesting template.toList span →
    expected depth template (.raised cause span)
  wraps : ∀ {depth nesting : Nat} {template key entry : String}
      {error : ResolveError},
    depth + nesting ≤ env.limits.maxDepth →
    env.table.templates.get? key = some entry →
    expected (depth + nesting + 1) entry error →
    expected depth template (error.inEntry ⟨key, entry⟩)

/-- An invariant holds of every run. -/
theorem Invariant.obeys_resolveAt
    {env : Environment} (invariant : env.Invariant) {depth : Nat}
    (reached : depth ≤ env.limits.maxDepth + 1) (template : String) :
    (env.resolveAt depth template).Obeys (invariant.law depth)
      (invariant.expected depth template) := by
  -- The induction is on the levels left to go: an entry is resolved deeper than
  -- the expression that expands it, however deep that one stands in its text.
  rw [resolveAt_eq_evaluate]
  have placed := parseTemplate_placed env.limits.maxNesting template
  refine Pieces.obeys_evaluate ⟨?_, ?_⟩ placed
  · intro nesting expression stands
    have shallow : nesting ≤ env.limits.maxNesting := by
      obtain ⟨part, isExpression, _⟩ := stands
      exact isExpression.le
    apply Expression.obeys_render
    · intro key missing
      exact invariant.misses missing
    · intro error raises
      obtain ⟨cause, noFault, rfl⟩ := raises
      exact invariant.fails reached (stands.fits noFault)
    · intro key entry found
      apply obeys_expandAt
      · intro within
        have inner :=
          invariant.obeys_resolveAt (Nat.succ_le_succ within) entry
        exact invariant.expands shallow within found inner.log
      · intro beyond
        exact invariant.limitReached shallow beyond found
      · intro error within failed
        have inner :=
          invariant.obeys_resolveAt (Nat.succ_le_succ within) entry
        exact invariant.wraps within found (inner.error error failed)
  · intro cause span _ fits
    exact invariant.fails reached fits
termination_by env.limits.maxDepth + 1 - depth
decreasing_by all_goals omega

end Environment

end Phrasebook
