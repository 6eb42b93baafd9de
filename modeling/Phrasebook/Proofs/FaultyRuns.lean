import Phrasebook.Proofs.RunLaws

/-!
# Runs that meet a fault

An evaluation meets the first fault of its tree, which depends on no value,
unless something that it renders fails before.
-/

namespace Phrasebook

variable {α β : Type} {elsewhere : ResolveError → Prop}

/-! ## Runs that end in a fault -/

/-- A run that succeeds has met no fault, and one that fails has met the fault
or an error from elsewhere. -/
structure Run.EndsIn (elsewhere : ResolveError → Prop)
    (fault? : Option Fault) (run : Run α) : Prop where
  ok : ∀ value, run.outcome = .ok value → fault? = none
  error : ∀ error, run.outcome = .error error →
    elsewhere error ∨ ∃ fault, fault? = some fault ∧ error.fault? = some fault

namespace Run

theorem endsIn_pure (value : α) :
    (pure value : Run α).EndsIn elsewhere none where
  ok _ _ := rfl
  error := by
    intro other failed
    cases failed

theorem endsIn_fail
    {error : ResolveError} {fault : Fault}
    (isFault : error.fault? = some fault) :
    (fail error : Run α).EndsIn elsewhere (some fault) where
  ok := by
    intro value succeeded
    cases succeeded
  error := by
    intro other failed
    cases failed
    exact .inr ⟨fault, rfl, isFault⟩

/-- The second part matters only where the first one has met no fault. -/
theorem EndsIn.bind
    {run : Run α} {next : α → Run β} {first? second? : Option Fault}
    (first : run.EndsIn elsewhere first?)
    (second : first? = none → ∀ value,
      (next value).EndsIn elsewhere second?) :
    (run >>= next).EndsIn elsewhere (first?.or second?) := by
  obtain ⟨log, outcome⟩ := run
  cases outcome with
  | error error =>
      constructor
      · intro value succeeded
        cases succeeded
      · intro other failed
        cases failed
        rcases first.error error rfl with
          isElsewhere | ⟨fault, isFirst, isFault⟩
        · exact .inl isElsewhere
        · rw [isFirst, Option.some_or]
          exact .inr ⟨fault, rfl, isFault⟩
  | ok value =>
      have faultless := first.ok value rfl
      have ends := second faultless value
      rw [faultless, Option.none_or]
      exact ⟨ends.ok, ends.error⟩

theorem EndsIn.bind_pure
    {run : Run α} {fault? : Option Fault} (ends : run.EndsIn elsewhere fault?)
    (answer : α → β) :
    (run >>= fun value => pure (answer value)).EndsIn elsewhere fault? := by
  have endsBehind :=
    ends.bind fun _ value => endsIn_pure (answer value)
  rwa [Option.or_none] at endsBehind

theorem EndsIn.mono
    {other : ResolveError → Prop} {run : Run α} {fault? : Option Fault}
    (ends : run.EndsIn elsewhere fault?)
    (weakens : ∀ error, elsewhere error → other error) :
    run.EndsIn other fault? where
  ok := ends.ok
  error error failed := (ends.error error failed).imp_left (weakens error)

end Run

/-! ## Faults in evaluations -/

/-- Whatever rendering fails with is an error from elsewhere. -/
def FailsElsewhere (elsewhere : ResolveError → Prop)
    (render : Nat → Expression → Run String) : Prop :=
  ∀ level expression error,
    (render level expression).outcome = .error error → elsewhere error

section Evaluation

variable {render : Nat → Expression → Run String}

theorem FailsElsewhere.endsIn_render
    (renders : FailsElsewhere elsewhere render) (level : Nat)
    (expression : Expression) :
    (render level expression).EndsIn elsewhere none where
  ok _ _ := rfl
  error error failed := .inl (renders level expression error failed)

theorem Ending.fault?_raised_causeOfHalf
    (ending : Ending) (span : Span) (selector : String) :
    (ResolveError.raised (ending.causeOfHalf selector) span).fault? =
      some ⟨ending.faultOfHalf, span⟩ := by
  cases ending <;> rfl

theorem Ending.endsIn_evaluate
    (renders : FailsElsewhere elsewhere render) (ending : Ending)
    (level : Nat) (site : Site) (span : Span) (selector : String)
    (branches : Option Branches) :
    (ending.evaluate render level site span selector branches).EndsIn
      elsewhere (ending.fault? span) := by
  cases ending with
  | plain | specified specifier =>
      exact renders.endsIn_render level _
  | missing =>
      exact Run.endsIn_fail rfl

mutual

/-- The evaluation of pieces meets their first fault, unless the rendering of
an expression fails before. -/
theorem Pieces.endsIn_evaluate
    (renders : FailsElsewhere elsewhere render) (level : Nat)
    (pieces : Pieces) :
    (pieces.evaluate render level).EndsIn elsewhere pieces.fault? := by
  match pieces with
  | .nil =>
      exact Run.endsIn_pure ""
  | .literal c rest =>
      exact (rest.endsIn_evaluate renders level).bind_pure _
  | .nested expression rest =>
      refine (expression.endsIn_evaluate renders level).bind fun _ text => ?_
      exact (rest.endsIn_evaluate renders level).bind_pure _
  | .dangling span =>
      exact Run.endsIn_fail rfl
  | .tooDeep limit span =>
      exact Run.endsIn_fail rfl

theorem SyntaxTree.endsIn_evaluate
    (renders : FailsElsewhere elsewhere render) (level : Nat)
    (tree : SyntaxTree) :
    (tree.evaluate render level).EndsIn elsewhere tree.fault? := by
  match tree with
  | .single site span selector ending =>
      refine (selector.endsIn_evaluate renders (level + 1)).bind ?_
      intro _ selector
      exact ending.endsIn_evaluate renders level site span selector none
  | .half site span selector ifFalse ending =>
      refine (selector.endsIn_evaluate renders (level + 1)).bind ?_
      intro _ selector
      refine (ifFalse.endsIn_evaluate renders (level + 1)).bind ?_
      intro _ ifFalse
      exact Run.endsIn_fail (ending.fault?_raised_causeOfHalf span selector)
  | .branched site span selector ifFalse ifTrue ending =>
      refine (selector.endsIn_evaluate renders (level + 1)).bind ?_
      intro _ selector
      refine (ifFalse.endsIn_evaluate renders (level + 1)).bind ?_
      intro _ ifFalse
      refine (ifTrue.endsIn_evaluate renders (level + 1)).bind ?_
      intro _ ifTrue
      exact ending.endsIn_evaluate renders level site span selector _

end

end Evaluation

/-! ## Faults of templates -/

namespace Environment

variable {env : Environment}

/-- An expression fails with an error of its own, or with the wrapped one of an
entry. -/
theorem failsElsewhere_render
    {depth : Nat}
    (raises : ∀ cause span, cause.faultKind? = none →
      elsewhere (.raised cause span))
    (wraps : ∀ nesting key entry error,
      depth + nesting ≤ env.limits.maxDepth →
      env.table.templates.get? key = some entry →
      (env.resolveAt (depth + nesting + 1) entry).outcome = .error error →
      elsewhere (error.inEntry ⟨key, entry⟩)) :
    FailsElsewhere elsewhere fun nesting expression =>
      expression.render env.table env.context (env.expandAt depth nesting) := by
  intro nesting expression error failed
  have obeys :
      (expression.render env.table env.context
        (env.expandAt depth nesting)).Obeys .any elsewhere := by
    apply Expression.obeys_render
    · intro key missing
      trivial
    · intro other raised
      obtain ⟨cause, noFault, rfl⟩ := raised
      exact raises cause _ noFault
    · intro key entry found
      apply obeys_expandAt
      · intro shallow
        trivial
      · intro deep
        trivial
      · intro inner shallow innerFailed
        exact wraps nesting key entry inner shallow found innerFailed
  exact obeys.error error failed

/-- Resolving a text at a level meets the first fault of the text, unless an
expression or an entry fails before. -/
theorem endsIn_resolveAt
    {depth : Nat}
    (renders : FailsElsewhere elsewhere fun nesting expression =>
      expression.render env.table env.context (env.expandAt depth nesting))
    (template : String) :
    (env.resolveAt depth template).EndsIn elsewhere
      (templateFault? env.limits.maxNesting template) := by
  rw [resolveAt_eq_evaluate]
  exact Pieces.endsIn_evaluate renders 0 _

/-- Where all entries belong to the grammar, no template of the grammar fails
with a fault, neither its own nor one of an entry. -/
theorem faultKind?_eq_none_of_templates
    (entriesAreTemplates : ∀ key entry,
      env.table.templates.get? key = some entry →
      IsTemplate env.limits.maxNesting entry.toList)
    {depth : Nat} {template : String}
    (isTemplate : IsTemplate env.limits.maxNesting template.toList)
    {error : ResolveError}
    (failed : (env.resolveAt depth template).outcome = .error error) :
    error.cause.faultKind? = none := by
  have ends :
      (env.resolveAt depth template).EndsIn
        (fun error => error.cause.faultKind? = none)
        (templateFault? env.limits.maxNesting template) := by
    apply endsIn_resolveAt
    apply failsElsewhere_render
    · intro cause span noFault
      exact noFault
    · intro nesting key entry inner shallow found innerFailed
      have innerNoFault :=
        faultKind?_eq_none_of_templates entriesAreTemplates
          (entriesAreTemplates key entry found) innerFailed
      exact innerNoFault
  rw [templateFault?_eq_none_iff.mpr isTemplate] at ends
  rcases ends.error error failed with noFault | ⟨fault, isFault, _⟩
  · exact noFault
  · cases isFault
termination_by env.limits.maxDepth + 1 - depth
decreasing_by omega

end Environment

end Phrasebook
