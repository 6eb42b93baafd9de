import Phrasebook.Run

/-!
# Comparing two runs

Two runs that do the same things in the same order are compared event by event
and outcome by outcome. A comparison tells what the second run logs for an event
of the first one, and what error it fails with for an error of the first one.
Some events and errors may be exempt: once the first run has met one of them,
nothing is claimed of the second one.
-/

namespace Phrasebook

structure Comparison where
  event : Event → Event
  error : ResolveError → ResolveError
  exemptsEvent : Event → Prop
  exemptsError : ResolveError → Prop

variable {α β : Type}

namespace Comparison

/-- A comparison that claims something of every run. -/
def strict (event : Event → Event) (error : ResolveError → ResolveError) :
    Comparison where
  event := event
  error := error
  exemptsEvent _ := False
  exemptsError _ := False

def Exempts (comparison : Comparison) (run : Run α) : Prop :=
  (∃ event ∈ run.log, comparison.exemptsEvent event) ∨
    ∃ error, run.outcome = .error error ∧ comparison.exemptsError error

theorem not_exempts_strict
    (event : Event → Event) (error : ResolveError → ResolveError)
    (run : Run α) :
    ¬ (strict event error).Exempts run := by
  rintro (⟨_, _, exempt⟩ | ⟨_, _, exempt⟩)
  · exact exempt
  · exact exempt

inductive Outcomes (comparison : Comparison) (answers : α → β → Prop) :
    Except ResolveError α → Except ResolveError β → Prop
  | ok {value : α} {other : β} :
      answers value other →
      Outcomes comparison answers (.ok value) (.ok other)
  | error (error : ResolveError) :
      Outcomes comparison answers (.error error)
        (.error (comparison.error error))

theorem Outcomes.of_ok
    {comparison : Comparison} {answers : α → β → Prop} {value : α}
    {other : Except ResolveError β}
    (outcomes : comparison.Outcomes answers (.ok value) other) :
    ∃ otherValue, other = .ok otherValue ∧ answers value otherValue := by
  cases outcomes with
  | ok related =>
      exact ⟨_, rfl, related⟩

theorem Outcomes.of_error
    {comparison : Comparison} {answers : α → β → Prop} {error : ResolveError}
    {other : Except ResolveError β}
    (outcomes : comparison.Outcomes answers (.error error) other) :
    other = .error (comparison.error error) := by
  cases outcomes with
  | error error =>
      rfl

theorem Outcomes.mono
    {comparison : Comparison} {answers others : α → β → Prop}
    {outcome : Except ResolveError α} {other : Except ResolveError β}
    (outcomes : comparison.Outcomes answers outcome other)
    (weaker : ∀ value otherValue, answers value otherValue →
      others value otherValue) :
    comparison.Outcomes others outcome other := by
  cases outcomes with
  | ok related =>
      exact .ok (weaker _ _ related)
  | error error =>
      exact .error error

end Comparison

namespace Run

variable {comparison : Comparison} {answers : α → β → Prop}

/-- The second run does what the comparison tells of the first one, and their
answers are related. -/
def Corresponds (comparison : Comparison) (answers : α → β → Prop)
    (run : Run α) (other : Run β) : Prop :=
  comparison.Exempts run ∨
    (other.log = run.log.map comparison.event ∧
      comparison.Outcomes answers run.outcome other.outcome)

/-! ## Rules -/

theorem corresponds_pure
    {value : α} {other : β} (related : answers value other) :
    (pure value : Run α).Corresponds comparison answers (pure other) :=
  .inr ⟨rfl, .ok related⟩

theorem corresponds_fail
    {error otherError : ResolveError}
    (isOther : otherError = comparison.error error) :
    (fail error : Run α).Corresponds comparison answers
      (fail otherError : Run β) := by
  subst isOther
  exact .inr ⟨rfl, .error error⟩

theorem corresponds_emit
    {event otherEvent : Event} (isOther : otherEvent = comparison.event event) :
    (emit event).Corresponds comparison Eq (emit otherEvent) := by
  subst isOther
  exact .inr ⟨rfl, .ok rfl⟩

/-- A run whose errors stay as they are corresponds to itself. -/
theorem corresponds_refl
    {change : ResolveError → ResolveError} {run : Run α}
    (stays : ∀ error, run.outcome = .error error → change error = error) :
    run.Corresponds (.strict id change) Eq run := by
  obtain ⟨log, outcome⟩ := run
  refine .inr ⟨(List.map_id log).symm, ?_⟩
  cases outcome with
  | ok value =>
      exact .ok rfl
  | error error =>
      have same :
          (Comparison.strict id change).Outcomes Eq
            (.error error : Except ResolveError α) (.error (change error)) :=
        .error error
      rw [stays error rfl] at same
      exact same

theorem Corresponds.of_exempt_event
    {run : Run α} {other : Run β} {event : Event} (member : event ∈ run.log)
    (exempt : comparison.exemptsEvent event) :
    run.Corresponds comparison answers other :=
  .inl (.inl ⟨event, member, exempt⟩)

/-- An exempt part makes the whole exempt. Otherwise the logs of the parts are
put together in both runs, and what comes next begins with related answers. -/
theorem Corresponds.bind
    {γ δ : Type} {results : γ → δ → Prop} {run : Run α} {other : Run β}
    {next : α → Run γ} {otherNext : β → Run δ}
    (first : run.Corresponds comparison answers other)
    (second : ∀ value otherValue, answers value otherValue →
      (next value).Corresponds comparison results (otherNext otherValue)) :
    (run >>= next).Corresponds comparison results (other >>= otherNext) := by
  obtain ⟨log, outcome⟩ := run
  obtain ⟨otherLog, otherOutcome⟩ := other
  rcases first with (⟨event, member, exempt⟩ | ⟨error, failed, exempt⟩) |
    ⟨logs, outcomes⟩
  · cases outcome with
    | error error =>
        exact .of_exempt_event member exempt
    | ok value =>
        exact .of_exempt_event (List.mem_append_left _ member) exempt
  · cases failed
    exact .inl (.inr ⟨error, rfl, exempt⟩)
  · cases logs
    cases outcomes with
    | error error =>
        exact .inr ⟨rfl, .error error⟩
    | ok related =>
        rename_i value otherValue
        rcases second value otherValue related with
          (⟨event, member, exempt⟩ | ⟨error, failed, exempt⟩) |
            ⟨nextLogs, nextOutcomes⟩
        · exact .of_exempt_event (List.mem_append_right _ member) exempt
        · exact .inl (.inr ⟨error, failed, exempt⟩)
        · refine .inr ⟨?_, nextOutcomes⟩
          have joined :
              log.map comparison.event ++ (otherNext otherValue).log =
                (log ++ (next value).log).map comparison.event := by
            rw [nextLogs, List.map_append]
          exact joined

/-- A change of errors on both sides that the comparison knows nothing of. -/
theorem Corresponds.mapError
    {run : Run α} {other : Run β} {change : ResolveError → ResolveError}
    (corresponds : run.Corresponds comparison answers other)
    (commutes : ∀ error,
      comparison.error (change error) = change (comparison.error error))
    (keepsExempt : ∀ error, comparison.exemptsError error →
      comparison.exemptsError (change error)) :
    (run.mapError change).Corresponds comparison answers
      (other.mapError change) := by
  obtain ⟨log, outcome⟩ := run
  obtain ⟨otherLog, otherOutcome⟩ := other
  rcases corresponds with (⟨event, member, exempt⟩ | ⟨error, failed, exempt⟩) |
    ⟨logs, outcomes⟩
  · exact .of_exempt_event member exempt
  · cases failed
    exact .inl (.inr ⟨change error, rfl, keepsExempt error exempt⟩)
  · refine .inr ⟨logs, ?_⟩
    cases outcomes with
    | ok related =>
        exact .ok related
    | error error =>
        have changed :
            comparison.Outcomes answers (.error (change error))
              (.error (comparison.error (change error))) :=
          .error (change error)
        rw [commutes] at changed
        exact changed

theorem Corresponds.mono
    {others : α → β → Prop} {run : Run α} {other : Run β}
    (corresponds : run.Corresponds comparison answers other)
    (weaker : ∀ value otherValue, answers value otherValue →
      others value otherValue) :
    run.Corresponds comparison others other := by
  rcases corresponds with exempt | ⟨logs, outcomes⟩
  · exact .inl exempt
  · exact .inr ⟨logs, outcomes.mono weaker⟩

/-! ## Parts of runs -/

theorem bind_of_error
    {run : Run α} {error : ResolveError} (failed : run.outcome = .error error)
    (next : α → Run β) :
    run >>= next = ⟨run.log, .error error⟩ := by
  obtain ⟨log, outcome⟩ := run
  cases failed
  rfl

theorem bind_of_ok
    {run : Run α} {value : α} (answered : run.outcome = .ok value)
    (next : α → Run β) :
    run >>= next = ⟨run.log ++ (next value).log, (next value).outcome⟩ := by
  obtain ⟨log, outcome⟩ := run
  cases answered
  rfl

/-! ## What two runs have in common -/

theorem Corresponds.of_not_exempt
    {run : Run α} {other : Run β}
    (corresponds : run.Corresponds comparison answers other)
    (notExempt : ¬ comparison.Exempts run) :
    other.log = run.log.map comparison.event ∧
      comparison.Outcomes answers run.outcome other.outcome :=
  corresponds.resolve_left notExempt

/-- Equal answers leave only the errors to differ. -/
theorem outcome_of_outcomes
    {run other : Run α}
    (outcomes : comparison.Outcomes Eq run.outcome other.outcome) :
    other.outcome = run.outcome.mapError comparison.error := by
  generalize run.outcome = outcome at outcomes
  generalize other.outcome = otherOutcome at outcomes
  cases outcomes with
  | ok same =>
      rw [same]
      rfl
  | error error =>
      rfl

theorem mapError_id (outcome : Except ResolveError α) :
    outcome.mapError id = outcome := by
  cases outcome with
  | ok value =>
      rfl
  | error error =>
      rfl

/-- A comparison that changes neither events nor errors tells that the runs are
the same. -/
theorem Corresponds.eq_of_not_exempt
    {run other : Run α} (corresponds : run.Corresponds comparison Eq other)
    (sameEvents : comparison.event = id) (sameErrors : comparison.error = id)
    (notExempt : ¬ comparison.Exempts run) :
    other = run := by
  obtain ⟨logs, outcomes⟩ := corresponds.of_not_exempt notExempt
  have sameOutcome := outcome_of_outcomes outcomes
  rw [sameEvents, List.map_id] at logs
  rw [sameErrors, mapError_id] at sameOutcome
  obtain ⟨log, outcome⟩ := other
  cases logs
  cases sameOutcome
  rfl

end Run

end Phrasebook
