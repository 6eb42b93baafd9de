import Phrasebook.Proofs.TwoPasses

/-!
# Laws of runs

What holds of the logs and of the errors of runs is carried from the parts of a
run to the whole of it. Where an expression is rendered, three things can
happen: it only reads values, it misses a key, or it expands an entry.
-/

namespace Phrasebook

/-- A property of logs that an empty log has, and with two logs the longer one
that they make up. -/
structure LogLaw where
  holds : List Event → Prop
  nil : holds []
  append : ∀ {first second : List Event},
    holds first → holds second → holds (first ++ second)

def LogLaw.silent : LogLaw where
  holds log := log = []
  nil := rfl
  append := by
    intro first second firstEmpty secondEmpty
    rw [firstEmpty, secondEmpty, List.append_nil]

def LogLaw.any : LogLaw where
  holds _ := True
  nil := trivial
  append _ _ := trivial

namespace Run

variable {α β : Type} {law : LogLaw} {expected : ResolveError → Prop}

/-- The log of a run has a law, and its error is one of the expected ones. -/
structure Obeys (law : LogLaw) (expected : ResolveError → Prop)
    (run : Run α) : Prop where
  log : law.holds run.log
  error : ∀ error, run.outcome = .error error → expected error

theorem obeys_pure (value : α) : (pure value : Run α).Obeys law expected where
  log := law.nil
  error := by
    intro other failed
    cases failed

theorem obeys_fail
    {error : ResolveError} (isExpected : expected error) :
    (fail error : Run α).Obeys law expected where
  log := law.nil
  error := by
    intro other failed
    cases failed
    exact isExpected

/-- What comes next is looked at only for an answer that the first part
gives. -/
theorem Obeys.bind
    {run : Run α} {next : α → Run β} (first : run.Obeys law expected)
    (second : ∀ value, run.outcome = .ok value →
      (next value).Obeys law expected) :
    (run >>= next).Obeys law expected := by
  obtain ⟨log, outcome⟩ := run
  cases outcome with
  | error error =>
      refine ⟨first.log, ?_⟩
      intro other failed
      cases failed
      exact first.error error rfl
  | ok value =>
      obtain ⟨nextLog, nextError⟩ := second value rfl
      exact ⟨law.append first.log nextLog, nextError⟩

theorem Obeys.mono
    {run : Run α} {other : LogLaw} {others : ResolveError → Prop}
    (obeys : run.Obeys law expected)
    (logs : law.holds run.log → other.holds run.log)
    (errors : ∀ error, expected error → others error) :
    run.Obeys other others where
  log := logs obeys.log
  error := fun error isError => errors error (obeys.error error isError)

theorem error_of_bind
    {run : Run α} {next : α → Run β} {error : ResolveError}
    (failed : (run >>= next).outcome = .error error) :
    run.outcome = .error error ∨
      ∃ value, run.outcome = .ok value ∧
        (next value).outcome = .error error := by
  obtain ⟨log, outcome⟩ := run
  cases outcome with
  | error other =>
      cases failed
      exact .inl rfl
  | ok value =>
      exact .inr ⟨value, rfl, failed⟩

theorem error_of_mapError
    {run : Run α} {change : ResolveError → ResolveError}
    {error : ResolveError}
    (failed : (run.mapError change).outcome = .error error) :
    ∃ inner, run.outcome = .error inner ∧ error = change inner := by
  obtain ⟨log, outcome⟩ := run
  cases outcome with
  | error inner =>
      cases failed
      exact ⟨inner, rfl, rfl⟩
  | ok value =>
      cases failed

theorem Obeys.of_silent
    {run : Run α} (obeys : run.Obeys .silent expected) :
    run.Obeys law expected := by
  refine obeys.mono (fun noLog => ?_) (fun _ isExpected => isExpected)
  rw [show run.log = [] from noLog]
  exact law.nil

end Run

/-! ## What an expression does -/

namespace Expression

variable {α : Type}

/-- An error of an expression itself: it is met at the expression's place, and
no fault of the grammar. -/
def Raises (expression : Expression) (error : ResolveError) : Prop :=
  ∃ cause, cause.faultKind? = none ∧ error = .raised cause expression.span

/-- A run that reads values for an expression, and no entry. -/
abbrev ReadsOnly (expression : Expression) (run : Run α) : Prop :=
  run.Obeys .silent expression.Raises

variable {expression : Expression}

theorem readsOnly_fail
    {cause : Cause} (noFault : cause.faultKind? = none) :
    expression.ReadsOnly (expression.fail cause : Run α) :=
  Run.obeys_fail ⟨cause, noFault, rfl⟩

theorem readsOnly_require
    {cause : Cause} (noFault : cause.faultKind? = none) (answer : Option α) :
    expression.ReadsOnly (expression.require cause answer) := by
  cases answer with
  | none =>
      exact readsOnly_fail noFault
  | some value =>
      exact Run.obeys_pure value

theorem readsOnly_subjectField
    (context : Context) (subject : SubjectRole) (name : String) :
    expression.ReadsOnly (expression.subjectField context subject name) :=
  (readsOnly_require rfl _).bind fun _ _ => readsOnly_require rfl _

theorem readsOnly_attributePart
    (attr : Attribute) (part : AttributePart) :
    expression.ReadsOnly (expression.attributePart attr part) := by
  cases part with
  | enabled =>
      exact (readsOnly_require rfl _).bind fun _ _ => Run.obeys_pure _
  | slot index =>
      exact readsOnly_require rfl _
  | unknown text =>
      exact readsOnly_fail rfl

theorem readsOnly_attributeCondition (attr : Attribute) :
    expression.ReadsOnly (expression.attributeCondition attr) := by
  unfold attributeCondition
  split
  · exact Run.obeys_pure _
  · exact readsOnly_require rfl _

theorem readsOnly_write (onOwner : Bool) (value : Value) :
    expression.ReadsOnly (expression.write onOwner value) := by
  unfold write
  split
  · split
    · exact Run.obeys_pure _
    · exact readsOnly_fail rfl
  · exact Run.obeys_pure _

theorem write_text (onOwner : Bool) (content : String) :
    expression.write onOwner (.text content) = pure content := by
  unfold write
  split
  · rename_i isNumber
    cases isNumber
  · rfl

section Rendering

variable {table : Table} {context : Context}
  {expand : String → String → Run String}

/-- Only a key has an entry expanded. -/
theorem readsOnly_evaluate
    (notKey : ∀ key, Selector.ofText expression.selector ≠ .key key) :
    expression.ReadsOnly (expression.evaluate table context expand) := by
  unfold evaluate
  split
  · refine (readsOnly_require rfl _).bind fun attr _ => ?_
    split
    · exact readsOnly_fail rfl
    · exact Run.obeys_pure _
  · exact readsOnly_fail rfl
  · exact (readsOnly_require rfl _).bind fun _ _ => Run.obeys_pure _
  · rename_i key isKey
    exact absurd isKey (notKey key)
  · exact (readsOnly_require rfl _).bind fun attr _ =>
      (readsOnly_attributePart attr _).bind fun _ _ => Run.obeys_pure _
  · refine (readsOnly_subjectField _ _ _).bind fun value _ => ?_
    split
    · split
      · exact (readsOnly_attributeCondition _).bind fun _ _ =>
          Run.obeys_pure _
      · exact Run.obeys_pure _
    · exact Run.obeys_pure _
  · refine (readsOnly_subjectField _ _ _).bind fun value _ => ?_
    split
    · exact (readsOnly_attributePart _ _).bind fun _ _ => Run.obeys_pure _
    · exact readsOnly_fail rfl
  · exact readsOnly_fail rfl
  · exact readsOnly_fail rfl
  · exact readsOnly_fail rfl

theorem render_of_missing
    {key : String} (isKey : Selector.ofText expression.selector = .key key)
    (missing : table.templates.get? key = none) :
    expression.render table context expand =
      ⟨[.keyMissing key], .ok key⟩ := by
  simp only [render, evaluate, isKey, missing, bind_assoc, pure_bind,
    write_text]
  rfl

theorem render_of_found
    {key entry : String}
    (isKey : Selector.ofText expression.selector = .key key)
    (found : table.templates.get? key = some entry)
    (outside : expression.site ≠ .selector) :
    expression.render table context expand = expand key entry := by
  simp only [render, evaluate, isKey, found, outside, if_false, bind_assoc,
    pure_bind, selectBranch_text, write_text, bind_pure]

theorem render_of_argument
    {index : Nat} {value : Value}
    (isArgument : Selector.ofText expression.selector = .argument index)
    (hasArgument : context.args[index]? = some value) :
    expression.render table context expand =
      expression.write context.onOwner
        (selectBranch expression.branches value) := by
  simp only [render, evaluate, isArgument, hasArgument, require, pure_bind]

/-- Rendering an expression reads values, or misses a key and writes the key,
or is the expansion of an entry. -/
theorem render_cases
    (expression : Expression) (table : Table) (context : Context)
    (expand : String → String → Run String) :
    expression.ReadsOnly (expression.render table context expand) ∨
      (∃ key, table.templates.get? key = none ∧
        expression.render table context expand =
          ⟨[.keyMissing key], .ok key⟩) ∨
      ∃ key entry, table.templates.get? key = some entry ∧
        expression.render table context expand = expand key entry := by
  by_cases isKey : ∃ key, Selector.ofText expression.selector = .key key
  · obtain ⟨key, selectorIsKey⟩ := isKey
    cases found : table.templates.get? key with
    | none =>
        exact .inr (.inl ⟨key, found, render_of_missing selectorIsKey found⟩)
    | some entry =>
        by_cases inSelector : expression.site = .selector
        · left
          simp only [render, evaluate, selectorIsKey, found, inSelector,
            if_true, pure_bind, write_text]
          exact Run.obeys_pure key
        · exact .inr (.inr ⟨key, entry, found,
            render_of_found selectorIsKey found inSelector⟩)
  · refine .inl ((readsOnly_evaluate ?_).bind fun value _ =>
      readsOnly_write _ value)
    intro key selectorIsKey
    exact isKey ⟨key, selectorIsKey⟩

theorem obeys_render
    {law : LogLaw} {expected : ResolveError → Prop}
    (misses : ∀ key, table.templates.get? key = none →
      law.holds [.keyMissing key])
    (raises : ∀ error, expression.Raises error → expected error)
    (expands : ∀ key entry, table.templates.get? key = some entry →
      (expand key entry).Obeys law expected) :
    (expression.render table context expand).Obeys law expected := by
  rcases render_cases expression table context expand with
    readsOnly | ⟨key, missing, equality⟩ | ⟨key, entry, found, equality⟩
  · exact readsOnly.of_silent.mono id raises
  · rw [equality]
    refine ⟨misses key missing, ?_⟩
    intro error failed
    cases failed
  · rw [equality]
    exact expands key entry found

end Rendering

end Expression

/-! ## What an expansion does -/

namespace Environment

variable {env : Environment} {depth nesting : Nat} {key entry : String}

/-- An expansion is logged in front of its entry, and wraps the entry's errors.
Past the deepest level there is only the limit. -/
theorem obeys_expandAt
    {law : LogLaw} {expected : ResolveError → Prop}
    (expanding : depth + nesting ≤ env.limits.maxDepth →
      law.holds (.expanding key (depth + nesting) ::
        (env.resolveAt (depth + nesting + 1) entry).log))
    (limitReached : env.limits.maxDepth < depth + nesting →
      law.holds
        [.limitReached key (depth + nesting) env.limits.maxDepth])
    (wraps : ∀ error, depth + nesting ≤ env.limits.maxDepth →
      (env.resolveAt (depth + nesting + 1) entry).outcome = .error error →
      expected (error.inEntry ⟨key, entry⟩)) :
    (env.expandAt depth nesting key entry).Obeys law expected := by
  unfold expandAt
  split
  · rename_i shallow
    refine ⟨expanding shallow, ?_⟩
    intro error failed
    obtain ⟨inner, innerFailed, rfl⟩ := Run.error_of_mapError failed
    exact wraps inner shallow innerFailed
  · rename_i deep
    refine ⟨limitReached (Nat.not_le.mp deep), ?_⟩
    intro error failed
    cases failed

end Environment

end Phrasebook
