import Phrasebook.Proofs.Contexts
import Phrasebook.Proofs.RunLaws

/-!
# Rendering in other environments

An expression is rendered alike wherever it stands: only the places of its
errors tell where that is. The other environment may have another table, other
limits and another context, as far as keys are present in both tables and the
contexts are read alike. Where a key is expanded, the runs of the two entries
have to correspond in turn.
-/

namespace Phrasebook

variable {comparison : Comparison} {change : Nat → Nat}

namespace Expression

section Evaluation

variable {expression : Expression} {table otherTable : Table}
  {context other : Context} {known : Value → Prop}
  {expand otherExpand : String → String → Run String}

/-- A key is expanded alike, or missing in both tables. -/
theorem corresponds_evaluate
    (moves : comparison.Moves change)
    (contexts : comparison.Contexts known context other)
    (misses : ∀ key, comparison.event (.keyMissing key) = .keyMissing key)
    (expands : ∀ key,
      Option.Rel
        (fun entry otherEntry => (expand key entry).Corresponds comparison Eq
          (otherExpand key otherEntry))
        (table.templates.get? key) (otherTable.templates.get? key)) :
    (expression.evaluate table context expand).Corresponds comparison
      (Shares (Value.WrittenAlike context other))
      ((expression.moved change).evaluate otherTable other otherExpand) := by
  have sameSelector :
      (expression.moved change).selector = expression.selector :=
    rfl
  have sameBranches :
      (expression.moved change).branches = expression.branches :=
    rfl
  have sameSite : (expression.moved change).site = expression.site := rfl
  unfold evaluate
  simp only [sameSelector, sameBranches, sameSite]
  cases Selector.ofText expression.selector with
  | attr =>
      refine (corresponds_require moves contexts.attr).bind ?_
      rintro attr _ ⟨rfl, isKnown⟩
      split
      · exact corresponds_fail moves _
      · have sameText :
            attr.selfText other.onOwner = attr.selfText context.onOwner :=
          contexts.written isKnown
        rw [sameText]
        exact Run.corresponds_pure ⟨rfl, rfl⟩
  | bareSubject subject =>
      exact corresponds_fail moves _
  | argument index =>
      refine (corresponds_require moves (contexts.argument index)).bind ?_
      rintro value _ ⟨rfl, isKnown⟩
      exact Run.corresponds_pure
        ⟨rfl, (contexts.written isKnown).selectBranch _⟩
  | key key =>
      have expandsKey := expands key
      simp only
      generalize table.templates.get? key = found at expandsKey
      generalize otherTable.templates.get? key = otherFound at expandsKey
      cases expandsKey with
      | none =>
          refine (Run.corresponds_emit (misses key).symm).bind ?_
          rintro _ _ _
          exact Run.corresponds_pure ⟨rfl, rfl⟩
      | some entriesAlike =>
          simp only
          split
          · exact Run.corresponds_pure ⟨rfl, rfl⟩
          · refine entriesAlike.bind ?_
            rintro text _ rfl
            rw [selectBranch_text]
            exact Run.corresponds_pure ⟨rfl, rfl⟩
  | attrPart part =>
      refine (corresponds_require moves contexts.attr).bind ?_
      rintro attr _ ⟨rfl, isKnown⟩
      refine (corresponds_attributePart moves contexts isKnown part).bind ?_
      rintro value _ ⟨rfl, alike⟩
      exact Run.corresponds_pure ⟨rfl, alike.selectBranch _⟩
  | field subject name =>
      refine (corresponds_subjectField moves contexts subject name).bind ?_
      rintro value _ ⟨rfl, isKnown⟩
      cases value with
      | attr attr =>
          simp only
          split
          · rename_i branches _
            refine (corresponds_attributeCondition moves contexts
              isKnown).bind ?_
            rintro condition _ ⟨rfl, alike⟩
            exact Run.corresponds_pure
              ⟨rfl, alike.selectBranch (some branches)⟩
          · have sameText :
                attr.selfText other.onOwner = attr.selfText context.onOwner :=
              contexts.written isKnown
            rw [sameText]
            exact Run.corresponds_pure ⟨rfl, rfl⟩
      | _ =>
          exact Run.corresponds_pure
            ⟨rfl, (contexts.written isKnown).selectBranch _⟩
  | fieldPart subject name part =>
      refine (corresponds_subjectField moves contexts subject name).bind ?_
      rintro value _ ⟨rfl, isKnown⟩
      cases value with
      | attr attr =>
          refine (corresponds_attributePart moves contexts isKnown part).bind ?_
          rintro value _ ⟨rfl, alike⟩
          exact Run.corresponds_pure ⟨rfl, alike.selectBranch _⟩
      | _ =>
          exact corresponds_fail moves _
  | unknownMain main =>
      exact corresponds_fail moves _
  | nestedAttribute =>
      exact corresponds_fail moves _
  | tooLong =>
      exact corresponds_fail moves _

theorem corresponds_render
    (moves : comparison.Moves change)
    (contexts : comparison.Contexts known context other)
    (misses : ∀ key, comparison.event (.keyMissing key) = .keyMissing key)
    (expands : ∀ key,
      Option.Rel
        (fun entry otherEntry => (expand key entry).Corresponds comparison Eq
          (otherExpand key otherEntry))
        (table.templates.get? key) (otherTable.templates.get? key)) :
    (expression.render table context expand).Corresponds comparison Eq
      ((expression.moved change).render otherTable other otherExpand) := by
  refine (corresponds_evaluate moves contexts misses expands).bind ?_
  rintro value _ ⟨rfl, alike⟩
  exact corresponds_write moves alike

end Evaluation

end Expression

/-! ## Resolving -/

namespace Environment

def withLimits (env : Environment) (limits : Limits) : Environment :=
  { env with limits := limits }

def withContext (env : Environment) (context : Context) : Environment :=
  { env with context := context }

/-- Renders an expression for a text that stands at a level. -/
def renderAt (env : Environment) (depth nesting : Nat)
    (expression : Expression) : Run String :=
  expression.render env.table env.context (env.expandAt depth nesting)

theorem resolveAt_eq_complete
    (env : Environment) (depth : Nat) (template : String) :
    env.resolveAt depth template =
      Scan.complete env.limits.maxNesting (env.renderAt depth) {}
        template.toList := by
  rw [resolveAt]
  rfl

variable {env other : Environment} {depth otherDepth : Nat}

theorem expandAt_of_le
    {nesting : Nat} {key entry : String}
    (within : depth + nesting ≤ env.limits.maxDepth) :
    env.expandAt depth nesting key entry = (do
      Run.emit (.expanding key (depth + nesting))
      (env.resolveAt (depth + nesting + 1) entry).mapError
        (.inEntry ⟨key, entry⟩)) :=
  if_pos within

theorem expandAt_of_lt
    {nesting : Nat} {key entry : String}
    (beyond : env.limits.maxDepth < depth + nesting) :
    env.expandAt depth nesting key entry =
      ⟨[.limitReached key (depth + nesting) env.limits.maxDepth],
        .ok env.limits.recursionSentinel⟩ :=
  if_neg (Nat.not_le.mpr beyond)

theorem expanding_mem_expandAt
    {nesting : Nat} (key entry : String)
    (within : depth + nesting ≤ env.limits.maxDepth) :
    .expanding key (depth + nesting) ∈
      (env.expandAt depth nesting key entry).log := by
  rw [expandAt_of_le within]
  exact List.mem_cons_self

/-- Entries are expanded alike when they are resolved alike one level deeper and
neither is too deep. -/
theorem corresponds_expandAt
    {nesting : Nat} {key entry : String}
    (wraps : ∀ error, comparison.error (error.inEntry ⟨key, entry⟩) =
      (comparison.error error).inEntry ⟨key, entry⟩)
    (keepsExempt : ∀ error, comparison.exemptsError error →
      comparison.exemptsError (error.inEntry ⟨key, entry⟩))
    (within : depth + nesting ≤ env.limits.maxDepth)
    (otherWithin : otherDepth + nesting ≤ other.limits.maxDepth)
    (expanding : .expanding key (otherDepth + nesting) =
      comparison.event (.expanding key (depth + nesting)))
    (inner : (env.resolveAt (depth + nesting + 1) entry).Corresponds
      comparison Eq (other.resolveAt (otherDepth + nesting + 1) entry)) :
    (env.expandAt depth nesting key entry).Corresponds comparison Eq
      (other.expandAt otherDepth nesting key entry) := by
  rw [expandAt_of_le within, expandAt_of_le otherWithin]
  refine (Run.corresponds_emit expanding).bind ?_
  intro _ _ _
  exact inner.mapError wraps keepsExempt

/-- Beyond the limit the sentinel stands for either entry. -/
theorem corresponds_expandAt_of_lt
    {nesting : Nat} {key entry otherEntry : String}
    (beyond : env.limits.maxDepth < depth + nesting)
    (otherBeyond : other.limits.maxDepth < otherDepth + nesting)
    (sameSentinel :
      env.limits.recursionSentinel = other.limits.recursionSentinel)
    (reached :
      .limitReached key (otherDepth + nesting) other.limits.maxDepth =
        comparison.event
          (.limitReached key (depth + nesting) env.limits.maxDepth)) :
    (env.expandAt depth nesting key entry).Corresponds comparison Eq
      (other.expandAt otherDepth nesting key otherEntry) := by
  rw [expandAt_of_lt beyond, expandAt_of_lt otherBeyond]
  exact .inr ⟨congrArg (· :: []) reached, .ok sameSentinel⟩

/-- Two environments in which expressions are rendered alike wherever entries
are expanded alike. -/
structure Alike (comparison : Comparison) (change : Nat → Nat)
    (env other : Environment) : Prop where
  moves : comparison.Moves change
  misses : ∀ key, comparison.event (.keyMissing key) = .keyMissing key
  nests : other.limits.maxNesting = env.limits.maxNesting ∨
    (env.limits.maxNesting ≤ other.limits.maxNesting ∧ ∀ span,
      comparison.exemptsError
        (.raised (.nestingTooDeep env.limits.maxNesting) span))
  contexts : ∃ known, comparison.Contexts known env.context other.context

theorem Alike.conforms_renderAt
    (alike : Alike comparison change env other)
    (expands : ∀ nesting key,
      Option.Rel
        (fun entry otherEntry =>
          (env.expandAt depth nesting key entry).Corresponds comparison Eq
            (other.expandAt otherDepth nesting key otherEntry))
        (env.table.templates.get? key) (other.table.templates.get? key)) :
    Scan.Conforms comparison change env.limits.maxNesting
      other.limits.maxNesting (env.renderAt depth)
      (other.renderAt otherDepth) where
  moves := alike.moves
  limits := alike.nests
  renders nesting _ := by
    obtain ⟨known, contexts⟩ := alike.contexts
    exact Expression.corresponds_render alike.moves contexts alike.misses
      (expands nesting)

/-- Two runs over the same template stand in the same places. -/
theorem corresponds_resolveAt
    (conforms : Scan.Conforms comparison id env.limits.maxNesting
      other.limits.maxNesting (env.renderAt depth)
      (other.renderAt otherDepth))
    (template : String) :
    (env.resolveAt depth template).Corresponds comparison Eq
      (other.resolveAt otherDepth template) := by
  have follows : Scan.Follows id "" 0 {} {} :=
    ⟨⟨rfl, (Scan.moved_id {}).symm⟩, fun _ => rfl⟩
  rw [resolveAt_eq_complete, resolveAt_eq_complete]
  have completes := Scan.corresponds_complete conforms template.toList follows
    fun _ _ _ => rfl
  refine completes.mono ?_
  rintro text _ rfl
  exact String.empty_append.symm

/-- Runs some levels apart correspond where the expansion of a key does as soon
as all runs one level deeper do. -/
theorem Alike.corresponds_of_expandAt
    (alike : Alike comparison id env other) (levels : Nat)
    (expands : ∀ depth nesting key,
      (depth + nesting ≤ env.limits.maxDepth → ∀ template,
        (env.resolveAt (depth + nesting + 1) template).Corresponds comparison Eq
          (other.resolveAt (depth + nesting + 1 + levels) template)) →
      Option.Rel
        (fun entry otherEntry =>
          (env.expandAt depth nesting key entry).Corresponds comparison Eq
            (other.expandAt (depth + levels) nesting key otherEntry))
        (env.table.templates.get? key) (other.table.templates.get? key))
    (depth : Nat) (template : String) :
    (env.resolveAt depth template).Corresponds comparison Eq
      (other.resolveAt (depth + levels) template) := by
  -- Entries lie deeper than what asks for them: the levels left to go shrink.
  apply corresponds_resolveAt
  apply alike.conforms_renderAt
  intro nesting key
  apply expands
  intro within
  exact alike.corresponds_of_expandAt levels expands (depth + nesting + 1)
termination_by env.limits.maxDepth + 1 - depth
decreasing_by omega

/-- Where only the contexts differ, all keys are expanded alike. -/
theorem Alike.corresponds_withContext
    {context : Context}
    (alike : Alike comparison id env (env.withContext context))
    (sameEvents : comparison.event = id) (sameErrors : comparison.error = id)
    (keepsExempt : ∀ entry error, comparison.exemptsError error →
      comparison.exemptsError (error.inEntry entry))
    (depth : Nat) (template : String) :
    (env.resolveAt depth template).Corresponds comparison Eq
      ((env.withContext context).resolveAt depth template) := by
  refine alike.corresponds_of_expandAt 0 ?_ depth template
  intro depth nesting key inner
  refine rel_self _ fun entry => ?_
  by_cases within : depth + nesting ≤ env.limits.maxDepth
  · refine corresponds_expandAt ?_ (keepsExempt _) within within ?_
      (inner within entry)
    · intro error
      rw [sameErrors]
      rfl
    · rw [sameEvents]
      rfl
  · have beyond := Nat.not_le.mp within
    refine corresponds_expandAt_of_lt beyond beyond rfl ?_
    rw [sameEvents]
    rfl

end Environment

/-! ## The same text in another place -/

def movedBy (change : Nat → Nat) : Comparison :=
  .strict id (ResolveError.moved change)

namespace Environment

theorem expandAt_error
    {env : Environment} {depth nesting : Nat} {key entry : String}
    {error : ResolveError}
    (failed : (env.expandAt depth nesting key entry).outcome = .error error) :
    ∃ inner : ResolveError, error = inner.inEntry ⟨key, entry⟩ := by
  by_cases within : depth + nesting ≤ env.limits.maxDepth
  · rw [expandAt_of_le within] at failed
    rcases Run.error_of_bind failed with noError | ⟨_, _, innerFailed⟩
    · cases noError
    · obtain ⟨inner, _, isError⟩ := Run.error_of_mapError innerFailed
      exact ⟨inner, isError⟩
  · rw [expandAt_of_lt (Nat.not_le.mp within)] at failed
    cases failed

/-- Expressions are rendered alike wherever the text stands. The errors of
entries do not tell the place, since they point into the entries. -/
theorem conforms_movedBy
    (env : Environment) (depth : Nat) (change : Nat → Nat) :
    Scan.Conforms (movedBy change) change env.limits.maxNesting
      env.limits.maxNesting (env.renderAt depth) (env.renderAt depth) := by
  have alike : Alike (movedBy change) change env env :=
    ⟨fun _ _ => rfl, fun _ => rfl, .inl rfl, _, .refl _ _⟩
  refine alike.conforms_renderAt fun nesting key => rel_self _ fun entry => ?_
  apply Run.corresponds_refl
  intro error failed
  obtain ⟨inner, rfl⟩ := expandAt_error failed
  exact ResolveError.moved_inEntry change _ inner

/-- The rest of a pass in another place has the same log, and its outcome has
the places changed and the text that was written before in front. -/
theorem complete_moved
    (env : Environment) (depth : Nat) {change : Nat → Nat} {written : String}
    {place : Nat} {scan other : Scan} (text : List Char)
    (follows : Scan.Follows change written place scan other)
    (steady : ∀ p, place ≤ p → p < place + text.length →
      change (p + 1) = change p + 1) :
    (other.complete env.limits.maxNesting (env.renderAt depth) text).log =
        (scan.complete env.limits.maxNesting (env.renderAt depth) text).log ∧
      (movedBy change).Outcomes (fun first second => second = written ++ first)
        (scan.complete env.limits.maxNesting (env.renderAt depth) text).outcome
        (other.complete env.limits.maxNesting
          (env.renderAt depth) text).outcome := by
  have completes :=
    Scan.corresponds_complete (env.conforms_movedBy depth change) text follows
      steady
  obtain ⟨logs, outcomes⟩ :=
    completes.of_not_exempt (Comparison.not_exempts_strict _ _ _)
  exact ⟨logs.trans (List.map_id _), outcomes⟩

end Environment

end Phrasebook
