import Phrasebook.Proofs.Expansion
import Phrasebook.Proofs.KeyExpressions

/-!
# Limits that are not met

A run that meets none of its limits does not depend on them: other limits that
leave it as much room give the same log and the same outcome. A run meets a
limit where the sentinel stands for an entry, or where an expression stands too
deep to be read.
-/

namespace Phrasebook

/-- A run meets neither a level too deep for an entry nor one too deep for an
expression. -/
structure Run.MeetsNoLimit (run : Run String) : Prop where
  depth : ∀ key depth maxDepth, .limitReached key depth maxDepth ∉ run.log
  nesting : ∀ error deepest, run.outcome = .error error →
    error.cause ≠ .nestingTooDeep deepest

/-- A run under other limits is compared with one that neither meets a limit of
its own nor expands an entry that lies too deep for the other limits. -/
def Limits.transparent (limits : Limits) : Comparison where
  event := id
  error := id
  exemptsEvent
    | .keyMissing _ => False
    | .expanding _ depth => limits.maxDepth < depth
    | .limitReached _ _ _ => True
  exemptsError error := ∃ deepest, error.cause = .nestingTooDeep deepest

theorem Run.MeetsNoLimit.not_exempts
    {run : Run String} (meetsNone : run.MeetsNoLimit) {limits : Limits}
    (deepEnough : ∀ key depth, .expanding key depth ∈ run.log →
      depth ≤ limits.maxDepth) :
    ¬ limits.transparent.Exempts run := by
  rintro (⟨event, member, exempt⟩ | ⟨error, failed, deepest, isCause⟩)
  · cases event with
    | keyMissing key =>
        exact exempt
    | expanding key depth =>
        exact Nat.not_lt.mpr (deepEnough key depth member) exempt
    | limitReached key depth maxDepth =>
        exact meetsNone.depth key depth maxDepth member
  · exact meetsNone.nesting error deepest failed isCause

namespace Environment

variable {env : Environment} {limits : Limits}

/-- Larger limits change nothing in a run that meets no limit. -/
theorem corresponds_withLimits
    (nests : env.limits.maxNesting ≤ limits.maxNesting) (depth : Nat)
    (template : String) :
    (env.resolveAt depth template).Corresponds limits.transparent Eq
      ((env.withLimits limits).resolveAt depth template) := by
  have alike : Alike limits.transparent id env (env.withLimits limits) :=
    ⟨fun _ _ => rfl, fun _ => rfl, .inr ⟨nests, fun _ => ⟨_, rfl⟩⟩, _,
      .refl _ _⟩
  refine alike.corresponds_of_expandAt 0 ?_ depth template
  intro depth nesting key inner
  refine rel_self _ fun entry => ?_
  -- An entry that only the other limits refuse to expand makes the run exempt.
  by_cases within : depth + nesting ≤ env.limits.maxDepth
  · by_cases otherWithin : depth + nesting ≤ limits.maxDepth
    · exact corresponds_expandAt (fun _ => rfl) (fun _ exempt => exempt) within
        otherWithin rfl (inner within entry)
    · exact .of_exempt_event (expanding_mem_expandAt key entry within)
        (Nat.not_le.mp otherWithin)
  · have reached :
        .limitReached key (depth + nesting) env.limits.maxDepth ∈
          (env.expandAt depth nesting key entry).log := by
      rw [expandAt_of_lt (Nat.not_le.mp within)]
      exact List.mem_cons_self
    exact .of_exempt_event reached trivial

theorem resolve_withLimits
    {template : String} (meetsNone : (env.resolve template).MeetsNoLimit)
    (nests : env.limits.maxNesting ≤ limits.maxNesting)
    (deepEnough : ∀ key depth,
      .expanding key depth ∈ (env.resolve template).log →
      depth ≤ limits.maxDepth) :
    (env.withLimits limits).resolve template = env.resolve template :=
  (corresponds_withLimits nests 0 template).eq_of_not_exempt rfl rfl
    (meetsNone.not_exempts deepEnough)

theorem depth_le_of_expanding
    {template key : String} {depth : Nat}
    (member : .expanding key depth ∈ (env.resolve template).log) :
    depth ≤ env.limits.maxDepth := by
  have reached : 0 ≤ env.limits.maxDepth + 1 := Nat.zero_le _
  obtain ⟨trace, isLog, runs⟩ :=
    (env.boundsExpansion.obeys_resolveAt reached template).log
  have inTrace : .expanding key depth ∈ trace.log := by
    rw [isLog]
    exact member
  exact (runs.bounded reached _ inTrace).2

/-- Limits are transparent until they are met. A run that meets none has the
same log and outcome under all limits that are as deep as the entries it
expands and that nest as deep as its own, in particular under higher limits. -/
theorem limits_are_transparent
    (env : Environment) (template : String)
    (meetsNone : (env.resolve template).MeetsNoLimit) :
    (∀ limits : Limits,
      env.limits.maxNesting ≤ limits.maxNesting →
      (∀ key depth, .expanding key depth ∈ (env.resolve template).log →
        depth ≤ limits.maxDepth) →
      (env.withLimits limits).resolve template = env.resolve template) ∧
      ∀ limits : Limits,
        env.limits.maxDepth ≤ limits.maxDepth →
        env.limits.maxNesting ≤ limits.maxNesting →
        (env.withLimits limits).resolve template = env.resolve template := by
  constructor
  · intro limits nests deepEnough
    exact resolve_withLimits meetsNone nests deepEnough
  · intro limits deeper nests
    refine resolve_withLimits meetsNone nests ?_
    intro key depth member
    exact (depth_le_of_expanding member).trans deeper

/-- An entry of plain text needs no level but the one its key stands at. -/
theorem limits_are_transparent_for_plain_entry :
    let env := singleEntry "key" "text"
    let template := expressionOf "key"
    (env.withLimits { maxDepth := 0, recursionSentinel := "" }).resolve
        template = env.resolve template ∧
      (env.withLimits { maxDepth := 20, maxNesting := 70 }).resolve template =
        env.resolve template := by
  intro env template
  have isKey : IsKey "key" := by
    refine ⟨by decide, by decide, by decide, by decide, ?_⟩
    intro c isSingle
    cases isSingle
  have found : env.table.templates.get? "key" = some "text" := rfl
  have plain : env.resolveAt 1 "text" = pure "text" := by
    rw [resolveAt]
    rfl
  have resolved :
      env.resolve template = ⟨[.expanding "key" 0], .ok "text"⟩ := by
    have expanded := resolve_expressionOf_of_found isKey found
    rw [plain] at expanded
    exact expanded
  have meetsNone : (env.resolve template).MeetsNoLimit := by
    rw [resolved]
    refine ⟨?_, ?_⟩
    · intro key depth maxDepth member
      cases List.mem_singleton.mp member
    · intro error deepest failed
      cases failed
  have onlyFirst (key : String) (depth : Nat)
      (member : .expanding key depth ∈ (env.resolve template).log) :
      depth ≤ 0 := by
    rw [resolved] at member
    cases List.mem_singleton.mp member
    exact Nat.le_refl 0
  have transparent := env.limits_are_transparent template meetsNone
  exact ⟨transparent.1 _ (Nat.le_refl 64) onlyFirst,
    transparent.2 _ (by decide) (by decide)⟩

end Environment

end Phrasebook
