import Mathlib.Algebra.Order.BigOperators.Group.Finset
import Mathlib.Algebra.Ring.GeomSum
import Phrasebook.Proofs.ErrorPlaces

/-!
# Bounds of expansion

Entries may refer to themselves and to one another, and their keys may be
written by other expressions, yet expansion is bounded. A log is put into a
trace, where an expansion holds what happens while its entry is resolved. Depths
increase from each expansion to those inside it, and the braces of the texts
bound how many expansions there are.
-/

namespace Phrasebook

/-! ## Traces -/

inductive Trace where
  | nil
  | step (event : Event) (rest : Trace)
  | expansion (key : String) (depth : Nat) (inner rest : Trace)

namespace Trace

def log : Trace → List Event
  | nil => []
  | step event rest => event :: rest.log
  | expansion key depth inner rest =>
      .expanding key depth :: (inner.log ++ rest.log)

def append : Trace → Trace → Trace
  | nil, last => last
  | step event rest, last => step event (rest.append last)
  | expansion key depth inner rest, last =>
      expansion key depth inner (rest.append last)

theorem log_append (first last : Trace) :
    (first.append last).log = first.log ++ last.log := by
  induction first with
  | nil =>
      rfl
  | step event rest inductionHypothesis =>
      simp only [append, log, inductionHypothesis, List.cons_append]
  | expansion key depth inner rest _ inductionHypothesis =>
      simp only [append, log, inductionHypothesis, List.cons_append,
        List.append_assoc]

/-- The depths of expansions that are open at once, outermost first. -/
inductive Open : Trace → List Nat → Prop
  | nil (trace : Trace) : Open trace []
  | step {event : Event} {rest : Trace} {depths : List Nat} :
      Open rest depths →
      Open (.step event rest) depths
  | inside {key : String} {depth : Nat} {inner rest : Trace}
      {depths : List Nat} :
      Open inner depths →
      Open (.expansion key depth inner rest) (depth :: depths)
  | behind {key : String} {depth : Nat} {inner rest : Trace}
      {depths : List Nat} :
      Open rest depths →
      Open (.expansion key depth inner rest) depths

end Trace

section Traces

variable {env : Environment}

/-- An event that is no expansion, at a level: a key that is missing, or the
limit in front of an entry of the table. -/
def Event.HappensAt (env : Environment) (level : Nat) : Event → Prop
  | keyMissing key => env.table.templates.get? key = none
  | expanding _ _ => False
  | limitReached key depth maxDepth =>
      (∃ entry, env.table.templates.get? key = some entry) ∧
        maxDepth = env.limits.maxDepth ∧ maxDepth < depth ∧
        depth ≤ level + env.limits.maxNesting

/-- A trace of a text that is resolved at a level. An expansion holds the log of
its entry, one level deeper than the expansion itself. -/
def Trace.RunsAt (env : Environment) (level : Nat) : Trace → Prop
  | nil => True
  | step event rest => event.HappensAt env level ∧ rest.RunsAt env level
  | expansion key depth inner rest =>
      level ≤ depth ∧ depth ≤ env.limits.maxDepth ∧
        (∃ entry, env.table.templates.get? key = some entry ∧
          inner.log = (env.resolveAt (depth + 1) entry).log) ∧
        inner.RunsAt env (depth + 1) ∧ rest.RunsAt env level

theorem Trace.RunsAt.append
    {level : Nat} {first last : Trace} (firstRuns : first.RunsAt env level)
    (lastRuns : last.RunsAt env level) :
    (first.append last).RunsAt env level := by
  induction first with
  | nil =>
      exact lastRuns
  | step event rest inductionHypothesis =>
      exact ⟨firstRuns.1, inductionHypothesis firstRuns.2⟩
  | expansion key depth inner rest _ inductionHypothesis =>
      obtain ⟨deeper, within, entry, innerRuns, restRuns⟩ := firstRuns
      exact ⟨deeper, within, entry, innerRuns, inductionHypothesis restRuns⟩

/-- Depths increase strictly from an expansion to those inside it, so that only
as many are open as there are levels left. -/
theorem Trace.Open.increases
    {level : Nat} {trace : Trace} {depths : List Nat}
    (opened : trace.Open depths) (runs : trace.RunsAt env level)
    (reached : level ≤ env.limits.maxDepth + 1) :
    depths.Pairwise (· < ·) ∧ (∀ depth ∈ depths, level ≤ depth) ∧
      level + depths.length ≤ env.limits.maxDepth + 1 := by
  induction opened generalizing level with
  | nil trace =>
      exact ⟨.nil, fun _ member => absurd member List.not_mem_nil, reached⟩
  | step _ inductionHypothesis =>
      exact inductionHypothesis runs.2 reached
  | behind _ inductionHypothesis =>
      obtain ⟨_, _, _, _, restRuns⟩ := runs
      exact inductionHypothesis restRuns reached
  | inside _ inductionHypothesis =>
      obtain ⟨deeper, within, _, innerRuns, _⟩ := runs
      obtain ⟨increasing, bounded, few⟩ :=
        inductionHypothesis innerRuns (Nat.succ_le_succ within)
      refine ⟨List.pairwise_cons.mpr ⟨bounded, increasing⟩, ?_, ?_⟩
      · intro other member
        rcases List.mem_cons.mp member with rfl | member
        · exact deeper
        · have := bounded other member
          omega
      · rw [List.length_cons]
        omega

def Event.Bounded (env : Environment) : Event → Prop
  | keyMissing key => env.table.templates.get? key = none
  | expanding key depth =>
      (∃ entry, env.table.templates.get? key = some entry) ∧
        depth ≤ env.limits.maxDepth
  | limitReached key depth maxDepth =>
      (∃ entry, env.table.templates.get? key = some entry) ∧
        maxDepth = env.limits.maxDepth ∧ env.limits.maxDepth < depth ∧
        depth ≤ env.limits.maxDepth + 1 + env.limits.maxNesting

theorem Event.HappensAt.bounded
    {level : Nat} {event : Event} (happens : event.HappensAt env level)
    (reached : level ≤ env.limits.maxDepth + 1) :
    event.Bounded env := by
  cases event with
  | keyMissing key =>
      exact happens
  | expanding key depth =>
      exact happens.elim
  | limitReached key depth maxDepth =>
      obtain ⟨present, rfl, beyond, shallow⟩ := happens
      refine ⟨present, rfl, beyond, ?_⟩
      omega

theorem Trace.RunsAt.bounded
    {level : Nat} {trace : Trace} (runs : trace.RunsAt env level)
    (reached : level ≤ env.limits.maxDepth + 1) :
    ∀ event ∈ trace.log, event.Bounded env := by
  induction trace generalizing level with
  | nil =>
      intro event member
      exact absurd member List.not_mem_nil
  | step first rest inductionHypothesis =>
      intro event member
      rcases List.mem_cons.mp member with rfl | member
      · exact runs.1.bounded reached
      · exact inductionHypothesis runs.2 reached event member
  | expansion key depth inner rest innerHypothesis restHypothesis =>
      obtain ⟨_, within, ⟨entry, found, _⟩, innerRuns, restRuns⟩ := runs
      intro event member
      rcases List.mem_cons.mp member with rfl | member
      · exact ⟨⟨entry, found⟩, within⟩
      · rcases List.mem_append.mp member with member | member
        · exact innerHypothesis innerRuns (Nat.succ_le_succ within) event
            member
        · exact restHypothesis restRuns reached event member

end Traces

/-! ## Traces of runs -/

namespace Environment

def traced (env : Environment) (level : Nat) : LogLaw where
  holds log := ∃ trace : Trace, trace.log = log ∧ trace.RunsAt env level
  nil := ⟨.nil, rfl, trivial⟩
  append := by
    intro first second firstTraced secondTraced
    obtain ⟨firstTrace, rfl, firstRuns⟩ := firstTraced
    obtain ⟨secondTrace, rfl, secondRuns⟩ := secondTraced
    exact ⟨firstTrace.append secondTrace, firstTrace.log_append secondTrace,
      firstRuns.append secondRuns⟩

/-- All runs have traces, and the entries around an error are no more than the
levels left. -/
def boundsExpansion (env : Environment) : env.Invariant where
  law := env.traced
  expected depth _ error :=
    depth + error.entries.length ≤ env.limits.maxDepth + 1
  misses missing := ⟨.step _ .nil, rfl, missing, trivial⟩
  limitReached shallow beyond found :=
    ⟨.step _ .nil, rfl,
      ⟨⟨_, found⟩, rfl, beyond, Nat.add_le_add_left shallow _⟩, trivial⟩
  expands _ within found inner := by
    obtain ⟨trace, isLog, runs⟩ := inner
    refine ⟨.expansion _ _ trace .nil, ?_, Nat.le_add_right _ _, within,
      ⟨_, found, isLog⟩, runs, trivial⟩
    rw [Trace.log, Trace.log, List.append_nil, isLog]
  fails reached _ := reached
  wraps within _ fewer := by
    rw [ResolveError.entries_inEntry, List.length_cons]
    omega

end Environment

/-! ## Numbers of expansions -/

def Event.isExpansion : Event → Bool
  | expanding _ _ => true
  | keyMissing _ | limitReached _ _ _ => false

def expansions (log : List Event) : Nat :=
  log.countP Event.isExpansion

def braces (text : List Char) : Nat :=
  text.count '\x7b'

mutual

def Pieces.expressions : Pieces → Nat
  | .nil | .dangling _ | .tooDeep _ _ => 0
  | .literal _ rest => rest.expressions
  | .nested expression rest => expression.expressions + rest.expressions

def SyntaxTree.expressions : SyntaxTree → Nat
  | .single _ _ selector _ => selector.expressions + 1
  | .half _ _ selector ifFalse _ =>
      selector.expressions + ifFalse.expressions + 1
  | .branched _ _ selector ifFalse ifTrue _ =>
      selector.expressions + ifFalse.expressions + ifTrue.expressions + 1

end

theorem braces_brace_cons (text : List Char) :
    braces ('\x7b' :: text) = braces text + 1 :=
  List.count_cons_self

theorem braces_cons_le (c : Char) (text : List Char) :
    braces text ≤ braces (c :: text) :=
  List.count_le_count_cons

theorem braces_readEnding_le (text : List Char) :
    braces (readEnding text).rest ≤ braces text :=
  (readEnding_isSuffix text).sublist.count_le _

mutual

/-- Every expression that is read has a brace of its own. -/
theorem ReadsText.expressions_le
    {limit size : Nat} {region : Region} {level : Nat}
    {text rest : List Char} {pieces : Pieces}
    (reads : ReadsText limit size region level text pieces rest) :
    pieces.expressions + braces rest ≤ braces text := by
  match reads with
  | .stop _ =>
      rw [Pieces.expressions, Nat.zero_add]
  | .dangling | .tooDeep _ _ =>
      exact Nat.zero_le _
  | .escape _ restReads =>
      have fewer := restReads.expressions_le
      exact fewer.trans ((braces_cons_le _ _).trans (braces_cons_le _ _))
  | .slash _ restReads | .ordinary _ _ _ restReads =>
      have fewer := restReads.expressions_le
      exact fewer.trans (braces_cons_le _ _)
  | .nested _ expressionReads restReads =>
      have expressionFewer := expressionReads.expressions_le
      have restFewer := restReads.expressions_le
      rw [Pieces.expressions, braces_brace_cons]
      omega

/-- Each expression that is read has an opening brace of its own. -/
theorem ReadsExpression.expressions_le
    {limit size : Nat} {site : Site} {level : Nat} {text rest : List Char}
    {tree : SyntaxTree}
    (reads : ReadsExpression limit size site level text tree rest) :
    tree.expressions + braces rest ≤ braces text + 1 := by
  match reads with
  | .single behind selectorReads _ =>
      have selectorFewer := selectorReads.expressions_le
      have endingFewer := braces_readEnding_le behind
      rw [SyntaxTree.expressions]
      omega
  | .half afterMark behind selectorReads ifFalseReads _ =>
      have selectorFewer := selectorReads.expressions_le
      have markFewer := braces_cons_le '?' afterMark
      have ifFalseFewer := ifFalseReads.expressions_le
      have endingFewer := braces_readEnding_le behind
      rw [SyntaxTree.expressions]
      omega
  | .branched afterMark afterBar behind selectorReads ifFalseReads
      ifTrueReads =>
      have selectorFewer := selectorReads.expressions_le
      have markFewer := braces_cons_le '?' afterMark
      have ifFalseFewer := ifFalseReads.expressions_le
      have barFewer := braces_cons_le '|' afterBar
      have ifTrueFewer := ifTrueReads.expressions_le
      have endingFewer := braces_readEnding_le behind
      rw [SyntaxTree.expressions]
      omega

end

theorem expressions_parseTemplate_le (limit : Nat) (template : String) :
    (parseTemplate limit template).expressions ≤ braces template.toList := by
  have fewer :=
    (readText_related limit template.length .outside 0
      template.toList).expressions_le
  exact (Nat.le_add_right _ _).trans fewer

namespace Run

variable {α β : Type}

def Expands (most : Nat) (run : Run α) : Prop :=
  expansions run.log ≤ most

theorem expands_pure (most : Nat) (value : α) :
    (pure value : Run α).Expands most :=
  Nat.zero_le _

theorem expands_fail (most : Nat) (error : ResolveError) :
    (fail error : Run α).Expands most :=
  Nat.zero_le _

theorem Expands.bind
    {run : Run α} {next : α → Run β} {first second : Nat}
    (runExpands : run.Expands first)
    (nextExpands : ∀ value, (next value).Expands second) :
    (run >>= next).Expands (first + second) := by
  obtain ⟨log, outcome⟩ := run
  cases outcome with
  | error error =>
      exact Nat.le_add_right_of_le runExpands
  | ok value =>
      have appended :
          expansions (log ++ (next value).log) =
            expansions log + expansions (next value).log :=
        List.countP_append
      have both := Nat.add_le_add runExpands (nextExpands value)
      exact appended.trans_le both

end Run

section Evaluation

variable {render : Nat → Expression → Run String} {most : Nat}

theorem Ending.expands_evaluate
    (renders : ∀ level expression, (render level expression).Expands most)
    (ending : Ending) (level : Nat) (site : Site) (span : Span)
    (selector : String) (branches : Option Branches) :
    (ending.evaluate render level site span selector branches).Expands
      most := by
  cases ending with
  | plain | specified specifier =>
      exact renders level _
  | missing =>
      exact Run.expands_fail _ _

mutual

theorem Pieces.expands_evaluate
    (renders : ∀ level expression, (render level expression).Expands most)
    (level : Nat) (pieces : Pieces) :
    (pieces.evaluate render level).Expands (pieces.expressions * most) := by
  match pieces with
  | .nil =>
      exact Run.expands_pure _ _
  | .literal c rest =>
      exact (rest.expands_evaluate renders level).bind fun behind =>
        Run.expands_pure 0 _
  | .nested expression rest =>
      rw [Pieces.expressions, Nat.add_mul]
      refine (expression.expands_evaluate renders level).bind ?_
      intro written
      exact (rest.expands_evaluate renders level).bind fun behind =>
        Run.expands_pure 0 _
  | .dangling span | .tooDeep deepest span =>
      exact Run.expands_fail _ _

/-- Each expression expands once at most what rendering one expands. -/
theorem SyntaxTree.expands_evaluate
    (renders : ∀ level expression, (render level expression).Expands most)
    (level : Nat) (tree : SyntaxTree) :
    (tree.evaluate render level).Expands (tree.expressions * most) := by
  match tree with
  | .single site span selector ending =>
      rw [SyntaxTree.expressions, Nat.succ_mul]
      refine (selector.expands_evaluate renders (level + 1)).bind ?_
      intro written
      exact ending.expands_evaluate renders level site span written none
  | .half site span selector ifFalse ending =>
      rw [SyntaxTree.expressions, Nat.succ_mul, Nat.add_mul, Nat.add_assoc]
      refine (selector.expands_evaluate renders (level + 1)).bind ?_
      intro written
      refine (ifFalse.expands_evaluate renders (level + 1)).bind ?_
      intro _
      exact Run.expands_fail _ _
  | .branched site span selector ifFalse ifTrue ending =>
      rw [SyntaxTree.expressions, Nat.succ_mul, Nat.add_mul, Nat.add_mul,
        Nat.add_assoc, Nat.add_assoc]
      refine (selector.expands_evaluate renders (level + 1)).bind ?_
      intro written
      refine (ifFalse.expands_evaluate renders (level + 1)).bind ?_
      intro falseWritten
      refine (ifTrue.expands_evaluate renders (level + 1)).bind ?_
      intro trueWritten
      exact ending.expands_evaluate renders level site span written _

end

end Evaluation

namespace Environment

variable {env : Environment} {bound : Nat}

/-- The levels below an expansion take the tail of the sum that its own level
has. -/
theorem expansions_le_sum
    {depth nesting inner entryBraces : Nat}
    (within : depth + nesting ≤ env.limits.maxDepth)
    (fewBraces : entryBraces ≤ bound)
    (innerFew : inner ≤ entryBraces *
      ∑ i ∈ Finset.range (env.limits.maxDepth + 1 - (depth + nesting + 1)),
        bound ^ i) :
    inner + 1 ≤
      ∑ i ∈ Finset.range (env.limits.maxDepth + 1 - depth), bound ^ i := by
  have levels :
      env.limits.maxDepth + 1 - depth = env.limits.maxDepth - depth + 1 := by
    omega
  have fewerLevels :
      env.limits.maxDepth + 1 - (depth + nesting + 1) ≤
        env.limits.maxDepth - depth := by
    omega
  have shorter :
      ∑ i ∈ Finset.range (env.limits.maxDepth + 1 - (depth + nesting + 1)),
          bound ^ i ≤
        ∑ i ∈ Finset.range (env.limits.maxDepth - depth), bound ^ i :=
    Finset.sum_le_sum_of_subset (Finset.range_mono fewerLevels)
  rw [levels, geom_sum_succ]
  exact Nat.succ_le_succ (innerFew.trans (Nat.mul_le_mul fewBraces shorter))

/-- The number of expansions, by the braces of the text and of all entries. -/
theorem expands_resolveAt
    (bounded : ∀ key entry, env.table.templates.get? key = some entry →
      braces entry.toList ≤ bound)
    (depth : Nat) (template : String) :
    (env.resolveAt depth template).Expands
      (braces template.toList *
        ∑ i ∈ Finset.range (env.limits.maxDepth + 1 - depth),
          bound ^ i) := by
  have rendered (nesting : Nat) (expression : Expression) :
      (expression.render env.table env.context
        (env.expandAt depth nesting)).Expands
        (∑ i ∈ Finset.range (env.limits.maxDepth + 1 - depth),
          bound ^ i) := by
    rcases expression.render_cases env.table env.context
        (env.expandAt depth nesting) with
      readsOnly | ⟨key, _, equality⟩ | ⟨key, entry, found, equality⟩
    · have noLog :
          (expression.render env.table env.context
            (env.expandAt depth nesting)).log = [] :=
        readsOnly.log
      rw [Run.Expands, noLog]
      exact Nat.zero_le _
    · rw [equality]
      exact Nat.zero_le _
    · -- Beyond the limit the sentinel is written, and nothing is expanded.
      rw [equality, expandAt]
      split
      · rename_i within
        have counted :
            expansions (.expanding key (depth + nesting) ::
              (env.resolveAt (depth + nesting + 1) entry).log) =
              expansions (env.resolveAt (depth + nesting + 1) entry).log + 1 :=
          List.countP_cons_of_pos rfl
        have innerExpands :=
          expands_resolveAt bounded (depth + nesting + 1) entry
        exact counted.trans_le
          (expansions_le_sum within (bounded key entry found) innerExpands)
      · exact Nat.zero_le _
  have evaluated :=
    (parseTemplate env.limits.maxNesting template).expands_evaluate rendered 0
  have fewer := expressions_parseTemplate_le env.limits.maxNesting template
  rw [resolveAt_eq_evaluate]
  exact evaluated.trans (Nat.mul_le_mul_right _ fewer)
termination_by env.limits.maxDepth + 1 - depth
decreasing_by omega

/-- Expansion is bounded for every table. What is logged stays within the
limits, expansions that are open at once have increasing depths and are at most
one more than the deepest level, and so are the entries around an error. The
number of expansions is bounded by the braces of the template and a sum over
the levels. -/
theorem expansion_is_bounded (env : Environment) (template : String) :
    (∀ event ∈ (env.resolve template).log, event.Bounded env) ∧
      (∃ trace : Trace, trace.log = (env.resolve template).log ∧
        trace.RunsAt env 0 ∧
        ∀ depths, trace.Open depths →
          depths.Pairwise (· < ·) ∧
            depths.length ≤ env.limits.maxDepth + 1) ∧
      (∀ error, (env.resolve template).outcome = .error error →
        error.entries.length ≤ env.limits.maxDepth + 1) ∧
      (∀ key error, env.FailsForKey key error →
        error.entries.length ≤ env.limits.maxDepth + 2) ∧
      ∀ bound,
        (∀ key entry, env.table.templates.get? key = some entry →
          braces entry.toList ≤ bound) →
        expansions (env.resolve template).log ≤
          braces template.toList *
            ∑ i ∈ Finset.range (env.limits.maxDepth + 1), bound ^ i := by
  have reached : 0 ≤ env.limits.maxDepth + 1 := Nat.zero_le _
  have obeys (text : String) := env.boundsExpansion.obeys_resolveAt reached text
  have fewEntries (text : String) (error : ResolveError)
      (failed : (env.resolve text).outcome = .error error) :
      error.entries.length ≤ env.limits.maxDepth + 1 := by
    have few := (obeys text).error error failed
    exact (Nat.le_add_left _ 0).trans few
  obtain ⟨trace, isLog, runs⟩ := (obeys template).log
  refine ⟨?_, ⟨trace, isLog, runs, ?_⟩, fewEntries template, ?_, ?_⟩
  · intro event member
    have inTrace : event ∈ trace.log := by
      rw [isLog]
      exact member
    exact runs.bounded reached event inTrace
  · intro depths opened
    obtain ⟨increasing, _, few⟩ := opened.increases runs reached
    exact ⟨increasing, (Nat.le_add_left _ 0).trans few⟩
  · intro key error fails
    obtain ⟨entry, inner, _, innerFailed, rfl⟩ := fails.exists_inner
    exact Nat.succ_le_succ (fewEntries entry inner innerFailed)
  · intro bound bounded
    exact expands_resolveAt bounded 0 template

/-- An entry that refers to itself is expanded at most once for each level. -/
theorem expansion_is_bounded_for_self_reference :
    expansions
        ((singleEntry "key" "\x7bkey\x7d").resolve "\x7bkey\x7d").log ≤ 11 ∧
      (ResolveError.mk [⟨"key", "\x7b"⟩] .unterminatedExpression
        ⟨0, 1⟩).entries.length ≤ 12 := by
  constructor
  · have bounded (key entry : String)
        (found :
          (singleEntry "key" "\x7bkey\x7d").table.templates.get? key =
            some entry) :
        braces entry.toList ≤ 1 := by
      rw [singleEntry, Dictionary.get?_insert] at found
      by_cases isKey : "key" = key
      · rw [if_pos isKey] at found
        cases found
        decide
      · rw [if_neg isKey] at found
        cases found
    exact (expansion_is_bounded (singleEntry "key" "\x7bkey\x7d")
      "\x7bkey\x7d").2.2.2.2 1 bounded
  · exact (expansion_is_bounded (singleEntry "key" "\x7b") "").2.2.2.1 "key" _
      singleEntry_fails

end Environment

end Phrasebook
