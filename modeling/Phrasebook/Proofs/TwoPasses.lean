import Phrasebook.Proofs.Faults
import Phrasebook.Proofs.ScanSteps

/-!
# One pass or two

The pass over a template does what the two passes do: it writes the same text
or fails with the same error, and logs the same events in the same order. The
simulation is by induction on what the reader reads, for any open expressions
around it.
-/

namespace Phrasebook

namespace Scan

variable {limit size : Nat} {render : Nat → Expression → Run String}

/-! ## Ends of expressions -/

section Ends

variable {position start : Nat} {output buffer selector : String}
  {outer : List Frame} {stage : Stage} {branches : Option Branches}

/-- A brace closes an expression whose parts are complete. -/
theorem complete_plain
    {rest : List Char}
    (head : headOf stage buffer = some (selector, branches))
    (here : position + (rest.length + 1) = size) :
    complete limit render
        ⟨position, false, output, ⟨start, stage, buffer⟩ :: outer⟩
        ('\x7d' :: rest) =
      (render outer.length ⟨selector, branches, none, siteIn outer,
        ⟨start, size - rest.length⟩⟩) >>= fun written =>
          complete limit render
            (write ⟨size - rest.length, false, output, outer⟩ written)
            rest := by
  have behind : size - rest.length = position + 1 := by
    omega
  have closes :
      finished ⟨start, stage, buffer⟩ outer ⟨start, position + 1⟩ =
        .ok ⟨selector, branches, none, siteIn outer,
          ⟨start, position + 1⟩⟩ := by
    cases stage <;>
      cases head <;>
      rfl
  rw [complete_close closes, behind]

/-- The brace behind a specifier closes the expression. -/
theorem complete_read_specifier
    {text : List Char} {specifier : Reading (List Char) text}
    (here : position + text.length = size)
    (wasRead : readSpecifier text = some specifier) :
    complete limit render
        ⟨position, false, output,
          ⟨start, .specifier selector branches, ""⟩ :: outer⟩ text =
      (render outer.length ⟨selector, branches,
        some (String.ofList specifier.value), siteIn outer,
        ⟨start, size - specifier.rest.length⟩⟩) >>= fun written =>
          complete limit render
            (write ⟨size - specifier.rest.length, false, output, outer⟩
              written)
            specifier.rest := by
  obtain ⟨_, _, isWhole⟩ := isSpecifier_of_read wasRead
  have shorter := congrArg List.length isWhole
  simp only [List.length_append, List.length_cons] at shorter
  have behind :
      size - (specifier.rest.length + 1) + 1 =
        size - specifier.rest.length := by
    omega
  have closes :
      finished
        ⟨start, .specifier selector branches,
          "" ++ String.ofList specifier.value⟩ outer
        ⟨start, size - (specifier.rest.length + 1) + 1⟩ =
        .ok ⟨selector, branches, some (String.ofList specifier.value),
          siteIn outer, ⟨start, size - specifier.rest.length⟩⟩ := by
    rw [behind, String.empty_append]
    rfl
  rw [complete_specifier size text position "" here]
  simp only [wasRead]
  rw [complete_close closes, behind]

/-- A colon leads to a specifier, and its brace closes the expression. -/
theorem complete_specified
    {rest : List Char} {specifier : Reading (List Char) rest}
    (head : headOf stage buffer = some (selector, branches))
    (here : position + (rest.length + 1) = size)
    (wasRead : readSpecifier rest = some specifier) :
    complete limit render
        ⟨position, false, output, ⟨start, stage, buffer⟩ :: outer⟩
        (':' :: rest) =
      (render outer.length ⟨selector, branches,
        some (String.ofList specifier.value), siteIn outer,
        ⟨start, size - specifier.rest.length⟩⟩) >>= fun written =>
          complete limit render
            (write ⟨size - specifier.rest.length, false, output, outer⟩
              written)
            specifier.rest := by
  have behindColon : position + 1 + rest.length = size := by
    omega
  rw [complete_colon head, complete_read_specifier behindColon wasRead]

/-- Where the parts of an expression are complete, the pass reads the rest of
it as `readEnding` does. -/
theorem complete_ending
    {region : Region} {text : List Char}
    (head : headOf stage buffer = some (selector, branches))
    (stops : Stops region text) (notQuestion : ∀ rest, text ≠ '?' :: rest)
    (notBar : ∀ rest, text ≠ '|' :: rest)
    (here : position + text.length = size) :
    complete limit render
        ⟨position, false, output, ⟨start, stage, buffer⟩ :: outer⟩ text =
      ((readEnding text).value.evaluate render outer.length (siteIn outer)
          ⟨start, size - (readEnding text).rest.length⟩ selector branches) >>=
        fun written =>
          complete limit render
            (write ⟨size - (readEnding text).rest.length, false, output, outer⟩
              written)
            (readEnding text).rest := by
  cases stops with
  | ended =>
      rw [complete_missing (.inl rfl), here]
      rfl
  | slash inside =>
      rw [complete_missing (.inr rfl), here]
      rfl
  | mark ends =>
      rename_i c rest
      simp only [List.length_cons] at here
      rcases Region.eq_of_ends ends with rfl | rfl | rfl | rfl
      · exact absurd rfl (notQuestion rest)
      · exact absurd rfl (notBar rest)
      · cases wasRead : readSpecifier rest with
        | none =>
            rw [complete_colon head]
            rw [complete_specifier size rest (position + 1) "" (by omega)]
            simp only [readEnding, wasRead]
            rfl
        | some specifier =>
            rw [complete_specified head here wasRead,
              readEnding_specified wasRead]
            rfl
      · rw [complete_plain head here]
        rfl

end Ends

/-- An expression that ends without its second branch fails, closed or not. -/
theorem complete_half
    {position start : Nat} {output buffer selector : String}
    {outer : List Frame} {text : List Char}
    (stops : Stops .ifFalse text) (notBar : ∀ rest, text ≠ '|' :: rest)
    (here : position + text.length = size) :
    complete limit render
        ⟨position, false, output,
          ⟨start, .ifFalse selector, buffer⟩ :: outer⟩ text =
      Run.fail (.raised ((readEnding text).value.causeOfHalf selector)
        ⟨start, size - (readEnding text).rest.length⟩) := by
  cases stops with
  | ended =>
      rw [complete_missing (.inl rfl), here]
      rfl
  | slash inside =>
      rw [complete_missing (.inr rfl), here]
      rfl
  | mark ends =>
      rename_i c rest
      have isBrace : c = '\x7d' := by
        have isMark : c ≠ '|' := by
          rintro rfl
          exact notBar rest rfl
        simpa [Region.ends, isMark] using ends
      subst isBrace
      simp only [List.length_cons] at here
      have behind : size - rest.length = position + 1 := by
        omega
      rw [complete_close_fault rfl]
      simp only [readEnding, Reading.value_behind, Reading.rest_behind,
        Reading.value_stay, Reading.rest_stay, behind, Ending.causeOfHalf]

/-! ## Texts and expressions -/

mutual

/-- The pass writes what a text's pieces evaluate to, into whatever is open,
and goes on behind it. -/
theorem complete_readsText
    {region : Region} {level : Nat} {text rest : List Char} {pieces : Pieces}
    (reads : ReadsText limit size region level text pieces rest)
    {scan : Scan} (settled : scan.slash = false)
    (inRegion : regionOf scan.frames = some region)
    (atLevel : scan.frames.length = level)
    (here : scan.position + text.length = size) :
    scan.complete limit render text =
      (pieces.evaluate render level) >>= fun written =>
        complete limit render
          (write { scan with position := size - rest.length } written)
          rest := by
  -- What has been written so far may be anything. It is only appended to, so
  -- the relation of places to rests is all that is kept.
  match reads with
  | .stop _ =>
      have position : size - text.length = scan.position := by
        omega
      simp only [Pieces.evaluate, pure_bind, write_empty, position]
  | .dangling =>
      have atEnd : scan.position + 1 = size := here
      have start : size - 1 = scan.position := by
        omega
      have noFrames := eq_nil_of_outside inRegion
      rw [complete_lone_slash settled]
      simp only [Pieces.evaluate, Run.fail_bind, finish, noFrames, if_true,
        atEnd, start]
  | .escape escaped restReads =>
      have pending := (escapes_eq inRegion _).trans escaped
      rw [complete_escape settled pending]
      rw [complete_readsText restReads (by simp [settled])
        (by simp [inRegion]) (by simp [atLevel]) (by
          simp only [List.length_cons] at here
          simp only [position_push]
          omega)]
      simp only [Pieces.evaluate, bind_assoc, pure_bind, write_push]
  | .slash kept restReads =>
      have pending := (escapes_eq inRegion _).trans kept
      rw [complete_slash settled pending]
      rw [complete_readsText restReads (by simp [settled])
        (by simp [inRegion]) (by simp [atLevel]) (by
          simp only [List.length_cons] at here ⊢
          simp only [position_push]
          omega)]
      simp only [Pieces.evaluate, bind_assoc, pure_bind, write_push]
  | .tooDeep behind deep =>
      simp only [List.length_cons] at here
      have start : size - (behind.length + 1) = scan.position := by
        omega
      have stop : size - behind.length = scan.position + 1 := by
        omega
      rw [complete_tooDeep settled inRegion (by omega)]
      simp only [Pieces.evaluate, Run.fail_bind, start, stop]
  | .nested shallow expressionReads restReads =>
      have behindShorter := expressionReads.length_le
      simp only [List.length_cons] at here
      rw [complete_nested settled inRegion (by omega)]
      simp only [settled]
      rw [complete_readsExpression expressionReads (siteIn_eq inRegion)
        atLevel (by omega)]
      simp only [Pieces.evaluate, bind_assoc, pure_bind]
      apply bind_congr
      intro written
      rw [complete_readsText restReads (by simp) (by simp [inRegion])
        (by simp [atLevel]) (by
          simp only [position_write]
          omega)]
      simp only [write_write]
  | .ordinary notSlash notBrace notEnd restReads =>
      rw [complete_ordinary settled inRegion notSlash notBrace notEnd]
      rw [complete_readsText restReads (by simp [settled])
        (by simp [inRegion]) (by simp [atLevel]) (by
          simp only [List.length_cons] at here
          simp only [position_push]
          omega)]
      simp only [Pieces.evaluate, bind_assoc, pure_bind, write_push]

/-- The same for an expression whose brace has just been opened. -/
theorem complete_readsExpression
    {site : Site} {level : Nat} {text rest : List Char} {tree : SyntaxTree}
    (reads : ReadsExpression limit size site level text tree rest)
    {start : Nat} {output : String} {outer : List Frame}
    (atSite : siteIn outer = site) (atLevel : outer.length = level)
    (here : start + 1 + text.length = size) :
    complete limit render
        ⟨start + 1, false, output, ⟨start, .selector, ""⟩ :: outer⟩ text =
      (tree.evaluate render level) >>= fun written =>
        complete limit render
          (write ⟨size - rest.length, false, output, outer⟩ written) rest := by
  have startPlace : size - (text.length + 1) = start := by
    omega
  match reads with
  | .single behind selectorReads notQuestion =>
      have behindShorter := selectorReads.length_le
      have behindPlace : size - behind.length + behind.length = size := by
        omega
      rw [complete_readsText selectorReads rfl rfl (by simp [atLevel]) here]
      simp only [SyntaxTree.evaluate, bind_assoc, startPlace, write,
        String.empty_append]
      apply bind_congr
      intro selector
      rw [complete_ending rfl selectorReads.stops notQuestion
        (selectorReads.stops.ne_cons rfl (by decide)) behindPlace]
      simp only [atLevel, atSite, write]
  | .half afterMark behind selectorReads ifFalseReads notBar =>
      have markShorter := selectorReads.length_le
      have behindShorter := ifFalseReads.length_le
      simp only [List.length_cons] at markShorter
      have behindPlace : size - behind.length + behind.length = size := by
        omega
      rw [complete_readsText selectorReads rfl rfl (by simp [atLevel]) here]
      simp only [SyntaxTree.evaluate, bind_assoc, startPlace, write,
        String.empty_append]
      apply bind_congr
      intro selector
      rw [complete_question]
      rw [complete_readsText ifFalseReads rfl rfl (by simp [atLevel]) (by
        simp only [List.length_cons]
        omega)]
      simp only [write, String.empty_append]
      apply bind_congr
      intro ifFalse
      rw [complete_half ifFalseReads.stops notBar behindPlace, Run.fail_bind]
  | .branched afterMark afterBar behind selectorReads ifFalseReads
      ifTrueReads =>
      have markShorter := selectorReads.length_le
      have barShorter := ifFalseReads.length_le
      have behindShorter := ifTrueReads.length_le
      simp only [List.length_cons] at markShorter barShorter
      have behindPlace : size - behind.length + behind.length = size := by
        omega
      rw [complete_readsText selectorReads rfl rfl (by simp [atLevel]) here]
      simp only [SyntaxTree.evaluate, bind_assoc, startPlace, write,
        String.empty_append]
      apply bind_congr
      intro selector
      rw [complete_question]
      rw [complete_readsText ifFalseReads rfl rfl (by simp [atLevel]) (by
        simp only [List.length_cons]
        omega)]
      simp only [write, String.empty_append]
      apply bind_congr
      intro ifFalse
      rw [complete_bar]
      rw [complete_readsText ifTrueReads rfl rfl (by simp [atLevel]) (by
        simp only [List.length_cons]
        omega)]
      simp only [write, String.empty_append]
      apply bind_congr
      intro ifTrue
      rw [complete_ending rfl ifTrueReads.stops
        (ifTrueReads.stops.ne_cons rfl (by decide))
        (ifTrueReads.stops.ne_cons rfl (by decide)) behindPlace]
      simp only [atLevel, atSite, write]

end

end Scan

/-! ## Templates -/

/-- Scanning a template is evaluating its tree. -/
theorem scanTemplate_eq_evaluate
    (limit : Nat) (render : Nat → Expression → Run String)
    (template : String) :
    scanTemplate limit render template =
      (parseTemplate limit template).evaluate render 0 := by
  have size : ({} : Scan).position + template.toList.length =
      template.length := by
    simp only [String.length_toList, Nat.zero_add]
  have reads :=
    readText_related limit template.length .outside 0 template.toList
  have scanned :
      scanTemplate limit render template = _ :=
    Scan.complete_readsText reads rfl rfl rfl size
  refine Eq.trans scanned ?_
  rw [reads.stops.eq_nil]
  refine Eq.trans (bind_congr fun written => ?_) (bind_pure _)
  rw [Scan.complete_nil]
  simp [Scan.write, Scan.finish]

namespace Environment

/-- Expands the entry of a key for an expression, in a text that stands at a
level, with a number of expressions around it. -/
def expandAt (env : Environment) (depth nesting : Nat) (key entry : String) :
    Run String :=
  if depth + nesting ≤ env.limits.maxDepth then do
    Run.emit (.expanding key (depth + nesting))
    (env.resolveAt (depth + nesting + 1) entry).mapError
      (.inEntry ⟨key, entry⟩)
  else do
    Run.emit (.limitReached key (depth + nesting) env.limits.maxDepth)
    pure env.limits.recursionSentinel

theorem resolveAt_eq_evaluate
    (env : Environment) (depth : Nat) (template : String) :
    env.resolveAt depth template =
      (parseTemplate env.limits.maxNesting template).evaluate
        (fun nesting expression =>
          expression.render env.table env.context (env.expandAt depth nesting))
        0 := by
  rw [resolveAt, scanTemplate_eq_evaluate]
  rfl

/-- Resolving a text at any level in one pass is resolving it in two. Entries
lie deeper than the expressions that ask for them, so the induction is on the
levels left to go. -/
theorem resolveAt_eq_evaluateAt
    (env : Environment) (depth : Nat) (template : String) :
    env.resolveAt depth template = env.evaluateAt depth template := by
  rw [resolveAt_eq_evaluate, evaluateAt]
  congr 1
  funext nesting expression
  congr 1
  funext key entry
  rw [expandAt]
  split
  · rw [env.resolveAt_eq_evaluateAt (depth + nesting + 1) entry]
  · rfl
termination_by env.limits.maxDepth + 1 - depth
decreasing_by omega

/-- Resolving takes one pass and amounts to two: the first one sees no table
and no context, and its trees have no faults exactly where the texts belong to
the grammar. -/
theorem resolve_refines_two_passes (env : Environment) :
    (∀ template, env.resolve template = env.evaluateAt 0 template) ∧
      ∀ text,
        templateFault? env.limits.maxNesting text = none ↔
          IsTemplate env.limits.maxNesting text.toList := by
  constructor
  · intro template
    exact env.resolveAt_eq_evaluateAt 0 template
  · intro text
    exact templateFault?_eq_none_iff

end Environment

end Phrasebook
