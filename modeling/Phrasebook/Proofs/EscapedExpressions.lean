import Phrasebook.Proofs.Branching
import Phrasebook.Proofs.KeyExpressions

/-!
# Escaped expressions

The selector of an expression and both of its branches may be any texts, as long
as the marks in them are escaped. Each part is read back as it was before, so
that the branch that is picked is written as it was, and a key is looked up as
it was.
-/

namespace Phrasebook

def branchedExpressionOf (selector ifFalse ifTrue : String) : String :=
  "\x7b" ++ escapeText selector ++ "?" ++ escapeText ifFalse ++ "|" ++
    escapeText ifTrue ++ "\x7d"

theorem toList_branchedExpressionOf (selector ifFalse ifTrue : String) :
    (branchedExpressionOf selector ifFalse ifTrue).toList =
      '\x7b' :: (escapeMarks selector.toList ++
        '?' :: (escapeMarks ifFalse.toList ++
          '|' :: (escapeMarks ifTrue.toList ++ ['\x7d']))) := by
  simp [branchedExpressionOf, escapeText]

namespace Scan

variable {limit : Nat} {render : Nat → Expression → Run String}

/-- In each part of an expression an escaped text is collected as it was. -/
theorem complete_part
    {stage : Stage} {start : Nat} {outer : List Frame} {region : Region}
    (inPart : regionOf (⟨start, stage, ""⟩ :: outer) = some region)
    (inside : region ≠ .outside) (position : Nat) (output text : String)
    (rest : List Char) :
    complete limit render
        ⟨position, false, output, ⟨start, stage, ""⟩ :: outer⟩
        (escapeMarks text.toList ++ rest) =
      complete limit render
        ⟨position + (escapeMarks text.toList).length, false, output,
          ⟨start, stage, text⟩ :: outer⟩
        rest := by
  rw [complete_escapeMarks inside text.toList rest rfl inPart]
  simp only [write, String.empty_append, String.ofList_toList]

/-- Wherever it stands, the expression is rendered with the selector and the
branches that it is made of. -/
theorem complete_branchedExpressionOf
    {position : Nat} {output : String} {frames : List Frame} {region : Region}
    (inRegion : regionOf frames = some region)
    (shallow : frames.length ≤ limit) (selector ifFalse ifTrue : String)
    (rest : List Char) :
    complete limit render ⟨position, false, output, frames⟩
        ((branchedExpressionOf selector ifFalse ifTrue).toList ++ rest) =
      (render frames.length ⟨selector, some ⟨ifFalse, ifTrue⟩, none,
        region.site, ⟨position, position +
          (branchedExpressionOf selector ifFalse ifTrue).length⟩⟩) >>=
        fun written =>
          complete limit render
            (write
              ⟨position + (branchedExpressionOf selector ifFalse ifTrue).length,
                false, output, frames⟩
              written)
            rest := by
  have template := toList_branchedExpressionOf selector ifFalse ifTrue
  have behind :
      position + (branchedExpressionOf selector ifFalse ifTrue).length =
        position + 1 + (escapeMarks selector.toList).length + 1 +
            (escapeMarks ifFalse.toList).length + 1 +
          (escapeMarks ifTrue.toList).length + 1 := by
    rw [← String.length_toList, template]
    simp only [List.length_cons, List.length_append, List.length_nil]
    omega
  rw [template, behind]
  simp only [List.cons_append, List.append_assoc, List.nil_append]
  rw [complete_nested rfl inRegion shallow]
  simp only
  rw [complete_part rfl (by decide), complete_question,
    complete_part rfl (by decide), complete_bar,
    complete_part rfl (by decide), complete_close rfl, siteIn_eq inRegion]

/-- A pass that ends right behind an expression has its text. -/
theorem complete_written (run : Run String) (position : Nat) :
    (run >>= fun written =>
      complete limit render (write ⟨position, false, "", []⟩ written) []) =
        run := by
  refine Eq.trans (bind_congr fun written => ?_) (bind_pure run)
  rw [complete_nil]
  simp [write, finish]

end Scan

section Templates

variable (limit : Nat) (render : Nat → Expression → Run String)

theorem scanTemplate_expressionOf (selector : String) :
    scanTemplate limit render (expressionOf selector) =
      render 0 ⟨selector, none, none, .entry,
        ⟨0, (expressionOf selector).length⟩⟩ := by
  have outside : Scan.regionOf [] = some .outside := rfl
  change Scan.complete limit render ⟨0, false, "", []⟩ _ = _
  rw [← List.append_nil (expressionOf selector).toList,
    complete_expressionOf outside (Nat.zero_le limit), Nat.zero_add,
    Scan.complete_written]
  rfl

theorem scanTemplate_branchedExpressionOf
    (selector ifFalse ifTrue : String) :
    scanTemplate limit render
        (branchedExpressionOf selector ifFalse ifTrue) =
      render 0 ⟨selector, some ⟨ifFalse, ifTrue⟩, none, .entry,
        ⟨0, (branchedExpressionOf selector ifFalse ifTrue).length⟩⟩ := by
  have outside : Scan.regionOf [] = some .outside := rfl
  change Scan.complete limit render ⟨0, false, "", []⟩ _ = _
  rw [← List.append_nil (branchedExpressionOf selector ifFalse ifTrue).toList,
    Scan.complete_branchedExpressionOf outside (Nat.zero_le limit),
    Nat.zero_add, Scan.complete_written]
  rfl

end Templates

namespace Environment

variable {env : Environment}

theorem resolve_branchedExpressionOf
    (env : Environment) (selector ifFalse ifTrue : String) :
    env.resolve (branchedExpressionOf selector ifFalse ifTrue) =
      env.renderAt 0 0 ⟨selector, some ⟨ifFalse, ifTrue⟩, none, .entry,
        ⟨0, (branchedExpressionOf selector ifFalse ifTrue).length⟩⟩ := by
  rw [resolve, resolveAt]
  exact scanTemplate_branchedExpressionOf _ (env.renderAt 0) selector ifFalse
    ifTrue

/-- An argument that is tested writes the branch that it picks. -/
theorem renderAt_of_condition
    {value : Value} {condition : Bool}
    (hasArgument : env.context.args[0]? = some value)
    (tested : value.condition? = some condition) (depth nesting : Nat)
    (branches : Branches) (specifier : Option String) (site : Site)
    (span : Span) :
    env.renderAt depth nesting ⟨"0", some branches, specifier, site, span⟩ =
      ⟨[], .ok (if condition then branches.ifTrue else branches.ifFalse)⟩ := by
  have isArgument : Selector.ofText "0" = .argument 0 := by decide
  refine (Expression.render_of_argument isArgument hasArgument).trans ?_
  simp only [selectBranch, branches.select_of_condition tested,
    Expression.write_text]
  rfl

/-- Escaped texts are read back in each part of an expression. The branch that
the first argument picks is written as it was, also where the key of a missing
entry is written in place of a branch, and the key of an entry is looked up as
it was. -/
theorem escaped_texts_are_read_back
    (env : Environment) (ifFalse ifTrue : String) :
    (∀ selector limit render,
      scanTemplate limit render (expressionOf selector) =
          render 0 ⟨selector, none, none, .entry,
            ⟨0, (expressionOf selector).length⟩⟩ ∧
        scanTemplate limit render
            (branchedExpressionOf selector ifFalse ifTrue) =
          render 0 ⟨selector, some ⟨ifFalse, ifTrue⟩, none, .entry,
            ⟨0, (branchedExpressionOf selector ifFalse ifTrue).length⟩⟩) ∧
    (∀ value condition, env.context.args[0]? = some value →
      value.condition? = some condition →
      env.resolve
          ("\x7b0?" ++ escapeText ifFalse ++ "|" ++ escapeText ifTrue ++
            "\x7d") =
        ⟨[], .ok (if condition then ifTrue else ifFalse)⟩) ∧
    (∀ key, IsKey key → env.table.templates.get? key = none →
      env.resolve (expressionOf key) = ⟨[.keyMissing key], .ok key⟩ ∧
        env.resolve (branchedExpressionOf key ifFalse ifTrue) =
          ⟨[.keyMissing key], .ok key⟩) ∧
    ∀ key entry, IsKey key → env.table.templates.get? key = some entry →
      let expanded : Run String :=
        ⟨.expanding key 0 :: (env.resolveAt 1 entry).log,
          (env.resolveAt 1 entry).outcome.mapError (.inEntry ⟨key, entry⟩)⟩
      env.resolve (expressionOf key) = expanded ∧
        env.resolve (branchedExpressionOf key ifFalse ifTrue) = expanded := by
  refine ⟨?_, ?_, ?_, ?_⟩
  · intro selector limit render
    exact ⟨scanTemplate_expressionOf limit render selector,
      scanTemplate_branchedExpressionOf limit render selector ifFalse ifTrue⟩
  · intro value condition hasArgument tested
    have isExpression :
        "\x7b0?" ++ escapeText ifFalse ++ "|" ++ escapeText ifTrue ++ "\x7d" =
          branchedExpressionOf "0" ifFalse ifTrue := by
      have opening : "\x7b" ++ escapeText "0" ++ "?" = "\x7b0?" := by decide
      rw [branchedExpressionOf, opening]
    rw [isExpression, resolve_branchedExpressionOf,
      renderAt_of_condition hasArgument tested]
  · intro key isKey missing
    refine ⟨resolve_expressionOf_of_missing isKey missing, ?_⟩
    rw [resolve_branchedExpressionOf]
    exact Expression.render_of_missing isKey.ofText missing
  · intro key entry isKey found expanded
    have within : 0 + 0 ≤ env.limits.maxDepth := Nat.zero_le _
    have rendered (branches : Option Branches) (span : Span) :
        env.renderAt 0 0 ⟨key, branches, none, .entry, span⟩ = expanded := by
      refine Eq.trans (Expression.render_of_found isKey.ofText found
        Site.noConfusion) ?_
      rw [expandAt_of_le within]
      rfl
    constructor
    · rw [resolve, resolveAt_expressionOf, rendered]
    · rw [resolve_branchedExpressionOf, rendered]

/-- An argument that is not a number, a key of the table and a key that is not
in it, with marks in each part. -/
theorem marks_in_branches_are_read_back :
    let env : Environment :=
      ⟨{ templates := Dictionary.insert {} "a/b:c" "x//" }, {},
        ⟨.neither, none, [.number .nan]⟩⟩
    env.resolve "\x7b0?/|/\x7d|////\x7d" = ⟨[], .ok "|\x7d"⟩ ∧
      env.resolve (branchedExpressionOf "?|" "|\x7d" "//") =
        ⟨[.keyMissing "?|"], .ok "?|"⟩ ∧
      env.resolve (branchedExpressionOf "a/b:c" "|\x7d" "//") =
        ⟨[.expanding "a/b:c" 0], .ok "x/"⟩ := by
  intro env
  obtain ⟨-, picked, ofMissing, ofFound⟩ :=
    env.escaped_texts_are_read_back "|\x7d" "//"
  have isTested : (Value.number .nan).condition? = some false := by
    decide +kernel
  have notInTable : IsKey "?|" := by
    refine ⟨by decide, by decide, by decide, by decide, ?_⟩
    intro c isSingle
    cases isSingle
  have inTable : IsKey "a/b:c" := by
    refine ⟨by decide, by decide, by decide, by decide, ?_⟩
    intro c isSingle
    cases isSingle
  have entry : env.resolveAt 1 "x//" = ⟨[], .ok "x/"⟩ := by
    rw [resolveAt]
    rfl
  refine ⟨picked (.number .nan) false rfl isTested,
    (ofMissing "?|" notInTable rfl).2, ?_⟩
  have expanded := (ofFound "a/b:c" "x//" inTable rfl).2
  rw [expanded, entry]
  rfl

end Environment

end Phrasebook
