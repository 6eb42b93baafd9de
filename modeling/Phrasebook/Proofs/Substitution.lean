import Mathlib
import Phrasebook.Proofs.Composition
import Phrasebook.Proofs.Escaping
import Phrasebook.Proofs.Outlines

/-!
# Resolved texts in place of expressions

What an expression resolves to is never read again. So an expression inside
another one may be replaced by its text, with all marks in it escaped: the
template still resolves to the same, and its errors only move with what stands
behind the expression.
-/

namespace Phrasebook

/-! ## Places behind a replaced text -/

/-- Places from `stop` on, where a text ends that is replaced by one of another
length. -/
def displaced (stop removed added place : Nat) : Nat :=
  if stop ≤ place then place - removed + added else place

theorem displaced_of_lt
    {stop removed added place : Nat} (before : place < stop) :
    displaced stop removed added place = place :=
  if_neg (Nat.not_le.mpr before)

theorem displaced_of_le
    {stop removed added place : Nat} (behind : stop ≤ place) :
    displaced stop removed added place = place - removed + added :=
  if_pos behind

theorem displaced_succ_of_le
    {stop removed added place : Nat} (behind : stop ≤ place)
    (fits : removed ≤ stop) :
    displaced stop removed added (place + 1) =
      displaced stop removed added place + 1 := by
  rw [displaced_of_le behind, displaced_of_le (Nat.le_succ_of_le behind)]
  omega

/-! ## Expressions inside expressions -/

/-- Between `before` and `after` stands an expression inside another one. What
stands before it leads to `scan`, where a brace opens it, and the reader takes
just its text for `tree`. -/
structure ExpressionInside (limit : Nat) (before expression after : String)
    (scan : Scan) (tree : SyntaxTree) : Prop where
  reached : (Scan.outline limit before.toList).outcome = .ok scan
  inside : scan.frames ≠ []
  opens : ∃ opened,
    (scan.step limit (fun _ _ => pure "") '\x7b').outcome = .ok opened ∧
      scan.frames.length < opened.frames.length
  reads : ∃ body,
    expression.toList = '\x7b' :: body ∧
      let reading :=
        readExpression limit (before ++ expression ++ after).length
          (Scan.siteIn scan.frames) scan.frames.length (body ++ after.toList)
      reading.value = tree ∧ reading.rest = after.toList

namespace ExpressionInside

variable {limit : Nat} {before expression after : String} {scan : Scan}
  {tree : SyntaxTree}

/-- A pass that gets to the expression, whatever it renders, stands where the
outline stands, in a part of an expression and with no slash waiting. -/
theorem opens_of_pass
    (isInside : ExpressionInside limit before expression after scan tree)
    {render : Nat → Expression → Run String} {real : Scan}
    (passed :
      (before.toList.foldlM (Scan.step limit render) {}).outcome = .ok real) :
    Scan.SameOutline scan real ∧
      ∃ region : Region, region ≠ .outside ∧ real.Opens limit region := by
  have start : Scan.SameOutline {} {} := ⟨rfl, rfl⟩
  have same : Scan.SameOutline scan real :=
    Scan.agree_pass start before.toList scan real isInside.reached passed
  obtain ⟨opened, stepped, deeper⟩ := isInside.opens
  obtain ⟨region, opens⟩ := Scan.exists_opens stepped deeper
  refine ⟨same, region, ?_, opens.of_sameOutline same⟩
  rintro rfl
  exact isInside.inside (Scan.eq_nil_of_outside opens.inRegion)

/-- The pass writes what the expression resolves to, and goes on behind it. -/
theorem complete_expression
    (isInside : ExpressionInside limit before expression after scan tree)
    {render : Nat → Expression → Run String} {real : Scan}
    (passed :
      (before.toList.foldlM (Scan.step limit render) {}).outcome = .ok real) :
    real.complete limit render (expression.toList ++ after.toList) =
      (tree.evaluate render scan.frames.length) >>= fun written =>
        Scan.complete limit render
          (Scan.write
            { real with position := (before ++ expression).length } written)
          after.toList := by
  obtain ⟨same, region, _, opens⟩ := isInside.opens_of_pass passed
  obtain ⟨body, isExpression, isTree, isRest⟩ := isInside.reads
  have reads :=
    (readers_related limit (before ++ expression ++ after).length).2
      (Scan.siteIn scan.frames) scan.frames.length (body ++ after.toList)
  have place : real.position = before.length :=
    Scan.position_of_text passed
  have sameSite : Scan.siteIn real.frames = Scan.siteIn scan.frames := by
    rw [Scan.siteIn_eq opens.inRegion,
      Scan.siteIn_eq (same.region.trans opens.inRegion)]
  have length : expression.length = body.length + 1 := by
    rw [← String.length_toList, isExpression, List.length_cons]
  have size :
      real.position + 1 + (body ++ after.toList).length =
        (before ++ expression ++ after).length := by
    rw [place, List.length_append, String.length_append, String.length_append,
      length, String.length_toList]
    omega
  have behind :
      (before ++ expression ++ after).length - after.toList.length =
        (before ++ expression).length := by
    rw [String.length_toList, String.length_append]
    omega
  rw [isTree, isRest] at reads
  rw [isExpression, List.cons_append,
    Scan.complete_nested opens.settled opens.inRegion opens.shallow,
    opens.settled,
    Scan.complete_readsExpression reads sameSite same.length.symm size, behind]

/-- The pass writes an escaped text as it was, where the expression stood. -/
theorem complete_escapeText
    (isInside : ExpressionInside limit before expression after scan tree)
    {render : Nat → Expression → Run String} {real : Scan}
    (passed :
      (before.toList.foldlM (Scan.step limit render) {}).outcome = .ok real)
    (text : String) :
    real.complete limit render ((escapeText text).toList ++ after.toList) =
      Scan.complete limit render
        (Scan.write
          { real with position := (before ++ escapeText text).length } text)
        after.toList := by
  obtain ⟨_, region, notOutside, opens⟩ := isInside.opens_of_pass passed
  have marks : (escapeText text).toList = escapeMarks text.toList :=
    String.toList_ofList
  have behind :
      real.position + (escapeMarks text.toList).length =
        (before ++ escapeText text).length := by
    rw [Scan.position_of_text passed, String.length_append, ← marks,
      String.length_toList]
  rw [marks, Scan.complete_escapeMarks notOutside text.toList after.toList
    opens.settled opens.inRegion, String.ofList_toList, behind]

end ExpressionInside

/-! ## Passes that know no place behind -/

/-- A state that a change of places leaves alone can be put in another place
and still be followed there. -/
theorem Scan.follows_write
    {change : Nat → Nat} {scan : Scan} (unmoved : scan.moved change "" = scan)
    (settled : scan.slash = false) {place otherPlace : Nat}
    (isOther : change place = otherPlace) (text : String) :
    Scan.Follows change "" place
      (Scan.write { scan with position := place } text)
      (Scan.write { scan with position := otherPlace } text) := by
  have frames : scan.frames.map (Frame.moved change) = scan.frames :=
    congrArg Scan.frames unmoved
  have isMoved :
      Scan.write { scan with position := otherPlace } text =
        (Scan.write { scan with position := place } text).moved change "" := by
    rw [← Scan.moved_write]
    simp only [Scan.moved, isOther, frames, String.empty_append]
  refine ⟨⟨Scan.position_write _ _, isMoved⟩, ?_⟩
  intro waits
  rw [Scan.slash_write, settled] at waits
  cases waits

namespace Environment

/-- A pass that starts with a text comes to no place behind it, neither in its
state nor in an error. -/
theorem pass_unmoved
    (env : Environment) (depth : Nat) {change : Nat → Nat} {text : String}
    (unmoved : ∀ p, p ≤ text.length → change p = p) :
    (movedBy change).Outcomes (fun scan other => other = scan.moved change "")
      (text.toList.foldlM
        (Scan.step env.limits.maxNesting (env.renderAt depth)) {}).outcome
      (text.toList.foldlM
        (Scan.step env.limits.maxNesting (env.renderAt depth)) {}).outcome := by
  have startUnmoved : ({} : Scan) = ({} : Scan).moved change "" := by
    simp [Scan.moved, unmoved 0 (Nat.zero_le _)]
  have start : Scan.Follows change "" 0 {} {} :=
    ⟨⟨rfl, startUnmoved⟩, fun waits => absurd waits Bool.false_ne_true⟩
  have steady (p : Nat) (_ : 0 ≤ p) (inText : p < 0 + text.toList.length) :
      change (p + 1) = change p + 1 := by
    rw [String.length_toList] at inText
    rw [unmoved p (by omega), unmoved (p + 1) (by omega)]
  obtain ⟨_, outcomes⟩ :=
    (Scan.corresponds_pass (env.conforms_movedBy depth change) text.toList start
      steady).of_not_exempt (Comparison.not_exempts_strict _ _ _)
  exact outcomes.mono fun _ _ follows => follows.isMoved

variable {env : Environment} {before expression after text : String}
  {scan : Scan} {tree : SyntaxTree}

/-- The same outcome in other places, for any change of places that leaves those
in front of the expression alone and moves all behind it alike. -/
theorem resolve_escapeText
    (isInside : ExpressionInside env.limits.maxNesting before expression after
      scan tree)
    (resolved : (tree.evaluate (env.renderAt 0) scan.frames.length).outcome =
      .ok text)
    {change : Nat → Nat} (unmoved : ∀ p, p ≤ before.length → change p = p)
    (isOther : change (before ++ expression).length =
      (before ++ escapeText text).length)
    (steady : ∀ p, (before ++ expression).length ≤ p →
      change (p + 1) = change p + 1) :
    (env.resolve (before ++ escapeText text ++ after)).outcome =
      (env.resolve (before ++ expression ++ after)).outcome.mapError
        (ResolveError.moved change) := by
  have reached := env.pass_unmoved 0 unmoved
  rw [String.append_assoc, String.append_assoc, resolve_append_eq,
    resolve_append_eq, String.toList_append, String.toList_append]
  cases passed : (before.toList.foldlM
      (Scan.step env.limits.maxNesting (env.renderAt 0)) {}).outcome with
  | error error =>
      rw [passed] at reached
      rw [Run.bind_of_error passed, Run.bind_of_error passed]
      exact congrArg Except.error (Except.error.inj reached.of_error)
  | ok real =>
      rw [passed] at reached
      obtain ⟨_, isReal, realUnmoved⟩ := reached.of_ok
      cases isReal
      obtain ⟨_, _, _, opens⟩ := isInside.opens_of_pass passed
      -- Both passes have written the same text, each in its own place.
      have behind := Scan.follows_write realUnmoved.symm opens.settled isOther
        text
      obtain ⟨_, outcomes⟩ := env.complete_moved 0 after.toList behind
        fun p fromHere _ => steady p fromHere
      rw [Run.bind_of_ok passed, Run.bind_of_ok passed,
        isInside.complete_expression passed,
        isInside.complete_escapeText passed, Run.bind_of_ok resolved]
      refine Run.outcome_of_outcomes (outcomes.mono ?_)
      rintro written _ rfl
      exact String.empty_append.symm

/-- An expression inside another one may be replaced by what it resolves to,
escaped. The outcome stays the same, but for the places behind the expression,
which move by the difference in length. -/
theorem resolved_text_is_not_rescanned
    (env : Environment)
    (isInside : ExpressionInside env.limits.maxNesting before expression after
      scan tree)
    (resolved : (tree.evaluate (env.renderAt 0) scan.frames.length).outcome =
      .ok text) :
    (env.resolve (before ++ escapeText text ++ after)).outcome =
      (env.resolve (before ++ expression ++ after)).outcome.mapError
        (ResolveError.moved
          (displaced (before ++ expression).length expression.length
            (escapeText text).length)) := by
  have stop :
      (before ++ expression).length = before.length + expression.length :=
    String.length_append _ _
  have nonempty : 0 < expression.length := by
    obtain ⟨body, isExpression, _⟩ := isInside.reads
    rw [← String.length_toList, isExpression]
    exact Nat.succ_pos _
  apply resolve_escapeText isInside resolved
  · intro p notBehind
    exact displaced_of_lt (by omega)
  · rw [displaced_of_le (Nat.le_refl _), stop, String.length_append]
    omega
  · intro p behind
    exact displaced_succ_of_le behind (by omega)

/-- An argument with marks in it, in a branch and behind an escaped slash. -/
theorem marks_of_argument_are_not_rescanned :
    let env : Environment :=
      ⟨{}, {}, { args := [.flag false, .text "|\x7d"] }⟩
    escapeText "|\x7d" = "/|/\x7d" ∧
      (env.resolve
          ("\x7b0?a//" ++ escapeText "|\x7d" ++ "|b\x7d")).outcome =
        (env.resolve
          ("\x7b0?a//" ++ "\x7b1\x7d" ++ "|b\x7d")).outcome.mapError
            (ResolveError.moved (displaced 9 3 4)) := by
  intro env
  have isInside : ExpressionInside 64 "\x7b0?a//" "\x7b1\x7d" "|b\x7d"
      ⟨6, false, "", [⟨0, .ifFalse "0", "a/"⟩]⟩
      (.single .branch ⟨6, 9⟩ (.literal '1' .nil) .plain) := by
    refine ⟨rfl, List.cons_ne_nil _ _, ⟨_, rfl, by decide⟩, _, rfl, ?_⟩
    cbv
    exact ⟨rfl, trivial⟩
  have resolved :
      (SyntaxTree.evaluate (env.renderAt 0) 1
        (.single .branch ⟨6, 9⟩ (.literal '1' .nil) .plain)).outcome =
        .ok "|\x7d" :=
    rfl
  exact ⟨by decide, env.resolved_text_is_not_rescanned isInside resolved⟩

end Environment

end Phrasebook
