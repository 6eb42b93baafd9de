import Phrasebook.Proofs.ScanSteps

/-!
# Outlines of passes

Which expressions are open, and in which of their parts a pass stands, depends
on the text alone and not on what expressions are rendered as. So a pass that
renders nothing tells where a text leads to, and every pass that gets so far
stands there as well.
-/

namespace Phrasebook

/-! ## Runs that may fail -/

namespace Run

variable {α β : Type}

/-- Where both runs answer, their answers are related. -/
def Agree (answers : α → β → Prop) (run : Run α) (other : Run β) : Prop :=
  ∀ value otherValue,
    run.outcome = .ok value →
    other.outcome = .ok otherValue →
    answers value otherValue

variable {answers : α → β → Prop}

theorem agree_pure
    {value : α} {other : β} (related : answers value other) :
    (pure value : Run α).Agree answers (pure other) := by
  intro _ _ answered otherAnswered
  cases answered
  cases otherAnswered
  exact related

theorem agree_fail_left (error : ResolveError) (other : Run β) :
    (fail error : Run α).Agree answers other := by
  intro _ _ answered
  cases answered

theorem agree_fail_right (run : Run α) (error : ResolveError) :
    run.Agree answers (fail error : Run β) := by
  intro _ _ _ answered
  cases answered

theorem agree_any (run : Run α) (other : Run β) :
    run.Agree (fun _ _ => True) other :=
  fun _ _ _ _ => trivial

theorem Agree.bind
    {γ δ : Type} {results : γ → δ → Prop} {run : Run α} {other : Run β}
    {next : α → Run γ} {otherNext : β → Run δ} (agree : run.Agree answers other)
    (nextAgree : ∀ value otherValue, answers value otherValue →
      (next value).Agree results (otherNext otherValue)) :
    (run >>= next).Agree results (other >>= otherNext) := by
  obtain ⟨log, outcome⟩ := run
  obtain ⟨otherLog, otherOutcome⟩ := other
  cases outcome with
  | error error =>
      exact agree_fail_left error _
  | ok value =>
      cases otherOutcome with
      | error error =>
          exact agree_fail_right _ error
      | ok otherValue =>
          exact nextAgree value otherValue (agree value otherValue rfl rfl)

end Run

/-! ## Outlines -/

namespace Scan

/-- The states differ in texts and places alone. -/
structure SameOutline (scan other : Scan) : Prop where
  slash : scan.slash = other.slash
  parts : scan.frames.map Frame.part = other.frames.map Frame.part

namespace SameOutline

variable {scan other : Scan}

theorem length (same : SameOutline scan other) :
    scan.frames.length = other.frames.length := by
  have sameLength := congrArg List.length same.parts
  rwa [List.length_map, List.length_map] at sameLength

theorem region (same : SameOutline scan other) :
    regionOf scan.frames = regionOf other.frames := by
  obtain ⟨position, slash, output, frames⟩ := scan
  obtain ⟨otherPosition, otherSlash, otherOutput, otherFrames⟩ := other
  have parts := same.parts
  cases frames with
  | nil =>
      cases otherFrames with
      | nil =>
          rfl
      | cons frame outer =>
          cases parts
  | cons frame outer =>
      cases otherFrames with
      | nil =>
          cases parts
      | cons otherFrame otherOuter =>
          rw [regionOf_cons, regionOf_cons]
          exact (List.cons.inj parts).1

theorem escapes (same : SameOutline scan other) (c : Char) :
    scan.escapes c = other.escapes c := by
  have sameRegion := same.region
  obtain ⟨position, slash, output, frames⟩ := scan
  obtain ⟨otherPosition, otherSlash, otherOutput, otherFrames⟩ := other
  rcases frames with _ | ⟨⟨start, _ | _ | _ | _, buffer⟩, outer⟩ <;>
    rcases otherFrames with
      _ | ⟨⟨otherStart, _ | _ | _ | _, otherBuffer⟩, otherOuter⟩ <;>
    cases sameRegion <;>
    rfl

end SameOutline

theorem parts_write (scan : Scan) (text : String) :
    (scan.write text).frames.map Frame.part = scan.frames.map Frame.part := by
  obtain ⟨position, slash, output, frames⟩ := scan
  rcases frames with _ | ⟨⟨start, _ | _ | _ | _, buffer⟩, outer⟩ <;> rfl

theorem parts_push (scan : Scan) (c : Char) :
    (scan.push c).frames.map Frame.part = scan.frames.map Frame.part := by
  obtain ⟨position, slash, output, frames⟩ := scan
  rcases frames with _ | ⟨⟨start, _ | _ | _ | _, buffer⟩, outer⟩ <;> rfl

namespace SameOutline

variable {scan other : Scan}

theorem write (same : SameOutline scan other) (text otherText : String) :
    SameOutline (scan.write text) (other.write otherText) where
  slash := by
    rw [slash_write, slash_write, same.slash]
  parts := by
    rw [parts_write, parts_write, same.parts]

theorem push (same : SameOutline scan other) (c : Char) :
    SameOutline (scan.push c) (other.push c) where
  slash := by
    rw [slash_push, slash_push, same.slash]
  parts := by
    rw [parts_push, parts_push, same.parts]

end SameOutline

/-! ## Steps -/

section Steps

variable {limit otherLimit : Nat}
  {render otherRender : Nat → Expression → Run String} {scan other : Scan}

theorem agree_openExpression (same : SameOutline scan other) :
    (scan.openExpression limit).Agree SameOutline
      (other.openExpression otherLimit) := by
  have opened : SameOutline
      { scan with frames := ⟨scan.position, .selector, ""⟩ :: scan.frames }
      { other with
        frames := ⟨other.position, .selector, ""⟩ :: other.frames } :=
    ⟨same.slash, congrArg (List.cons (some Region.selector)) same.parts⟩
  unfold openExpression
  by_cases deep : limit < scan.frames.length
  · rw [if_pos deep]
    exact Run.agree_fail_left _ _
  · rw [if_neg deep]
    by_cases otherDeep : otherLimit < other.frames.length
    · rw [if_pos otherDeep]
      exact Run.agree_fail_right _ _
    · rw [if_neg otherDeep]
      exact Run.agree_pure opened

theorem agree_closeExpression
    {frame otherFrame : Frame} {outer otherOuter : List Frame}
    (sameSlash : scan.slash = other.slash)
    (sameOuter : outer.map Frame.part = otherOuter.map Frame.part) :
    (closeExpression render scan frame outer).Agree SameOutline
      (closeExpression otherRender other otherFrame otherOuter) := by
  have closed :
      SameOutline { scan with frames := outer }
        { other with frames := otherOuter } :=
    ⟨sameSlash, sameOuter⟩
  simp only [closeExpression]
  cases finished frame outer ⟨frame.start, scan.position + 1⟩ with
  | error cause =>
      exact Run.agree_fail_left _ _
  | ok expression =>
      cases finished otherFrame otherOuter
          ⟨otherFrame.start, other.position + 1⟩ with
      | error cause =>
          exact Run.agree_fail_right _ _
      | ok otherExpression =>
          refine (Run.agree_any _ _).bind ?_
          intro text otherText _
          exact Run.agree_pure (closed.write text otherText)

/-- The part that a mark leads to depends on the part alone. -/
theorem part_behind
    {frame other : Frame} (samePart : frame.part = other.part) (c : Char) :
    (frame.behind c).map Frame.part = (other.behind c).map Frame.part := by
  obtain ⟨start, stage, buffer⟩ := frame
  obtain ⟨otherStart, otherStage, otherBuffer⟩ := other
  cases stage <;>
    cases otherStage <;>
    cases samePart
  case selector =>
      simp only [Frame.behind]
      split
      · rfl
      · split <;> rfl
  case specifier =>
      rfl
  all_goals
    simp only [Frame.behind]
    split <;> rfl

/-- Reading a character keeps outlines the same, whatever is rendered. -/
theorem agree_read (same : SameOutline scan other) (c : Char) :
    (scan.read limit render c).Agree SameOutline
      (other.read otherLimit otherRender c) := by
  have opens :
      (scan.openExpression limit).Agree SameOutline
        (other.openExpression otherLimit) :=
    agree_openExpression same
  have pushes :
      (pure (scan.push c) : Run Scan).Agree SameOutline
        (pure (other.push c)) :=
    Run.agree_pure (same.push c)
  obtain ⟨sameSlash, parts⟩ := same
  by_cases isSlash : c = '/'
  · simp only [read, isSlash, if_true]
    exact Run.agree_pure ⟨rfl, parts⟩
  obtain ⟨position, slash, output, frames⟩ := scan
  obtain ⟨otherPosition, otherSlash, otherOutput, otherFrames⟩ := other
  cases frames with
  | nil =>
      cases otherFrames with
      | cons otherFrame otherOuter =>
          cases parts
      | nil =>
          simp only [read, isSlash, if_false]
          split
          · exact opens
          · exact pushes
  | cons frame outer =>
      cases otherFrames with
      | nil =>
          cases parts
      | cons otherFrame otherOuter =>
          obtain ⟨samePart, sameOuter⟩ := List.cons.inj parts
          by_cases isBrace : c = '\x7d'
          · simp only [read, isBrace, if_true]
            exact agree_closeExpression sameSlash sameOuter
          · rw [read_inside rfl isSlash isBrace,
              read_inside rfl isSlash isBrace, ← samePart]
            by_cases isOpening : c = '\x7b' ∧ frame.part.isSome
            · rw [if_pos isOpening, if_pos isOpening]
              exact opens
            · rw [if_neg isOpening, if_neg isOpening]
              have sameBehind := part_behind samePart c
              cases behind : frame.behind c with
              | none =>
                  rw [behind] at sameBehind
                  rw [Option.map_eq_none_iff.mp sameBehind.symm]
                  exact pushes
              | some next =>
                  rw [behind] at sameBehind
                  obtain ⟨otherNext, otherBehind, sameNext⟩ :=
                    Option.map_eq_some_iff.mp sameBehind.symm
                  have sameParts :=
                    List.cons_eq_cons.mpr ⟨sameNext.symm, sameOuter⟩
                  rw [otherBehind]
                  exact Run.agree_pure ⟨sameSlash, sameParts⟩

/-- Passes over the same character meet the same structure. -/
theorem agree_step (same : SameOutline scan other) (c : Char) :
    (scan.step limit render c).Agree SameOutline
      (other.step otherLimit otherRender c) := by
  have released :
      SameOutline { scan with slash := false } { other with slash := false } :=
    ⟨rfl, same.parts⟩
  have advances (next otherNext : Scan)
      (nextSame : SameOutline next otherNext) :
      (pure { next with position := next.position + 1 } : Run Scan).Agree
        SameOutline
        (pure { otherNext with position := otherNext.position + 1 }) :=
    Run.agree_pure ⟨nextSame.slash, nextSame.parts⟩
  unfold step
  simp only [← same.slash, ← same.escapes]
  by_cases waits : scan.slash = true
  · simp only [waits, if_true]
    by_cases escaped : scan.escapes c = true
    · simp only [escaped, if_true]
      exact (Run.agree_pure (released.push c)).bind advances
    · simp only [escaped]
      exact (agree_read (released.push '/') c).bind advances
  · simp only [waits]
    exact (agree_read same c).bind advances

/-- Passes over the same text stand in the same parts, as far as both get. -/
theorem agree_pass (same : SameOutline scan other) (text : List Char) :
    (text.foldlM (step limit render) scan).Agree SameOutline
      (text.foldlM (step otherLimit otherRender) other) := by
  induction text generalizing scan other with
  | nil =>
      exact Run.agree_pure same
  | cons c rest inductionHypothesis =>
      rw [List.foldlM_cons, List.foldlM_cons]
      refine (agree_step same c).bind ?_
      intro next otherNext nextSame
      exact inductionHypothesis nextSame

end Steps

/-! ## Outlines of texts -/

/-- A pass that renders nothing. -/
def outline (limit : Nat) (text : List Char) : Run Scan :=
  text.foldlM (step limit fun _ _ => pure "") {}

/-- A state in which a brace opens an expression. -/
structure Opens (limit : Nat) (region : Region) (scan : Scan) : Prop where
  settled : scan.slash = false
  inRegion : regionOf scan.frames = some region
  shallow : scan.frames.length ≤ limit

theorem Opens.of_sameOutline
    {limit : Nat} {region : Region} {scan other : Scan}
    (opens : scan.Opens limit region) (same : SameOutline scan other) :
    other.Opens limit region where
  settled := same.slash.symm.trans opens.settled
  inRegion := same.region.symm.trans opens.inRegion
  shallow := by
    rw [← same.length]
    exact opens.shallow

/-- Only where nothing escapes it, outside specifiers and not too deep does a
brace make one more expression stand open. -/
theorem exists_opens
    {limit : Nat} {render : Nat → Expression → Run String} {scan next : Scan}
    (stepped : (scan.step limit render '\x7b').outcome = .ok next)
    (deeper : scan.frames.length < next.frames.length) :
    ∃ region, scan.Opens limit region := by
  have notWritten (written : next.frames.length = scan.frames.length) :
      False :=
    absurd deeper (Nat.not_lt.mpr (Nat.le_of_eq written))
  cases inRegion : regionOf scan.frames with
  | none =>
      exfalso
      obtain ⟨position, slash, output, frames⟩ := scan
      rcases frames with _ | ⟨⟨start, _ | _ | _ | _, buffer⟩, outer⟩ <;>
        cases inRegion
      -- What is left is a specifier, which takes the brace as it is.
      cases slash <;>
        cases stepped <;>
        exact notWritten rfl
  | some region =>
      cases waits : scan.slash with
      | true =>
          exfalso
          have escaped : scan.escapes '\x7b' = true := by
            rw [escapes_eq inRegion]
            cases region <;> rfl
          simp only [step, waits, escaped, if_true, pure_bind] at stepped
          cases stepped
          exact notWritten (length_frames_push _ _)
      | false =>
          have shallow : ¬ limit < scan.frames.length := by
            intro deep
            simp only [step, waits, Bool.false_eq_true, if_false,
              read_brace inRegion, openExpression, deep, if_true,
              Run.fail_bind] at stepped
            cases stepped
          exact ⟨region, waits, inRegion, Nat.not_lt.mp shallow⟩

end Scan

end Phrasebook
