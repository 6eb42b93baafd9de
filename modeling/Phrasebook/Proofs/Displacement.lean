import Phrasebook.Proofs.Comparison
import Phrasebook.Proofs.ScanSteps

/-!
# Passes in other places

What a pass does with a text depends neither on the place where the text
stands nor on what has been written before. Two passes over the same text, from
states that differ in that alone, take corresponding steps: their spans are
those of the first pass in the places of the second one. The limits and the
rendering of expressions may differ too, as far as the comparison allows.
-/

namespace Phrasebook

/-! ## Other places -/

def Span.moved (change : Nat → Nat) (span : Span) : Span :=
  ⟨change span.start, change span.stop⟩

/-- An error inside an entry keeps its place, which is one in the text of the
entry. -/
def ResolveError.moved (change : Nat → Nat) (error : ResolveError) :
    ResolveError :=
  match error.entries with
  | [] => { error with span := error.span.moved change }
  | _ :: _ => error

def Expression.moved (change : Nat → Nat) (expression : Expression) :
    Expression :=
  { expression with span := expression.span.moved change }

def Frame.moved (change : Nat → Nat) (frame : Frame) : Frame :=
  { frame with start := change frame.start }

theorem ResolveError.moved_inEntry
    (change : Nat → Nat) (entry : Entry) (error : ResolveError) :
    (error.inEntry entry).moved change = error.inEntry entry :=
  rfl

/-- Errors outside all entries are the same ones in other places. -/
def Comparison.Moves (comparison : Comparison) (change : Nat → Nat) : Prop :=
  ∀ cause span,
    comparison.error (.raised cause span) = .raised cause (span.moved change)

theorem Comparison.Moves.corresponds_raise
    {α β : Type} {answers : α → β → Prop} {comparison : Comparison}
    {change : Nat → Nat} (moves : comparison.Moves change) {cause : Cause}
    {span otherSpan : Span} (isMoved : otherSpan = span.moved change) :
    (Run.fail (.raised cause span) : Run α).Corresponds comparison answers
      (Run.fail (.raised cause otherSpan)) := by
  subst isMoved
  exact Run.corresponds_fail (moves cause span).symm

namespace Scan

def moved (change : Nat → Nat) (written : String) (scan : Scan) : Scan where
  position := change scan.position
  slash := scan.slash
  output := written ++ scan.output
  frames := scan.frames.map (Frame.moved change)

variable {change : Nat → Nat} {written : String}

theorem moved_id (scan : Scan) : scan.moved id "" = scan := by
  have sameFrames : scan.frames.map (Frame.moved id) = scan.frames :=
    List.map_id _
  simp only [moved, sameFrames, String.empty_append, id_eq]

theorem moved_push (scan : Scan) (c : Char) :
    (scan.moved change written).push c =
      (scan.push c).moved change written := by
  obtain ⟨position, slash, output, frames⟩ := scan
  cases frames with
  | nil =>
      have pushed : (written ++ output).push c = written ++ output.push c := by
        apply String.toList_injective
        simp
      simp only [moved, push, List.map_nil, pushed]
  | cons frame outer =>
      rfl

theorem moved_write (scan : Scan) (text : String) :
    (scan.moved change written).write text =
      (scan.write text).moved change written := by
  obtain ⟨position, slash, output, frames⟩ := scan
  cases frames with
  | nil =>
      simp only [moved, write, List.map_nil, String.append_assoc]
  | cons frame outer =>
      rfl

theorem moved_escapes (scan : Scan) (c : Char) :
    (scan.moved change written).escapes c = scan.escapes c := by
  obtain ⟨position, slash, output, frames⟩ := scan
  rcases frames with _ | ⟨⟨start, _ | _ | _ | _, buffer⟩, outer⟩ <;> rfl

theorem siteIn_moved (frames : List Frame) :
    siteIn (frames.map (Frame.moved change)) = siteIn frames := by
  rcases frames with _ | ⟨⟨start, _ | _ | _ | _, buffer⟩, outer⟩ <;> rfl

theorem part_moved (frame : Frame) :
    (frame.moved change).part = frame.part := by
  obtain ⟨start, _ | _ | _ | _, buffer⟩ := frame <;> rfl

theorem behind_moved (frame : Frame) (c : Char) :
    (frame.moved change).behind c =
      (frame.behind c).map (Frame.moved change) := by
  obtain ⟨start, stage, buffer⟩ := frame
  cases stage with
  | selector =>
      simp only [Frame.behind, Frame.moved]
      split
      · rfl
      · split <;> rfl
  | ifFalse selector | ifTrue selector ifFalse =>
      simp only [Frame.behind, Frame.moved]
      split <;> rfl
  | specifier selector branches =>
      rfl

theorem finished_moved (frame : Frame) (outer : List Frame) (span : Span) :
    finished (frame.moved change) (outer.map (Frame.moved change))
        (span.moved change) =
      (finished frame outer span).map (Expression.moved change) := by
  obtain ⟨start, stage, buffer⟩ := frame
  cases stage <;>
    simp only [finished, Frame.moved, siteIn_moved, Except.map,
      Expression.moved]

/-! ## Steps -/

/-- The rendering of the second pass does what the comparison tells of the
first one. Where the second pass nests deeper, the first one's refusal is
exempt. -/
structure Conforms (comparison : Comparison) (change : Nat → Nat)
    (limit otherLimit : Nat)
    (render otherRender : Nat → Expression → Run String) : Prop where
  moves : comparison.Moves change
  limits : otherLimit = limit ∨
    (limit ≤ otherLimit ∧ ∀ span,
      comparison.exemptsError (.raised (.nestingTooDeep limit) span))
  renders : ∀ level expression,
    (render level expression).Corresponds comparison Eq
      (otherRender level (expression.moved change))

/-- A state at a place of the first pass, and the same one in another place of
the second pass. -/
structure Alike (change : Nat → Nat) (written : String) (place : Nat)
    (scan other : Scan) : Prop where
  position : scan.position = place
  isMoved : other = scan.moved change written

/-- States between two steps. A slash that waits stands right before the place
in both passes. -/
structure Follows (change : Nat → Nat) (written : String) (place : Nat)
    (scan other : Scan) : Prop extends
    Alike change written place scan other where
  pending : scan.slash = true → change (place - 1) = change place - 1

section Steps

variable {comparison : Comparison} {limit otherLimit : Nat}
  {render otherRender : Nat → Expression → Run String}

theorem corresponds_openExpression
    (conforms :
      Conforms comparison change limit otherLimit render otherRender)
    (scan : Scan)
    (steady : change (scan.position + 1) = change scan.position + 1) :
    (scan.openExpression limit).Corresponds comparison
      (Alike change written scan.position)
      ((scan.moved change written).openExpression otherLimit) := by
  have sameLength :
      (scan.moved change written).frames.length = scan.frames.length := by
    simp only [moved, List.length_map]
  have opened : Alike change written scan.position
      { scan with frames := ⟨scan.position, .selector, ""⟩ :: scan.frames }
      { scan.moved change written with
        frames := ⟨(scan.moved change written).position, .selector, ""⟩ ::
          (scan.moved change written).frames } :=
    ⟨rfl, rfl⟩
  unfold openExpression
  rw [sameLength]
  by_cases deep : limit < scan.frames.length
  · rw [if_pos deep]
    rcases conforms.limits with sameLimit | ⟨_, exempt⟩
    · subst sameLimit
      rw [if_pos deep]
      apply conforms.moves.corresponds_raise
      simp only [Span.moved, moved, steady]
    · exact .inl (.inr ⟨_, rfl, exempt _⟩)
  · have shallow : ¬ otherLimit < scan.frames.length := by
      rcases conforms.limits with sameLimit | ⟨deeper, _⟩ <;> omega
    rw [if_neg deep, if_neg shallow]
    exact Run.corresponds_pure opened

theorem corresponds_closeExpression
    (conforms :
      Conforms comparison change limit otherLimit render otherRender)
    (scan : Scan) (frame : Frame) (outer : List Frame)
    (steady : change (scan.position + 1) = change scan.position + 1) :
    (closeExpression render scan frame outer).Corresponds comparison
      (Alike change written scan.position)
      (closeExpression otherRender (scan.moved change written)
        (frame.moved change) (outer.map (Frame.moved change))) := by
  have samePlace :
      (⟨(frame.moved change).start,
        (scan.moved change written).position + 1⟩ : Span) =
        Span.moved change ⟨frame.start, scan.position + 1⟩ := by
    simp only [Span.moved, Frame.moved, moved, steady]
  unfold closeExpression
  simp only [samePlace, finished_moved]
  cases finished frame outer ⟨frame.start, scan.position + 1⟩ with
  | error cause =>
      exact conforms.moves.corresponds_raise rfl
  | ok expression =>
      simp only [Except.map, List.length_map]
      refine (conforms.renders outer.length expression).bind ?_
      rintro text _ rfl
      have closed :
          (moved change written { scan with frames := outer }).write text =
            (write { scan with frames := outer } text).moved change written :=
        moved_write _ _
      exact Run.corresponds_pure ⟨position_write _ _, closed⟩

theorem corresponds_read
    (conforms :
      Conforms comparison change limit otherLimit render otherRender)
    (scan : Scan) (c : Char)
    (steady : change (scan.position + 1) = change scan.position + 1) :
    (scan.read limit render c).Corresponds comparison
      (Alike change written scan.position)
      ((scan.moved change written).read otherLimit otherRender c) := by
  have opens : Run.Corresponds comparison
      (Alike change written scan.position) (scan.openExpression limit)
      ((scan.moved change written).openExpression otherLimit) :=
    corresponds_openExpression conforms scan steady
  have pushes : Run.Corresponds comparison
      (Alike change written scan.position) (pure (scan.push c))
      (pure ((scan.moved change written).push c)) :=
    Run.corresponds_pure ⟨position_push _ _, moved_push _ _⟩
  by_cases isSlash : c = '/'
  · simp only [read, isSlash, if_true]
    exact Run.corresponds_pure ⟨rfl, rfl⟩
  obtain ⟨position, slash, output, frames⟩ := scan
  cases frames with
  | nil =>
      simp only [read, isSlash, if_false, moved, List.map_nil]
      split
      · exact opens
      · exact pushes
  | cons frame outer =>
      by_cases isBrace : c = '\x7d'
      · simp only [read, moved, List.map_cons, isBrace, if_true]
        exact corresponds_closeExpression conforms _ _ _ steady
      · have movedFrames :
            (moved change written
                ⟨position, slash, output, frame :: outer⟩).frames =
              frame.moved change :: outer.map (Frame.moved change) :=
          rfl
        rw [read_inside rfl isSlash isBrace,
          read_inside movedFrames isSlash isBrace, part_moved, behind_moved]
        by_cases isOpening : c = '\x7b' ∧ frame.part.isSome
        · rw [if_pos isOpening, if_pos isOpening]
          exact opens
        · rw [if_neg isOpening, if_neg isOpening]
          cases frame.behind c with
          | none =>
              exact pushes
          | some next =>
              exact Run.corresponds_pure ⟨rfl, rfl⟩

theorem corresponds_advance
    {place : Nat} (steady : change (place + 1) = change place + 1)
    {run other : Run Scan}
    (corresponds : run.Corresponds comparison (Alike change written place)
      other) :
    Run.Corresponds comparison (Follows change written (place + 1))
      (run >>= fun next =>
        pure { next with position := next.position + 1 })
      (other >>= fun next =>
        pure { next with position := next.position + 1 }) := by
  refine corresponds.bind ?_
  rintro next _ ⟨rfl, rfl⟩
  have moves :
      ({ next.moved change written with
        position := (next.moved change written).position + 1 } : Scan) =
        moved change written { next with position := next.position + 1 } := by
    simp only [moved, steady]
  refine Run.corresponds_pure ⟨⟨rfl, moves⟩, ?_⟩
  intro _
  rw [steady]
  rfl

/-- One step of a pass, and the same step in another place. -/
theorem corresponds_step
    (conforms :
      Conforms comparison change limit otherLimit render otherRender)
    (scan : Scan) (c : Char)
    (steady : change (scan.position + 1) = change scan.position + 1) :
    (scan.step limit render c).Corresponds comparison
      (Follows change written (scan.position + 1))
      ((scan.moved change written).step otherLimit otherRender c) := by
  have sameSlash : (scan.moved change written).slash = scan.slash := rfl
  have released :
      ({ scan.moved change written with slash := false } : Scan) =
        moved change written { scan with slash := false } :=
    rfl
  unfold step
  simp only [sameSlash, moved_escapes, released, moved_push]
  by_cases waits : scan.slash = true
  · simp only [waits, if_true]
    by_cases escaped : scan.escapes c = true
    · simp only [escaped, if_true]
      refine corresponds_advance steady (Run.corresponds_pure ⟨?_, rfl⟩)
      exact position_push _ _
    · simp only [escaped]
      have samePlace :
          (push { scan with slash := false } '/').position = scan.position :=
        position_push _ _
      have reads : Run.Corresponds comparison
          (Alike change written
            (push { scan with slash := false } '/').position)
          (read limit render (push { scan with slash := false } '/') c)
          (read otherLimit otherRender
            (moved change written (push { scan with slash := false } '/')) c) :=
        corresponds_read conforms _ c (by rwa [samePlace])
      rw [samePlace] at reads
      exact corresponds_advance steady reads
  · simp only [waits]
    exact corresponds_advance steady (corresponds_read conforms scan c steady)

/-! ## Passes -/

/-- Corresponding steps make up corresponding passes, as long as both passes
move on alike. -/
theorem corresponds_pass
    (conforms :
      Conforms comparison change limit otherLimit render otherRender)
    (text : List Char) {place : Nat} {scan other : Scan}
    (follows : Follows change written place scan other)
    (steady : ∀ p, place ≤ p → p < place + text.length →
      change (p + 1) = change p + 1) :
    (text.foldlM (step limit render) scan).Corresponds comparison
      (Follows change written (place + text.length))
      (text.foldlM (step otherLimit otherRender) other) := by
  induction text generalizing place scan other with
  | nil =>
      exact Run.corresponds_pure follows
  | cons c rest inductionHypothesis =>
      obtain ⟨⟨rfl, rfl⟩, _⟩ := follows
      have first : change (scan.position + 1) = change scan.position + 1 :=
        steady scan.position (Nat.le_refl _) (by simp)
      rw [List.foldlM_cons, List.foldlM_cons]
      refine (corresponds_step conforms scan c first).bind ?_
      intro next otherNext nextFollows
      have restSteady (p : Nat) (fromNext : scan.position + 1 ≤ p)
          (inside : p < scan.position + 1 + rest.length) :
          change (p + 1) = change p + 1 := by
        apply steady p (by omega)
        rw [List.length_cons]
        omega
      have places :
          scan.position + (c :: rest).length =
            scan.position + 1 + rest.length := by
        rw [List.length_cons]
        omega
      rw [places]
      exact inductionHypothesis nextFollows restSteady

theorem corresponds_finish
    (conforms :
      Conforms comparison change limit otherLimit render otherRender)
    {place : Nat} {scan other : Scan}
    (follows : Follows change written place scan other) :
    scan.finish.Corresponds comparison
      (fun text otherText => otherText = written ++ text) other.finish := by
  obtain ⟨⟨rfl, rfl⟩, pending⟩ := follows
  obtain ⟨position, slash, output, frames⟩ := scan
  cases frames with
  | cons frame outer =>
      exact conforms.moves.corresponds_raise rfl
  | nil =>
      simp only [finish, moved, List.map_nil]
      cases slash with
      | false =>
          exact Run.corresponds_pure rfl
      | true =>
          apply conforms.moves.corresponds_raise
          simp only [Span.moved, pending rfl]

/-- Passes over the same text in two places write the same behind what was
written before, as long as no place is moved apart from the next one. -/
theorem corresponds_complete
    (conforms :
      Conforms comparison change limit otherLimit render otherRender)
    (text : List Char) {place : Nat} {scan other : Scan}
    (follows : Follows change written place scan other)
    (steady : ∀ p, place ≤ p → p < place + text.length →
      change (p + 1) = change p + 1) :
    (scan.complete limit render text).Corresponds comparison
      (fun written' otherText => otherText = written ++ written')
      (other.complete otherLimit otherRender text) := by
  refine (corresponds_pass conforms text follows steady).bind ?_
  intro last otherLast lastFollows
  exact corresponds_finish conforms lastFollows

/-- A pass moves on by the length of the text. -/
theorem position_of_pass
    {text : List Char} {scan last : Scan}
    (passed : (text.foldlM (step limit render) scan).outcome = .ok last) :
    last.position = scan.position + text.length := by
  have conforms : Conforms (.strict id id) id limit limit render render :=
    ⟨fun _ _ => rfl, .inl rfl,
      fun _ _ => Run.corresponds_refl fun _ _ => rfl⟩
  have follows : Follows id "" scan.position scan scan :=
    ⟨⟨rfl, (moved_id scan).symm⟩, fun _ => rfl⟩
  obtain ⟨_, outcomes⟩ :=
    (corresponds_pass conforms text follows fun _ _ _ => rfl).of_not_exempt
      (Comparison.not_exempts_strict _ _ _)
  rw [passed] at outcomes
  cases outcomes with
  | ok lastFollows =>
      exact lastFollows.position

theorem complete_append
    (scan : Scan) (first second : List Char) :
    scan.complete limit render (first ++ second) =
      (first.foldlM (step limit render) scan) >>= fun next =>
        next.complete limit render second := by
  simp only [complete, List.foldlM_append, bind_assoc]

end Steps

end Scan

end Phrasebook
