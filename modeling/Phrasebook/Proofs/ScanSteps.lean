import Phrasebook.Proofs.Reader

/-!
# Steps of the pass

What a pass over a template does with the next characters, in terms of the
region in which it stands. The one character of lookahead that a slash needs is
dealt with here: between two of these steps no slash waits.
-/

namespace Phrasebook

/-! ## Texts that grow -/

theorem push_append
    (first : String) (c : Char) (second : String) :
    first.push c ++ second = first ++ (String.singleton c ++ second) := by
  apply String.toList_injective
  simp

theorem push_append_ofList
    (text : String) (c : Char) (rest : List Char) :
    text.push c ++ String.ofList rest = text ++ String.ofList (c :: rest) := by
  apply String.toList_injective
  simp

namespace Scan

@[simp]
theorem slash_push (scan : Scan) (c : Char) :
    (scan.push c).slash = scan.slash := by
  unfold push
  split <;> rfl

@[simp]
theorem slash_write (scan : Scan) (text : String) :
    (scan.write text).slash = scan.slash := by
  unfold write
  split <;> rfl

theorem write_empty (scan : Scan) : scan.write "" = scan := by
  obtain ⟨position, slash, output, frames⟩ := scan
  cases frames <;> simp [write]

theorem write_push
    (scan : Scan) (c : Char) (position : Nat) (text : String) :
    write { scan.push c with position := position } text =
      write { scan with position := position }
        (String.singleton c ++ text) := by
  obtain ⟨here, slash, output, frames⟩ := scan
  cases frames <;> simp [write, push, push_append]

theorem write_write
    (scan : Scan) (position : Nat) (first second : String) :
    write { scan.write first with position := position } second =
      write { scan with position := position } (first ++ second) := by
  obtain ⟨here, slash, output, frames⟩ := scan
  cases frames <;> simp [write, String.append_assoc]

/-! ## Regions -/

/-- The region in which a pass stands. A specifier is no region. -/
def regionOf : List Frame → Option Region
  | [] => some .outside
  | ⟨_, .selector, _⟩ :: _ => some .selector
  | ⟨_, .ifFalse _, _⟩ :: _ => some .ifFalse
  | ⟨_, .ifTrue _ _, _⟩ :: _ => some .ifTrue
  | ⟨_, .specifier _ _, _⟩ :: _ => none

theorem escapes_eq
    {scan : Scan} {region : Region}
    (inRegion : regionOf scan.frames = some region) (c : Char) :
    scan.escapes c = region.escapes c := by
  obtain ⟨position, slash, output, frames⟩ := scan
  rcases frames with _ | ⟨⟨start, _ | _ | _ | _, buffer⟩, outer⟩ <;>
    cases inRegion <;>
    rfl

theorem siteIn_eq
    {frames : List Frame} {region : Region}
    (inRegion : regionOf frames = some region) :
    siteIn frames = region.site := by
  rcases frames with _ | ⟨⟨start, _ | _ | _ | _, buffer⟩, outer⟩ <;>
    cases inRegion <;>
    rfl

theorem eq_nil_of_outside
    {frames : List Frame} (inRegion : regionOf frames = some .outside) :
    frames = [] := by
  rcases frames with _ | ⟨⟨start, _ | _ | _ | _, buffer⟩, outer⟩ <;>
    cases inRegion
  rfl

@[simp]
theorem regionOf_push (scan : Scan) (c : Char) :
    regionOf (scan.push c).frames = regionOf scan.frames := by
  obtain ⟨position, slash, output, frames⟩ := scan
  rcases frames with _ | ⟨⟨start, _ | _ | _ | _, buffer⟩, outer⟩ <;> rfl

@[simp]
theorem regionOf_write (scan : Scan) (text : String) :
    regionOf (scan.write text).frames = regionOf scan.frames := by
  obtain ⟨position, slash, output, frames⟩ := scan
  rcases frames with _ | ⟨⟨start, _ | _ | _ | _, buffer⟩, outer⟩ <;> rfl

/-! ## Characters inside an expression -/

end Scan

def Frame.part (frame : Frame) : Option Region :=
  Scan.regionOf [frame]

/-- The expression behind a mark that ends the part that is being read. -/
def Frame.behind (frame : Frame) (c : Char) : Option Frame :=
  match frame.stage with
  | .selector =>
      if c = '?' then
        some ⟨frame.start, .ifFalse frame.buffer, ""⟩
      else if c = ':' then
        some ⟨frame.start, .specifier frame.buffer none, ""⟩
      else
        none
  | .ifFalse selector =>
      if c = '|' then
        some ⟨frame.start, .ifTrue selector frame.buffer, ""⟩
      else
        none
  | .ifTrue selector ifFalse =>
      if c = ':' then
        some ⟨frame.start,
          .specifier selector (some ⟨ifFalse, frame.buffer⟩), ""⟩
      else
        none
  | .specifier _ _ => none

namespace Scan

theorem regionOf_cons (frame : Frame) (outer : List Frame) :
    regionOf (frame :: outer) = frame.part := by
  obtain ⟨start, _ | _ | _ | _, buffer⟩ := frame <;> rfl

/-- Inside an expression a brace opens another one, a mark ends a part, and
anything else is written. -/
theorem read_inside
    {limit : Nat} {render : Nat → Expression → Run String} {scan : Scan}
    {frame : Frame} {outer : List Frame} {c : Char}
    (isInside : scan.frames = frame :: outer) (notSlash : c ≠ '/')
    (notClosing : c ≠ '\x7d') :
    scan.read limit render c =
      if c = '\x7b' ∧ frame.part.isSome then
        scan.openExpression limit
      else
        match frame.behind c with
        | some next => pure { scan with frames := next :: outer }
        | none => pure (scan.push c) := by
  obtain ⟨start, stage, buffer⟩ := frame
  cases stage with
  | selector =>
      simp only [read, isInside, notSlash, notClosing, if_false, Frame.behind,
        Frame.part, regionOf, Option.isSome_some, and_true]
      by_cases opens : c = '\x7b'
      · rw [if_pos opens, if_pos opens]
      · rw [if_neg opens, if_neg opens]
        split
        · rfl
        · split <;> rfl
  | ifFalse selector | ifTrue selector ifFalse =>
      simp only [read, isInside, notSlash, notClosing, if_false, Frame.behind,
        Frame.part, regionOf, Option.isSome_some, and_true]
      by_cases opens : c = '\x7b'
      · rw [if_pos opens, if_pos opens]
      · rw [if_neg opens, if_neg opens]
        split <;> rfl
  | specifier selector branches =>
      simp only [read, isInside, notSlash, notClosing, if_false, Frame.behind,
        Frame.part, regionOf, Option.isSome_none, Bool.false_eq_true,
        and_false]

/-! ## The rest of a pass -/

section Complete

variable {limit : Nat} {render : Nat → Expression → Run String}

def complete (limit : Nat) (render : Nat → Expression → Run String)
    (scan : Scan) (text : List Char) : Run String := do
  let last ← text.foldlM (step limit render) scan
  last.finish

theorem complete_nil (scan : Scan) :
    scan.complete limit render [] = scan.finish := by
  simp only [complete, List.foldlM_nil, pure_bind]

theorem complete_cons (scan : Scan) (c : Char) (rest : List Char) :
    scan.complete limit render (c :: rest) =
      (scan.step limit render c) >>= fun next =>
        next.complete limit render rest := by
  simp only [complete, List.foldlM_cons, bind_assoc]

theorem complete_of_step
    {scan next : Scan} {c : Char}
    (stepped : scan.step limit render c = pure next) (rest : List Char) :
    scan.complete limit render (c :: rest) =
      next.complete limit render rest := by
  rw [complete_cons, stepped, pure_bind]

theorem complete_of_fail
    {scan : Scan} {c : Char} {error : ResolveError}
    (failed : scan.step limit render c = Run.fail error)
    (rest : List Char) :
    scan.complete limit render (c :: rest) = Run.fail error := by
  rw [complete_cons, failed, Run.fail_bind]

theorem step_of_read
    {scan next : Scan} {c : Char}
    (settled : scan.slash = false)
    (wasRead : scan.read limit render c = pure next) :
    scan.step limit render c =
      pure { next with position := next.position + 1 } := by
  simp only [step, settled, Bool.false_eq_true, if_false, wasRead, pure_bind]

/-! ## Slashes -/

theorem step_slash
    {scan : Scan} (settled : scan.slash = false) :
    scan.step limit render '/' =
      pure { scan with slash := true, position := scan.position + 1 } := by
  have slashRead :
      scan.read limit render '/' = pure { scan with slash := true } := by
    simp only [read, if_true]
  exact step_of_read settled slashRead

theorem complete_escape
    {scan : Scan} {c : Char}
    (settled : scan.slash = false) (escaped : scan.escapes c = true)
    (rest : List Char) :
    scan.complete limit render ('/' :: c :: rest) =
      complete limit render
        ({ scan with position := scan.position + 2 }.push c) rest := by
  rw [complete_of_step (step_slash settled)]
  apply complete_of_step
  obtain ⟨position, slash, output, frames⟩ := scan
  cases settled
  have pending : escapes ⟨position + 1, true, output, frames⟩ c = true :=
    escaped
  simp only [step, if_true, pending, pure_bind]
  cases frames <;> rfl

/-- A slash that escapes nothing is written, and the character behind it is
still to be read. -/
theorem complete_slash
    {scan : Scan} {c : Char}
    (settled : scan.slash = false) (kept : scan.escapes c = false)
    (rest : List Char) :
    scan.complete limit render ('/' :: c :: rest) =
      complete limit render
        ({ scan with position := scan.position + 1 }.push '/')
        (c :: rest) := by
  rw [complete_of_step (step_slash settled)]
  rw [complete_cons, complete_cons]
  obtain ⟨position, slash, output, frames⟩ := scan
  cases settled
  have pending : escapes ⟨position + 1, true, output, frames⟩ c = false :=
    kept
  simp only [step, if_true, pending, Bool.false_eq_true, if_false, slash_push]

theorem complete_lone_slash
    {scan : Scan} (settled : scan.slash = false) :
    scan.complete limit render ['/'] =
      finish { scan with slash := true, position := scan.position + 1 } := by
  rw [complete_of_step (step_slash settled), complete_nil]

/-! ## Characters and opening braces -/

theorem complete_ordinary
    {scan : Scan} {region : Region} {c : Char}
    (settled : scan.slash = false)
    (inRegion : regionOf scan.frames = some region)
    (notSlash : c ≠ '/') (notBrace : c ≠ '\x7b')
    (notEnd : region.ends c = false) (rest : List Char) :
    scan.complete limit render (c :: rest) =
      complete limit render
        ({ scan with position := scan.position + 1 }.push c) rest := by
  have wasRead : scan.read limit render c = pure (scan.push c) := by
    obtain ⟨position, slash, output, frames⟩ := scan
    rcases frames with _ | ⟨⟨start, _ | _ | _ | _, buffer⟩, outer⟩ <;>
      cases inRegion <;>
      simp_all [read, Region.ends]
  rw [complete_of_step (step_of_read settled wasRead)]
  obtain ⟨position, slash, output, frames⟩ := scan
  cases frames <;> rfl

theorem read_brace
    {scan : Scan} {region : Region}
    (inRegion : regionOf scan.frames = some region) :
    scan.read limit render '\x7b' = scan.openExpression limit := by
  obtain ⟨position, slash, output, frames⟩ := scan
  rcases frames with _ | ⟨⟨start, _ | _ | _ | _, buffer⟩, outer⟩ <;>
    cases inRegion <;>
    simp [read]

theorem complete_tooDeep
    {scan : Scan} {region : Region}
    (settled : scan.slash = false)
    (inRegion : regionOf scan.frames = some region)
    (deep : limit < scan.frames.length) (rest : List Char) :
    scan.complete limit render ('\x7b' :: rest) =
      Run.fail (.raised (.nestingTooDeep limit)
        ⟨scan.position, scan.position + 1⟩) := by
  apply complete_of_fail
  simp only [step, settled, Bool.false_eq_true, if_false,
    read_brace inRegion, openExpression, deep, if_true, Run.fail_bind]

theorem complete_nested
    {scan : Scan} {region : Region}
    (settled : scan.slash = false)
    (inRegion : regionOf scan.frames = some region)
    (shallow : scan.frames.length ≤ limit) (rest : List Char) :
    scan.complete limit render ('\x7b' :: rest) =
      complete limit render
        { scan with
          position := scan.position + 1
          frames := ⟨scan.position, .selector, ""⟩ :: scan.frames }
        rest := by
  have opened :
      scan.read limit render '\x7b' =
        pure { scan with
          frames := ⟨scan.position, .selector, ""⟩ :: scan.frames } := by
    rw [read_brace inRegion, openExpression,
      if_neg (Nat.not_lt.mpr shallow)]
  exact complete_of_step (step_of_read settled opened) rest

/-! ## Marks inside an expression -/

variable {position start : Nat} {output buffer : String}
  {outer : List Frame} {stage : Stage} {selector : String}
  {branches : Option Branches}

theorem complete_question (rest : List Char) :
    complete limit render
        ⟨position, false, output, ⟨start, .selector, buffer⟩ :: outer⟩
        ('?' :: rest) =
      complete limit render
        ⟨position + 1, false, output, ⟨start, .ifFalse buffer, ""⟩ :: outer⟩
        rest := by
  apply complete_of_step
  simp [step, read, enter, -Run.pure_eq]

theorem complete_bar (rest : List Char) :
    complete limit render
        ⟨position, false, output,
          ⟨start, .ifFalse selector, buffer⟩ :: outer⟩
        ('|' :: rest) =
      complete limit render
        ⟨position + 1, false, output,
          ⟨start, .ifTrue selector buffer, ""⟩ :: outer⟩
        rest := by
  apply complete_of_step
  simp [step, read, enter, -Run.pure_eq]

/-- The selector and the branches of an expression that may end where its
stage stands. -/
def headOf : Stage → String → Option (String × Option Branches)
  | .selector, buffer => some (buffer, none)
  | .ifTrue selector ifFalse, buffer =>
      some (selector, some ⟨ifFalse, buffer⟩)
  | _, _ => none

theorem complete_colon
    (head : headOf stage buffer = some (selector, branches))
    (rest : List Char) :
    complete limit render
        ⟨position, false, output, ⟨start, stage, buffer⟩ :: outer⟩
        (':' :: rest) =
      complete limit render
        ⟨position + 1, false, output,
          ⟨start, .specifier selector branches, ""⟩ :: outer⟩
        rest := by
  apply complete_of_step
  cases stage <;>
    cases head <;>
    simp [step, read, enter, -Run.pure_eq]

/-- Where an expression is closed, its text is written and never read again. -/
theorem complete_close
    {frame : Frame} {expression : Expression}
    (closes :
      finished frame outer ⟨frame.start, position + 1⟩ = .ok expression)
    (rest : List Char) :
    complete limit render
        ⟨position, false, output, frame :: outer⟩ ('\x7d' :: rest) =
      (render outer.length expression) >>= fun text =>
        complete limit render
          (write ⟨position + 1, false, output, outer⟩ text) rest := by
  rw [complete_cons]
  simp only [step, read, closeExpression, closes, bind_assoc, pure_bind,
    Bool.false_eq_true, if_false, if_true, Char.reduceEq]
  apply bind_congr
  intro text
  cases outer <;> rfl

theorem complete_close_fault
    {frame : Frame} {cause : Cause}
    (faulty :
      finished frame outer ⟨frame.start, position + 1⟩ = .error cause)
    (rest : List Char) :
    complete limit render
        ⟨position, false, output, frame :: outer⟩ ('\x7d' :: rest) =
      Run.fail (.raised cause ⟨frame.start, position + 1⟩) := by
  apply complete_of_fail
  simp only [step, read, closeExpression, faulty, Bool.false_eq_true,
    if_false, if_true, Char.reduceEq, Run.fail_bind]

/-- At the end of the text the innermost open expression is unterminated, also
when a slash waits there. -/
theorem complete_missing
    {frame : Frame} {text : List Char} (final : text = [] ∨ text = ['/']) :
    complete limit render
        ⟨position, false, output, frame :: outer⟩ text =
      Run.fail (.raised .unterminatedExpression
        ⟨frame.start, position + text.length⟩) := by
  rcases final with rfl | rfl
  · rw [complete_nil]
    rfl
  · rw [complete_lone_slash rfl]
    rfl

/-! ## Specifiers -/

theorem complete_raw
    {c : Char} (notSlash : c ≠ '/') (notBrace : c ≠ '\x7d')
    (rest : List Char) :
    complete limit render
        ⟨position, false, output,
          ⟨start, .specifier selector branches, buffer⟩ :: outer⟩
        (c :: rest) =
      complete limit render
        ⟨position + 1, false, output,
          ⟨start, .specifier selector branches, buffer.push c⟩ :: outer⟩
        rest := by
  apply complete_of_step
  simp [step, read, push, notSlash, notBrace, -Run.pure_eq]

/-- A slash in a specifier is written, unless a closing brace or the end of the
text follows. -/
theorem complete_raw_slash
    {c : Char} (notBrace : c ≠ '\x7d') (rest : List Char) :
    complete limit render
        ⟨position, false, output,
          ⟨start, .specifier selector branches, buffer⟩ :: outer⟩
        ('/' :: c :: rest) =
      complete limit render
        ⟨position + 1, false, output,
          ⟨start, .specifier selector branches, buffer.push '/'⟩ :: outer⟩
        (c :: rest) := by
  have kept :
      escapes ⟨position, false, output,
        ⟨start, .specifier selector branches, buffer⟩ :: outer⟩ c = false := by
    simpa [escapes] using notBrace
  exact complete_slash rfl kept rest

/-- A pass reads a specifier up to its brace as `readSpecifier` does. -/
theorem complete_specifier
    (size : Nat) (text : List Char) :
    ∀ position buffer, position + text.length = size →
      complete limit render
          ⟨position, false, output,
            ⟨start, .specifier selector branches, buffer⟩ :: outer⟩ text =
        match readSpecifier text with
        | none =>
            Run.fail (.raised .unterminatedExpression ⟨start, size⟩)
        | some specifier =>
            complete limit render
              ⟨size - (specifier.rest.length + 1), false, output,
                ⟨start, .specifier selector branches,
                  buffer ++ String.ofList specifier.value⟩ :: outer⟩
              ('\x7d' :: specifier.rest) := by
  fun_induction readSpecifier text with
  | case1 =>
      intro position buffer here
      rw [complete_missing (.inl rfl), here]
  | case2 rest =>
      intro position buffer here
      have atBrace : size - (rest.length + 1) = position := by
        simp only [List.length_cons] at here
        omega
      simp [atBrace]
  | case3 =>
      intro position buffer here
      rw [complete_missing (.inr rfl), here]
  | case4 rest inductionHypothesis =>
      intro position buffer here
      have behind :=
        inductionHypothesis (position + 2) (buffer.push '\x7d') (by
          simp only [List.length_cons] at here
          omega)
      rw [complete_escape rfl rfl]
      refine Eq.trans behind ?_
      cases readSpecifier rest with
      | none =>
          rfl
      | some specifier =>
          simp [push_append_ofList]
  | case5 c rest notBrace notLast notPair inductionHypothesis =>
      intro position buffer here
      have behind :=
        inductionHypothesis (position + 1) (buffer.push c) (by
          simp only [List.length_cons] at here
          omega)
      have moved :
          complete limit render
              ⟨position, false, output,
                ⟨start, .specifier selector branches, buffer⟩ :: outer⟩
              (c :: rest) =
            complete limit render
              ⟨position + 1, false, output,
                ⟨start, .specifier selector branches, buffer.push c⟩ ::
                  outer⟩
              rest := by
        by_cases isSlash : c = '/'
        · subst isSlash
          cases rest with
          | nil =>
              exact absurd rfl (notLast rfl)
          | cons d after =>
              refine complete_raw_slash ?_ after
              intro isBrace
              subst isBrace
              exact notPair after rfl rfl
        · exact complete_raw isSlash notBrace rest
      rw [moved, behind]
      cases readSpecifier rest with
      | none =>
          rfl
      | some specifier =>
          simp [push_append_ofList]

end Complete

end Scan

end Phrasebook
