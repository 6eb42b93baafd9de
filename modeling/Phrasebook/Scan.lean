import Phrasebook.Expression

/-!
# Scanning templates

A template is text with expressions in braces. It is read in one pass, one
character at a time. The state of the pass holds the text written so far and
the expressions that are open, innermost first; when an expression is closed it
is rendered, and its text is written where it stood. Written text is never read
again.

A slash escapes the character after it where that character would have a
meaning: `/` and `{` in template text, any of `{ } | : ? /` in an expression,
and `}` in a specifier. In front of any other character it is an ordinary
character.
-/

namespace Phrasebook

/-- How far an open expression has been read, with the texts of the parts that
are complete. -/
inductive Stage where
  | selector
  | ifFalse (selector : String)
  | ifTrue (selector ifFalse : String)
  | specifier (selector : String) (branches : Option Branches)
  deriving DecidableEq

/-- An open expression: the place of its brace, and the text of the part that
is being read. -/
structure Frame where
  start : Nat
  stage : Stage
  buffer : String
  deriving DecidableEq

/-- The state of a pass over a template. `slash` tells whether a slash has been
read of which it is not known yet whether it escapes something. -/
structure Scan where
  position : Nat := 0
  slash : Bool := false
  output : String := ""
  frames : List Frame := []
  deriving DecidableEq

namespace Scan

/-! ## Writing -/

/-- Writes a text into the innermost open expression, or else into the
output. -/
def write (scan : Scan) (text : String) : Scan :=
  match scan.frames with
  | [] => { scan with output := scan.output ++ text }
  | frame :: outer =>
      let frame := { frame with buffer := frame.buffer ++ text }
      { scan with frames := frame :: outer }

def push (scan : Scan) (c : Char) : Scan :=
  match scan.frames with
  | [] => { scan with output := scan.output.push c }
  | frame :: outer =>
      let frame := { frame with buffer := frame.buffer.push c }
      { scan with frames := frame :: outer }

/-- Writing does not move on in the template. -/
@[simp]
theorem position_write (scan : Scan) (text : String) :
    (scan.write text).position = scan.position := by
  unfold write
  split <;> rfl

@[simp]
theorem position_push (scan : Scan) (c : Char) :
    (scan.push c).position = scan.position := by
  unfold push
  split <;> rfl

/-- Writing leaves as many expressions open as there were. -/
@[simp]
theorem length_frames_write (scan : Scan) (text : String) :
    (scan.write text).frames.length = scan.frames.length := by
  unfold write
  split <;> simp [*]

@[simp]
theorem length_frames_push (scan : Scan) (c : Char) :
    (scan.push c).frames.length = scan.frames.length := by
  unfold push
  split <;> simp [*]

/-- Goes on to the next stage of the innermost expression, with an empty
text. -/
def enter (scan : Scan) (frame : Frame) (outer : List Frame) (stage : Stage) :
    Scan :=
  { scan with frames := ⟨frame.start, stage, ""⟩ :: outer }

/-! ## Escapes -/

def hasMeaning (c : Char) : Bool :=
  c = '\x7b' || c = '\x7d' || c = '|' || c = ':' || c = '?' || c = '/'

/-- Whether a slash escapes a character at the place that has been reached. -/
def escapes (scan : Scan) (c : Char) : Bool :=
  match scan.frames with
  | [] => c = '/' || c = '\x7b'
  | ⟨_, .specifier _ _, _⟩ :: _ => c = '\x7d'
  | _ => hasMeaning c

/-! ## Expressions -/

def siteIn : List Frame → Site
  | [] => .entry
  | ⟨_, .selector, _⟩ :: _ => .selector
  | _ => .branch

def openExpression (maxNesting : Nat) (scan : Scan) : Run Scan :=
  if maxNesting < scan.frames.length then
    Run.fail (.raised (.nestingTooDeep maxNesting)
      ⟨scan.position, scan.position + 1⟩)
  else
    pure { scan with
      frames := ⟨scan.position, .selector, ""⟩ :: scan.frames }

/-- The expression that ends here, unless it lacks its second branch. -/
def finished (frame : Frame) (outer : List Frame) (span : Span) :
    Except Cause Expression :=
  let expression (selector : String) (branches : Option Branches)
      (specifier : Option String) : Expression :=
    ⟨selector, branches, specifier, siteIn outer, span⟩
  match frame.stage with
  | .selector => .ok (expression frame.buffer none none)
  | .ifFalse selector => .error (.incompleteBranch selector)
  | .ifTrue selector ifFalse =>
      .ok (expression selector (some ⟨ifFalse, frame.buffer⟩) none)
  | .specifier selector branches =>
      .ok (expression selector branches (some frame.buffer))

/-- Closes the innermost expression and writes its rendered text where it
stood. `render` is given the number of expressions around it. -/
def closeExpression (render : Nat → Expression → Run String)
    (scan : Scan) (frame : Frame) (outer : List Frame) : Run Scan :=
  let span : Span := ⟨frame.start, scan.position + 1⟩
  match finished frame outer span with
  | .error cause => Run.fail (.raised cause span)
  | .ok expression => do
      let text ← render outer.length expression
      pure ({ scan with frames := outer }.write text)

/-! ## The pass -/

/-- Reads a character that no slash escapes. -/
def read (maxNesting : Nat) (render : Nat → Expression → Run String)
    (scan : Scan) (c : Char) : Run Scan :=
  if c = '/' then
    pure { scan with slash := true }
  else
    match scan.frames with
    | [] =>
        if c = '\x7b' then openExpression maxNesting scan
        else pure (scan.push c)
    | frame :: outer =>
        if c = '\x7d' then
          closeExpression render scan frame outer
        else
          match frame.stage with
          | .specifier _ _ => pure (scan.push c)
          | .selector =>
              if c = '\x7b' then
                openExpression maxNesting scan
              else if c = '?' then
                pure (scan.enter frame outer (.ifFalse frame.buffer))
              else if c = ':' then
                pure (scan.enter frame outer (.specifier frame.buffer none))
              else
                pure (scan.push c)
          | .ifFalse selector =>
              if c = '\x7b' then
                openExpression maxNesting scan
              else if c = '|' then
                pure (scan.enter frame outer (.ifTrue selector frame.buffer))
              else
                pure (scan.push c)
          | .ifTrue selector ifFalse =>
              if c = '\x7b' then
                openExpression maxNesting scan
              else if c = ':' then
                pure (scan.enter frame outer
                  (.specifier selector (some ⟨ifFalse, frame.buffer⟩)))
              else
                pure (scan.push c)

/-- Reads the next character of the template. A slash before it either escapes
it or turns out to be an ordinary character. -/
def step (maxNesting : Nat) (render : Nat → Expression → Run String)
    (scan : Scan) (c : Char) : Run Scan := do
  let next ←
    if scan.slash then
      let released := { scan with slash := false }
      if scan.escapes c then pure (released.push c)
      else read maxNesting render (released.push '/') c
    else
      read maxNesting render scan c
  pure { next with position := next.position + 1 }

/-- Ends the pass. No expression may be open, and no slash may wait for a
character to escape. -/
def finish (scan : Scan) : Run String :=
  match scan.frames with
  | frame :: _ =>
      Run.fail (.raised .unterminatedExpression ⟨frame.start, scan.position⟩)
  | [] =>
      if scan.slash then
        Run.fail (.raised .danglingEscape
          ⟨scan.position - 1, scan.position⟩)
      else
        pure scan.output

end Scan

/-- Reads a template from left to right and renders its expressions as they are
closed. -/
def scanTemplate (maxNesting : Nat)
    (render : Nat → Expression → Run String) (template : String) :
    Run String := do
  let last ← template.toList.foldlM (Scan.step maxNesting render) {}
  last.finish

end Phrasebook
