import Phrasebook.Proofs.Grammar
import Phrasebook.Resolve

/-!
# Syntax trees

A template can be resolved in two passes. The first one reads the text into a
tree and looks at nothing else; the second one evaluates the tree from left to
right. A text that leaves the grammar is read up to the place where it does,
and the tree has a fault there.
-/

namespace Phrasebook

inductive Ending where
  | plain
  | specified (specifier : String)
  | missing
  deriving DecidableEq

mutual

/-- Characters and expressions in a row. A fault is the last piece. -/
inductive Pieces where
  | nil
  | literal (c : Char) (rest : Pieces)
  | nested (expression : SyntaxTree) (rest : Pieces)
  | dangling (span : Span)
  | tooDeep (limit : Nat) (span : Span)

/-- An expression with its place. One that is `half` lacks its second
branch. -/
inductive SyntaxTree where
  | single (site : Site) (span : Span) (selector : Pieces) (ending : Ending)
  | half (site : Site) (span : Span) (selector ifFalse : Pieces)
      (ending : Ending)
  | branched (site : Site) (span : Span) (selector ifFalse ifTrue : Pieces)
      (ending : Ending)

end

/-! ## The first pass -/

/-- What a reader finds at the front of a text, and the text behind it. -/
structure Reading (α : Type) (text : List Char) where
  value : α
  rest : List Char
  bounded : rest.length ≤ text.length

namespace Reading

variable {α β : Type} {text : List Char}

def stay (value : α) : Reading α text :=
  ⟨value, text, Nat.le_refl _⟩

def toEnd (value : α) : Reading α text :=
  ⟨value, [], Nat.zero_le _⟩

def map (change : α → β) (reading : Reading α text) : Reading β text :=
  ⟨change reading.value, reading.rest, reading.bounded⟩

/-- A reading of the end of a text, as one of the whole text. -/
def within (reading : Reading α text) {whole : List Char}
    (shorter : text.length ≤ whole.length) : Reading α whole :=
  ⟨reading.value, reading.rest, Nat.le_trans reading.bounded shorter⟩

/-- A reading behind a character, as one of the text with the character. -/
def behind (c : Char) (reading : Reading α text) : Reading α (c :: text) :=
  reading.within (Nat.le_succ _)

@[simp]
theorem value_stay (value : α) :
    (stay value : Reading α text).value = value :=
  rfl

@[simp]
theorem rest_stay (value : α) : (stay value : Reading α text).rest = text :=
  rfl

@[simp]
theorem value_toEnd (value : α) :
    (toEnd value : Reading α text).value = value :=
  rfl

@[simp]
theorem rest_toEnd (value : α) : (toEnd value : Reading α text).rest = [] :=
  rfl

@[simp]
theorem value_map (change : α → β) (reading : Reading α text) :
    (reading.map change).value = change reading.value :=
  rfl

@[simp]
theorem rest_map (change : α → β) (reading : Reading α text) :
    (reading.map change).rest = reading.rest :=
  rfl

@[simp]
theorem value_within (reading : Reading α text) {whole : List Char}
    (shorter : text.length ≤ whole.length) :
    (reading.within shorter).value = reading.value :=
  rfl

@[simp]
theorem rest_within (reading : Reading α text) {whole : List Char}
    (shorter : text.length ≤ whole.length) :
    (reading.within shorter).rest = reading.rest :=
  rfl

@[simp]
theorem value_behind (c : Char) (reading : Reading α text) :
    (reading.behind c).value = reading.value :=
  rfl

@[simp]
theorem rest_behind (c : Char) (reading : Reading α text) :
    (reading.behind c).rest = reading.rest :=
  rfl

end Reading

def Region.site : Region → Site
  | outside => .entry
  | selector => .selector
  | ifFalse | ifTrue => .branch

def readSpecifier :
    (text : List Char) → Option (Reading (List Char) text)
  | [] => none
  | '\x7d' :: _ => some ((Reading.stay []).behind _)
  | ['/'] => none
  | '/' :: '\x7d' :: rest =>
      (readSpecifier rest).map fun tail =>
        ((tail.map ('\x7d' :: ·)).behind _).behind _
  | c :: rest =>
      (readSpecifier rest).map fun tail => (tail.map (c :: ·)).behind _

/-- Reads the end of an expression behind its parts. -/
def readEnding (text : List Char) : Reading Ending text :=
  match text with
  | '\x7d' :: _ => (Reading.stay .plain).behind _
  | ':' :: rest =>
      match readSpecifier rest with
      | some specifier =>
          (specifier.map fun read => .specified (String.ofList read)).behind _
      | none => .toEnd .missing
  | _ => .toEnd .missing

/-- The text behind a mark, where the mark stands in front of it. -/
def behindMark (mark : Char) (text : List Char) :
    Option { rest : List Char // rest.length < text.length } :=
  match text with
  | [] => none
  | c :: rest => if c = mark then some ⟨rest, Nat.lt_succ_self _⟩ else none

mutual

/-- Reads the text of a region up to a character that ends it. `size` is the
length of the whole text, so that the place of a rest is known from its
length. -/
def readText (limit size : Nat) (region : Region) (level : Nat) :
    (text : List Char) → Reading Pieces text
  | [] => .stay .nil
  | ['/'] =>
      if region = .outside then
        .toEnd (.dangling ⟨size - 1, size⟩)
      else
        .stay .nil
  | '/' :: c :: rest =>
      if region.escapes c then
        (((readText limit size region level rest).map (.literal c)).behind
          _).behind _
      else
        ((readText limit size region level (c :: rest)).map
          (.literal '/')).behind _
  | '\x7b' :: rest =>
      if limit < level then
        .toEnd (.tooDeep limit
          ⟨size - (rest.length + 1), size - rest.length⟩)
      else
        let ⟨inner, after, innerBounded⟩ :=
          readExpression limit size region.site level rest
        ((readText limit size region level after).map (.nested inner)).within
          (Nat.le_succ_of_le innerBounded)
  | c :: rest =>
      if region.ends c then
        .stay .nil
      else
        ((readText limit size region level rest).map (.literal c)).behind _
termination_by text => 2 * text.length
decreasing_by
  all_goals
    simp only [List.length_cons]
    omega

/-- Reads an expression behind its opening brace. -/
def readExpression (limit size : Nat) (site : Site) (level : Nat)
    (text : List Char) : Reading SyntaxTree text :=
  let start := size - (text.length + 1)
  let ⟨selector, behindSelector, selectorBounded⟩ :=
    readText limit size .selector (level + 1) text
  match behindMark '?' behindSelector with
  | some ⟨rest, restShorter⟩ =>
      have restBounded : rest.length ≤ text.length :=
        Nat.le_of_lt (Nat.lt_of_lt_of_le restShorter selectorBounded)
      let ⟨ifFalse, behindFalse, falseBounded⟩ :=
        readText limit size .ifFalse (level + 1) rest
      match behindMark '|' behindFalse with
      | some ⟨last, lastShorter⟩ =>
          have lastBounded : last.length ≤ text.length :=
            Nat.le_of_lt (Nat.lt_of_lt_of_le lastShorter
              (Nat.le_trans falseBounded restBounded))
          let ⟨ifTrue, behindTrue, trueBounded⟩ :=
            readText limit size .ifTrue (level + 1) last
          let ending := readEnding behindTrue
          let span : Span := ⟨start, size - ending.rest.length⟩
          (ending.map (.branched site span selector ifFalse ifTrue)).within
            (Nat.le_trans trueBounded lastBounded)
      | none =>
          let ending := readEnding behindFalse
          let span : Span := ⟨start, size - ending.rest.length⟩
          (ending.map (.half site span selector ifFalse)).within
            (Nat.le_trans falseBounded restBounded)
  | none =>
      let ending := readEnding behindSelector
      let span : Span := ⟨start, size - ending.rest.length⟩
      (ending.map (.single site span selector)).within selectorBounded
termination_by 2 * text.length + 1
decreasing_by
  all_goals omega

end

def parseTemplate (limit : Nat) (template : String) : Pieces :=
  (readText limit template.length .outside 0 template.toList).value

/-! ## The second pass -/

def Ending.causeOfHalf (ending : Ending) (selector : String) : Cause :=
  match ending with
  | missing => .unterminatedExpression
  | plain | specified _ => .incompleteBranch selector

section Evaluation

variable (render : Nat → Expression → Run String)

def Ending.evaluate (ending : Ending) (level : Nat) (site : Site)
    (span : Span) (selector : String) (branches : Option Branches) :
    Run String :=
  match ending with
  | plain => render level ⟨selector, branches, none, site, span⟩
  | specified specifier =>
      render level ⟨selector, branches, some specifier, site, span⟩
  | missing => Run.fail (.raised .unterminatedExpression span)

mutual

def Pieces.evaluate (level : Nat) : Pieces → Run String
  | .nil => pure ""
  | .literal c rest => do
      let behind ← rest.evaluate level
      pure (String.singleton c ++ behind)
  | .nested expression rest => do
      let text ← expression.evaluate level
      let behind ← rest.evaluate level
      pure (text ++ behind)
  | .dangling span => Run.fail (.raised .danglingEscape span)
  | .tooDeep limit span => Run.fail (.raised (.nestingTooDeep limit) span)

/-- The text of an expression that stands at a level. Its parts are evaluated
first, one level deeper and in the order in which they stand, and both branches
are evaluated before one is picked. -/
def SyntaxTree.evaluate (level : Nat) : SyntaxTree → Run String
  | .single site span selector ending => do
      let selector ← selector.evaluate (level + 1)
      ending.evaluate render level site span selector none
  | .half _ span selector ifFalse ending => do
      let selector ← selector.evaluate (level + 1)
      let _ ← ifFalse.evaluate (level + 1)
      Run.fail (.raised (ending.causeOfHalf selector) span)
  | .branched site span selector ifFalse ifTrue ending => do
      let selector ← selector.evaluate (level + 1)
      let ifFalse ← ifFalse.evaluate (level + 1)
      let ifTrue ← ifTrue.evaluate (level + 1)
      ending.evaluate render level site span selector (some ⟨ifFalse, ifTrue⟩)

end

end Evaluation

/-- Resolves a text that stands at a level in two passes. The entry of a key is
read and evaluated one level deeper than the expression that asks for it. -/
def Environment.evaluateAt (env : Environment) (depth : Nat)
    (template : String) : Run String :=
  (parseTemplate env.limits.maxNesting template).evaluate
    (fun nesting expression =>
      expression.render env.table env.context fun key entry =>
        if withinLimit : depth + nesting ≤ env.limits.maxDepth then do
          Run.emit (.expanding key (depth + nesting))
          (env.evaluateAt (depth + nesting + 1) entry).mapError
            (.inEntry ⟨key, entry⟩)
        else do
          Run.emit (.limitReached key (depth + nesting) env.limits.maxDepth)
          pure env.limits.recursionSentinel)
    0
termination_by env.limits.maxDepth + 1 - depth
decreasing_by omega

end Phrasebook
