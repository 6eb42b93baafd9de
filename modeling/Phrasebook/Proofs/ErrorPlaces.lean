import Phrasebook.Proofs.Invariants
import Phrasebook.Report

/-!
# Errors and their texts

Every error points into the text that it is shown in, which is the text of the
innermost entry around it or else the template. However the report on it is
drawn, it is one on that text; drawn in rows, it shows the lines in which both
ends of the marked place lie.
-/

namespace Phrasebook

/-! ## Lines of a report -/

namespace Report

/-- A line of a text with a character in it: as many lines stand before the
line as its number tells. -/
def Line.Holds (line : Line) (text : List Char) (position : Nat) : Prop :=
  ∃ before after, splitLines text = before ++ line.text :: after ∧
    line.number = before.length + 1 ∧
    line.start = before.flatten.length ∧
    line.start ≤ position ∧ position < line.start + line.text.length

theorem lineAmong_cons
    {text : List Char} {others : List (List Char)}
    {number start position : Nat}
    (inside : position < start + (text :: others).flatten.length) :
    lineAmong (text :: others) number start position =
      if position < start + text.length then
        ⟨number, start, text⟩
      else
        lineAmong others (number + 1) (start + text.length) position := by
  cases others with
  | nil =>
      have here : position < start + text.length := by
        simpa using inside
      rw [if_pos here, lineAmong]
  | cons next rest =>
      rw [lineAmong]
      simp

/-- The line found for a place is the one among the lines that reaches over it,
with its number and its start counted from the first line. -/
theorem lineAmong_spec
    (lines : List (List Char)) (number start position : Nat)
    (reached : start ≤ position)
    (inside : position < start + lines.flatten.length) :
    ∃ before after,
      lines =
        before ++ (lineAmong lines number start position).text :: after ∧
      (lineAmong lines number start position).number =
        number + before.length ∧
      (lineAmong lines number start position).start =
        start + before.flatten.length ∧
      (lineAmong lines number start position).start ≤ position ∧
      position < (lineAmong lines number start position).start +
        (lineAmong lines number start position).text.length := by
  induction lines generalizing number start with
  | nil =>
      simp only [List.flatten_nil, List.length_nil] at inside
      omega
  | cons text others inductionHypothesis =>
      rw [lineAmong_cons inside]
      by_cases here : position < start + text.length
      · rw [if_pos here]
        exact ⟨[], others, rfl, rfl, rfl, reached, here⟩
      · rw [if_neg here]
        have behind :
            position < start + text.length + others.flatten.length := by
          simp only [List.flatten_cons, List.length_append] at inside
          omega
        obtain ⟨before, after, split, isNumber, isStart, bounds⟩ :=
          inductionHypothesis (number + 1) (start + text.length)
            (Nat.not_lt.mp here) behind
        refine ⟨text :: before, after, congrArg _ split, ?_, ?_, bounds⟩
        · rw [isNumber, List.length_cons]
          omega
        · rw [isStart, List.flatten_cons, List.length_append]
          omega

theorem lineAt_holds
    {text : List Char} {position : Nat} (inside : position < text.length) :
    (lineAt text position).Holds text position := by
  rw [← flatten_splitLines text] at inside
  obtain ⟨before, after, split, isNumber, isStart, bounds⟩ :=
    lineAmong_spec (splitLines text) 1 0 position (Nat.zero_le _)
      (by rwa [Nat.zero_add])
  rw [Nat.zero_add] at isStart
  rw [Nat.add_comm] at isNumber
  exact ⟨before, after, split, isNumber, isStart, bounds⟩

/-- A line is known by its number. -/
theorem Line.Holds.eq_of_number_eq
    {line other : Line} {text : List Char} {position place : Nat}
    (holds : line.Holds text position) (otherHolds : other.Holds text place)
    (sameNumber : line.number = other.number) :
    line = other := by
  obtain ⟨before, after, split, isNumber, isStart, _⟩ := holds
  obtain ⟨otherBefore, otherAfter, otherSplit, otherIsNumber, otherIsStart,
    _⟩ := otherHolds
  have sameLength : before.length = otherBefore.length := by
    omega
  rw [split] at otherSplit
  obtain ⟨rfl, sameRest⟩ := List.append_inj otherSplit sameLength
  obtain ⟨number, start, lineText⟩ := line
  obtain ⟨otherNumber, otherStart, otherText⟩ := other
  cases sameNumber
  cases isStart
  cases otherIsStart
  cases sameRest
  rfl

/-- A row shows the text of a line, behind a margin. -/
def Shows (rows : List String) (line : Line) : Prop :=
  ∃ margin first last, margin ++ drawLine line first last ∈ rows

theorem Shows.within
    {rows : List String} {line : Line} (shows : Shows rows line)
    {before after : List String} : Shows (before ++ rows ++ after) line := by
  obtain ⟨margin, first, last, isRow⟩ := shows
  exact ⟨margin, first, last,
    List.mem_append_left after (List.mem_append_right before isRow)⟩

theorem sameLineRows_shows
    (width : Nat) (line : Line) (span : Span) (label : String) :
    Shows (sameLineRows width line span label) line :=
  ⟨_, _, _, List.mem_cons_self⟩

theorem severalLineRows_shows
    (width : Nat) (first last : Line) (span : Span) (label : String) :
    Shows (severalLineRows width first last span label) first ∧
      Shows (severalLineRows width first last span label) last := by
  simp only [Shows, severalLineRows, List.mem_append, List.mem_cons]
  exact ⟨⟨_, _, _, .inl (.inl (.inl rfl))⟩, ⟨_, _, _, .inr (.inl rfl)⟩⟩

theorem rows_shows
    {text : List Char} {span : Span} (startBefore : span.start < span.stop)
    (stopInside : span.stop ≤ text.length) (name message : String) :
    Shows (rows name text span message) (lineAt text span.start) ∧
      Shows (rows name text span message)
        (lineAt text (max span.start (span.stop - 1))) := by
  have firstHolds : (lineAt text span.start).Holds text span.start :=
    lineAt_holds (by omega)
  have lastHolds :
      (lineAt text (max span.start (span.stop - 1))).Holds text _ :=
    lineAt_holds (by omega)
  unfold rows
  generalize lineAt text span.start = first at *
  generalize lineAt text (max span.start (span.stop - 1)) = last at *
  dsimp only
  by_cases sameNumber : first.number = last.number
  · rw [if_pos sameNumber, firstHolds.eq_of_number_eq lastHolds sameNumber]
    have shows :=
      sameLineRows_shows (toString last.number).length last span message
    exact ⟨shows.within, shows.within⟩
  · rw [if_neg sameNumber]
    have shows :=
      severalLineRows_shows (toString last.number).length first last span
        message
    exact ⟨shows.1.within, shows.2.within⟩

end Report

/-! ## Places by cause -/

def ResolveError.shown (error : ResolveError) (given : String) : String :=
  (error.entries.getLast?.map Entry.template).getD given

def ResolveError.shownName (error : ResolveError) (name : String) : String :=
  (error.entries.getLast?.map Entry.key).getD name

/-- An error in an entry is shown in the text of the innermost one. -/
theorem ResolveError.shown_inEntry
    (error : ResolveError) (entry : Entry) (given : String) :
    (error.inEntry entry).shown given = error.shown entry.template := by
  obtain ⟨entries, cause, span⟩ := error
  cases entries with
  | nil =>
      rfl
  | cons first rest =>
      simp [shown, List.getLast?_cons]

theorem ResolveError.reportIn_eq
    (draw : Report.Drawing) (error : ResolveError) (given name : String) :
    error.reportIn draw given name =
      String.join ((draw (error.shownName name)
        (error.shown given).toList error.span error.root.message).map
          fun row => row ++ "\n") := by
  unfold reportIn shown shownName
  cases error.entries.getLast? with
  | none =>
      rfl
  | some entry =>
      rfl

/-- An error points into a text at a part that its cause calls for. -/
structure ResolveError.PointsInto (limit : Nat) (text : List Char)
    (error : ResolveError) : Prop where
  start_lt_stop : error.span.start < error.span.stop
  stop_le_length : error.span.stop ≤ text.length
  dangling : error.cause = .danglingEscape →
    text[error.span.start]? = some '/' ∧
      error.span.stop = error.span.start + 1 ∧
      error.span.stop = text.length
  tooDeep : ∀ deepest, error.cause = .nestingTooDeep deepest →
    text[error.span.start]? = some '\x7b' ∧
      error.span.stop = error.span.start + 1
  unterminated : error.cause = .unterminatedExpression →
    text[error.span.start]? = some '\x7b' ∧
      error.span.stop = text.length ∧
      ∃ level part, IsUnclosed limit level part ∧ Marks text error.span part
  complete : error.cause ≠ .danglingEscape →
    (∀ deepest, error.cause ≠ .nestingTooDeep deepest) →
    error.cause ≠ .unterminatedExpression →
    text[error.span.start]? = some '\x7b' ∧
      text[error.span.stop - 1]? = some '\x7d' ∧
      ∃ level part,
        (IsExpression limit level part ∨ IsHalf limit level part) ∧
          Marks text error.span part

/-- A cause that tells neither of the end of the text nor of too deep a nesting
is met in an expression that is closed. -/
theorem Cause.Fits.closed
    {limit : Nat} {text : List Char} {span : Span} {cause : Cause}
    (fits : cause.Fits limit text span) (notDangling : cause ≠ .danglingEscape)
    (notDeep : ∀ deepest, cause ≠ .nestingTooDeep deepest)
    (notOpen : cause ≠ .unterminatedExpression) :
    ∃ level part,
      (IsExpression limit level part ∨ IsHalf limit level part) ∧
        Marks text span part := by
  cases cause with
  | danglingEscape =>
      exact absurd rfl notDangling
  | nestingTooDeep deepest =>
      exact absurd rfl (notDeep deepest)
  | unterminatedExpression =>
      exact absurd rfl notOpen
  | incompleteBranch selector =>
      obtain ⟨level, part, half, marks⟩ := fits
      exact ⟨level, part, .inr half, marks⟩
  | selectorTooLong _ | invalidSelector _ _ | slotOutOfRange _ _ _
  | argumentOutOfRange _ _ | missingContext _ | missingField _ _
  | noEnabledFlag _ | invalidFormat _ _ =>
      obtain ⟨level, part, isExpression, marks⟩ := fits
      exact ⟨level, part, .inl isExpression, marks⟩

theorem ResolveError.pointsInto_of_fits
    {limit : Nat} {text : List Char} {error : ResolveError}
    (fits : error.cause.Fits limit text error.span) :
    error.PointsInto limit text := by
  obtain ⟨part, notNil, marks⟩ := fits.exists_marks
  refine ⟨marks.start_lt_stop notNil, marks.stop_le, ?_, ?_, ?_, ?_⟩
  · intro isCause
    rw [isCause] at fits
    obtain ⟨slashMarked, toEnd⟩ := fits
    exact ⟨slashMarked.first, slashMarked.stop_eq, toEnd⟩
  · intro deepest isCause
    rw [isCause] at fits
    have braceMarked : Marks text error.span ['\x7b'] := fits
    exact ⟨braceMarked.first, braceMarked.stop_eq⟩
  · intro isCause
    rw [isCause] at fits
    obtain ⟨level, part, unclosed, partMarked, toEnd⟩ := fits
    refine ⟨?_, toEnd, level, part, unclosed, partMarked⟩
    obtain ⟨rest, rfl⟩ := unclosed.eq_brace_cons
    exact partMarked.first
  · intro notDangling notDeep notOpen
    obtain ⟨level, part, closed, partMarked⟩ :=
      fits.closed notDangling notDeep notOpen
    refine ⟨?_, ?_, level, part, closed, partMarked⟩
    · rcases closed with isExpression | half
      · obtain ⟨rest, rfl⟩ := isExpression.eq_brace_cons
        exact partMarked.first
      · obtain ⟨rest, rfl⟩ := half.eq_brace_cons
        exact partMarked.first
    · rcases closed with isExpression | half
      · obtain ⟨others, rfl⟩ := isExpression.eq_append_brace
        exact partMarked.last
      · cases half with
        | closed opening =>
            exact partMarked.last

/-! ## Errors of all calls -/

namespace Environment

/-- An error is placed: its entries are in the table, and it fits the text that
it is shown in. -/
structure Places (env : Environment) (given : String)
    (error : ResolveError) : Prop where
  entries : ∀ entry ∈ error.entries,
    env.table.templates.get? entry.key = some entry.template
  fits : error.cause.Fits env.limits.maxNesting (error.shown given).toList
    error.span

theorem Places.inEntry
    {env : Environment} {key entry : String} {error : ResolveError}
    (found : env.table.templates.get? key = some entry)
    (places : env.Places entry error) (given : String) :
    env.Places given (error.inEntry ⟨key, entry⟩) := by
  constructor
  · intro other member
    rcases List.mem_cons.mp member with rfl | member
    · exact found
    · exact places.entries other member
  · rw [error.shown_inEntry]
    exact places.fits

def placesErrors (env : Environment) : env.Invariant where
  law _ := .any
  expected _ template error := env.Places template error
  misses _ := trivial
  limitReached _ _ _ := trivial
  expands _ _ _ _ := trivial
  fails _ fits := ⟨fun _ member => absurd member List.not_mem_nil, fits⟩
  wraps _ found places := places.inEntry found _

theorem places_of_resolve
    {env : Environment} {template : String} {error : ResolveError}
    (failed : (env.resolve template).outcome = .error error) :
    env.Places template error :=
  (env.placesErrors.obeys_resolveAt (Nat.zero_le _) template).error error
    failed

inductive FailsForKey (env : Environment) (key : String)
    (error : ResolveError) : Prop
  | optional :
      (Run.outcome <| env.resolveEntry? key) = .error error →
      FailsForKey env key error
  | withFallback (fallback : String) :
      (env.resolveEntryD key fallback).outcome = .error error →
      FailsForKey env key error
  | withKey :
      (env.resolveEntry key).outcome = .error error →
      FailsForKey env key error

/-- A call by a key fails as the entry of the key does. -/
theorem FailsForKey.exists_inner
    {env : Environment} {key : String} {error : ResolveError}
    (fails : env.FailsForKey key error) :
    ∃ entry inner, env.table.templates.get? key = some entry ∧
      (env.resolve entry).outcome = .error inner ∧
      error = inner.inEntry ⟨key, entry⟩ := by
  have optionalFailed :
      (Run.outcome <| env.resolveEntry? key) = .error error := by
    cases fails with
    | optional failed =>
        exact failed
    | withFallback _ failed | withKey failed =>
        rcases Run.error_of_bind failed with
          failed | ⟨found, _, fallbackFailed⟩
        · exact failed
        · cases fallbackFailed
  unfold resolveEntry? at optionalFailed
  cases found : env.table.templates.get? key with
  | none =>
      rw [found] at optionalFailed
      cases optionalFailed
  | some entry =>
      rw [found] at optionalFailed
      rcases Run.error_of_bind optionalFailed with
        entryFailed | ⟨text, _, pureFailed⟩
      · obtain ⟨inner, innerFailed, equality⟩ :=
          Run.error_of_mapError entryFailed
        exact ⟨entry, inner, rfl, innerFailed, equality⟩
      · cases pureFailed

/-- An error of a template, or one of a call by a key, which may be shown with
any text at hand. -/
def FailsWith (env : Environment) (given : String) (error : ResolveError) :
    Prop :=
  (env.resolve given).outcome = .error error ∨
    ∃ key, env.FailsForKey key error

theorem FailsWith.places
    {env : Environment} {given : String} {error : ResolveError}
    (fails : env.FailsWith given error) :
    env.Places given error := by
  rcases fails with failed | ⟨key, keyFails⟩
  · exact places_of_resolve failed
  · obtain ⟨entry, inner, found, innerFailed, rfl⟩ := keyFails.exists_inner
    exact (places_of_resolve innerFailed).inEntry found given

/-- Every error points into the text that it is shown in. The entries around
it are entries of the table, its root stands in none, and its report tells the
root at its span in that text, however it is drawn. Drawn in rows, it shows the
lines of that text which hold both ends of the span. An error of a call by a key
stands in an entry, so that its report does not depend on the text at hand. -/
theorem errors_point_into_their_texts (env : Environment) :
    (∀ given error, env.FailsWith given error →
      (∀ entry ∈ error.entries,
        env.table.templates.get? entry.key = some entry.template) ∧
      error.root.entries = [] ∧
      error.PointsInto env.limits.maxNesting (error.shown given).toList ∧
      (∀ draw name, error.reportIn draw given name =
        String.join ((draw (error.shownName name)
          (error.shown given).toList error.span error.root.message).map
            fun row => row ++ "\n")) ∧
      (∀ name, error.report given name =
        String.join ((Report.rows (error.shownName name)
          (error.shown given).toList error.span error.root.message).map
            fun row => row ++ "\n")) ∧
      (Report.lineAt (error.shown given).toList error.span.start).Holds
        (error.shown given).toList error.span.start ∧
      (Report.lineAt (error.shown given).toList
        (max error.span.start (error.span.stop - 1))).Holds
        (error.shown given).toList (error.span.stop - 1) ∧
      ∀ name,
        Report.Shows (Report.rows name (error.shown given).toList error.span
            error.root.message)
          (Report.lineAt (error.shown given).toList error.span.start) ∧
        Report.Shows (Report.rows name (error.shown given).toList error.span
            error.root.message)
          (Report.lineAt (error.shown given).toList
            (max error.span.start (error.span.stop - 1)))) ∧
      ∀ key error, env.FailsForKey key error →
        error.entries ≠ [] ∧
          (∀ draw given name other otherName,
            error.reportIn draw given name =
              error.reportIn draw other otherName) ∧
          ∀ given name other otherName,
            error.report given name = error.report other otherName := by
  constructor
  · intro given error fails
    have places := fails.places
    have points := ResolveError.pointsInto_of_fits places.fits
    have startBefore := points.start_lt_stop
    have stopInside := points.stop_le_length
    have shows := Report.rows_shows startBefore stopInside
    have lastPlace :
        max error.span.start (error.span.stop - 1) =
          error.span.stop - 1 := by
      omega
    rw [lastPlace] at shows ⊢
    exact ⟨places.entries, rfl, points,
      fun draw => error.reportIn_eq draw given,
      error.reportIn_eq Report.rows given,
      Report.lineAt_holds (by omega), Report.lineAt_holds (by omega),
      fun name => shows name error.root.message⟩
  · intro key error fails
    obtain ⟨entry, inner, _, _, rfl⟩ := fails.exists_inner
    have sameReport (draw : Report.Drawing)
        (given name other otherName : String) :
        (inner.inEntry ⟨key, entry⟩).reportIn draw given name =
          (inner.inEntry ⟨key, entry⟩).reportIn draw other otherName := by
      simp only [ResolveError.reportIn, ResolveError.entries_inEntry,
        List.getLast?_cons, Option.getD_some]
    exact ⟨List.cons_ne_nil _ _, sameReport, sameReport Report.rows⟩

def singleEntry (key template : String) : Environment where
  table := { templates := Dictionary.insert {} key template }
  limits := {}
  context := {}

theorem singleEntry_fails :
    (singleEntry "key" "\x7b").FailsForKey "key"
      ⟨[⟨"key", "\x7b"⟩], .unterminatedExpression, ⟨0, 1⟩⟩ := by
  have found :
      (singleEntry "key" "\x7b").table.templates.get? "key" =
        some "\x7b" :=
    rfl
  have innerFailed :
      ((singleEntry "key" "\x7b").resolve "\x7b").outcome =
        .error (.raised .unterminatedExpression ⟨0, 1⟩) := by
    rw [resolve, resolveAt]
    rfl
  apply FailsForKey.optional
  simp only [found, resolveEntry?, Run.bind_eq, Run.andThen,
    Run.outcome_mapError, innerFailed]
  rfl

/-- An entry opens an expression and does not close it. -/
theorem open_brace_points_into_its_entry :
    let env := singleEntry "key" "\x7b"
    let error : ResolveError :=
      ⟨[⟨"key", "\x7b"⟩], .unterminatedExpression, ⟨0, 1⟩⟩
    error.PointsInto env.limits.maxNesting "\x7b".toList ∧
      error.report "key" "input" = error.report "" "key" := by
  intro env error
  have fails : env.FailsForKey "key" error := singleEntry_fails
  have pointsInto := errors_point_into_their_texts env
  obtain ⟨_, _, points, _⟩ := pointsInto.1 "key" error (.inr ⟨"key", fails⟩)
  exact ⟨points, (pointsInto.2 "key" error fails).2.2 _ _ _ _⟩

end Environment

end Phrasebook
