import Phrasebook.Proofs.Faults

/-!
# Places of errors

A span marks a part of a text, and what part it is depends on the cause of an
error: a slash or a brace, an expression that is left open, or a whole
expression. A tree is placed in a text if all errors that its evaluation may
meet are marked so.
-/

namespace Phrasebook

def Marks (text : List Char) (span : Span) (part : List Char) : Prop :=
  ∃ before after, text = before ++ (part ++ after) ∧
    span = ⟨before.length, before.length + part.length⟩

namespace Marks

variable {text part : List Char} {span : Span}

theorem stop_le (marks : Marks text span part) :
    span.stop ≤ text.length := by
  obtain ⟨before, after, rfl, rfl⟩ := marks
  simp only [List.length_append]
  omega

theorem start_lt_stop
    (marks : Marks text span part) (notNil : part ≠ []) :
    span.start < span.stop := by
  obtain ⟨before, after, rfl, rfl⟩ := marks
  have := List.length_pos_iff.mpr notNil
  simp only
  omega

theorem stop_eq (marks : Marks text span part) :
    span.stop = span.start + part.length := by
  obtain ⟨before, after, _, rfl⟩ := marks
  rfl

theorem first
    {c : Char} {rest : List Char} (marks : Marks text span (c :: rest)) :
    text[span.start]? = some c := by
  obtain ⟨before, after, rfl, rfl⟩ := marks
  simp

theorem last
    {c : Char} {others : List Char} (marks : Marks text span (others ++ [c])) :
    text[span.stop - 1]? = some c := by
  obtain ⟨before, after, rfl, rfl⟩ := marks
  have place :
      before.length + (others ++ [c]).length - 1 =
        (before ++ others).length := by
    simp only [List.length_append, List.length_singleton]
    omega
  simp only [place, ← List.append_assoc]
  simp

/-- The places of a suffix and of what is left of it mark what lies between. -/
theorem of_isSuffix
    {whole rest : List Char} {size : Nat} (suffix : text <:+ whole)
    (isSize : whole.length = size) (equality : text = part ++ rest) :
    Marks whole ⟨size - text.length, size - rest.length⟩ part := by
  obtain ⟨before, rfl⟩ := suffix
  subst equality
  refine ⟨before, rest, rfl, ?_⟩
  simp only [List.length_append] at isSize ⊢
  congr 1 <;> omega

end Marks

/-! ## Parts of expressions -/

/-- An expression up to a place in one of its parts. -/
inductive IsOpening (limit level : Nat) : Region → List Char → Prop
  | selector {selector : List Char} :
      level ≤ limit →
      IsText limit .selector (level + 1) selector →
      IsOpening limit level .selector ('\x7b' :: selector)
  | ifFalse {head ifFalse : List Char} :
      IsOpening limit level .selector head →
      IsText limit .ifFalse (level + 1) ifFalse →
      IsOpening limit level .ifFalse (head ++ '?' :: ifFalse)
  | ifTrue {head ifTrue : List Char} :
      IsOpening limit level .ifFalse head →
      IsText limit .ifTrue (level + 1) ifTrue →
      IsOpening limit level .ifTrue (head ++ '|' :: ifTrue)

/-- A specifier that goes on to the end of the text. -/
inductive IsOpenSpecifier : List Char → Prop
  | nil : IsOpenSpecifier []
  | lone : IsOpenSpecifier ['/']
  | ordinary {c : Char} {rest : List Char} :
      c ≠ '/' →
      c ≠ '\x7d' →
      IsOpenSpecifier rest →
      IsOpenSpecifier (c :: rest)
  | brace {rest : List Char} :
      IsOpenSpecifier rest →
      IsOpenSpecifier ('/' :: '\x7d' :: rest)
  | slash {c : Char} {rest : List Char} :
      c ≠ '\x7d' →
      IsOpenSpecifier (c :: rest) →
      IsOpenSpecifier ('/' :: c :: rest)

/-- An expression that is left open at the end of the text, while all
expressions in it are closed. A slash may wait there. -/
inductive IsUnclosed (limit level : Nat) : List Char → Prop
  | part {region : Region} {head : List Char} :
      IsOpening limit level region head →
      IsUnclosed limit level head
  | slash {region : Region} {head : List Char} :
      IsOpening limit level region head →
      IsUnclosed limit level (head ++ ['/'])
  | specifier {region : Region} {head specifier : List Char} :
      region ≠ .ifFalse →
      IsOpening limit level region head →
      IsOpenSpecifier specifier →
      IsUnclosed limit level (head ++ ':' :: specifier)

/-- An expression that is closed without its second branch. -/
inductive IsHalf (limit level : Nat) : List Char → Prop
  | closed {head : List Char} :
      IsOpening limit level .ifFalse head →
      IsHalf limit level (head ++ ['\x7d'])

variable {limit level size : Nat}

theorem IsOpening.le
    {region : Region} {head : List Char}
    (opening : IsOpening limit level region head) :
    level ≤ limit := by
  induction opening with
  | selector shallow _ =>
      exact shallow
  | ifFalse _ _ inductionHypothesis | ifTrue _ _ inductionHypothesis =>
      exact inductionHypothesis

theorem IsOpening.eq_brace_cons
    {region : Region} {head : List Char}
    (opening : IsOpening limit level region head) :
    ∃ rest, head = '\x7b' :: rest := by
  induction opening with
  | selector _ _ =>
      exact ⟨_, rfl⟩
  | ifFalse _ _ inductionHypothesis | ifTrue _ _ inductionHypothesis =>
      obtain ⟨rest, rfl⟩ := inductionHypothesis
      exact ⟨_, rfl⟩

theorem IsOpening.isExpression
    {region : Region} {head ending : List Char}
    (opening : IsOpening limit level region head)
    (complete : region ≠ .ifFalse) (isEnding : IsEnding ending) :
    IsExpression limit level (head ++ ending) := by
  have shallow := opening.le
  cases opening with
  | selector _ selectorIsText =>
      exact .plain shallow selectorIsText isEnding
  | ifFalse _ _ =>
      exact absurd rfl complete
  | ifTrue falseOpening ifTrueIsText =>
      cases falseOpening with
      | ifFalse selectorOpening ifFalseIsText =>
          cases selectorOpening with
          | selector _ selectorIsText =>
              exact .branched shallow selectorIsText ifFalseIsText
                ifTrueIsText isEnding

theorem IsUnclosed.eq_brace_cons
    {text : List Char} (unclosed : IsUnclosed limit level text) :
    ∃ rest, text = '\x7b' :: rest := by
  cases unclosed with
  | part opening =>
      exact opening.eq_brace_cons
  | slash opening | specifier _ opening _ =>
      obtain ⟨rest, rfl⟩ := opening.eq_brace_cons
      exact ⟨_, rfl⟩

theorem IsHalf.eq_brace_cons
    {text : List Char} (half : IsHalf limit level text) :
    ∃ rest, text = '\x7b' :: rest := by
  cases half with
  | closed opening =>
      obtain ⟨rest, rfl⟩ := opening.eq_brace_cons
      exact ⟨_, rfl⟩

theorem IsEnding.eq_append_brace
    {ending : List Char} (isEnding : IsEnding ending) :
    ∃ others, ending = others ++ ['\x7d'] := by
  cases isEnding with
  | plain =>
      exact ⟨[], rfl⟩
  | specified isSpecifier =>
      exact ⟨_, rfl⟩

theorem IsExpression.eq_append_brace
    {text : List Char} (isExpression : IsExpression limit level text) :
    ∃ others, text = others ++ ['\x7d'] := by
  cases isExpression with
  | plain _ _ isEnding | branched _ _ _ _ isEnding =>
      obtain ⟨others, rfl⟩ := isEnding.eq_append_brace
      rw [← List.append_assoc]
      exact ⟨_, rfl⟩

/-! ## What errors mark -/

/-- The part of a text that a span marks, for each cause of an error. A slash
at the end of the text stands alone there, and an expression without an end
goes on to the end of the text. Every other error is met in a whole
expression. -/
def Cause.Fits (limit : Nat) (text : List Char) (span : Span) : Cause → Prop
  | danglingEscape => Marks text span ['/'] ∧ span.stop = text.length
  | nestingTooDeep _ => Marks text span ['\x7b']
  | unterminatedExpression =>
      ∃ level part, IsUnclosed limit level part ∧ Marks text span part ∧
        span.stop = text.length
  | incompleteBranch _ =>
      ∃ level part, IsHalf limit level part ∧ Marks text span part
  | _ => ∃ level part, IsExpression limit level part ∧ Marks text span part

/-- Every error marks some part of the text. -/
theorem Cause.Fits.exists_marks
    {text : List Char} {span : Span} {cause : Cause}
    (fits : cause.Fits limit text span) :
    ∃ part, part ≠ [] ∧ Marks text span part := by
  cases cause with
  | danglingEscape =>
      exact ⟨_, List.cons_ne_nil _ _, fits.1⟩
  | nestingTooDeep _ =>
      exact ⟨_, List.cons_ne_nil _ _, fits⟩
  | unterminatedExpression =>
      obtain ⟨level, part, unclosed, marks, _⟩ := fits
      obtain ⟨rest, rfl⟩ := unclosed.eq_brace_cons
      exact ⟨_, List.cons_ne_nil _ _, marks⟩
  | incompleteBranch _ =>
      obtain ⟨level, part, half, marks⟩ := fits
      obtain ⟨rest, rfl⟩ := half.eq_brace_cons
      exact ⟨_, List.cons_ne_nil _ _, marks⟩
  | selectorTooLong _ | invalidSelector _ _ | slotOutOfRange _ _ _
  | argumentOutOfRange _ _ | missingContext _ | missingField _ _
  | noEnabledFlag _ | invalidFormat _ _ =>
      obtain ⟨level, part, isExpression, marks⟩ := fits
      obtain ⟨rest, rfl⟩ := isExpression.eq_brace_cons
      exact ⟨_, List.cons_ne_nil _ _, marks⟩

/-- An end is placed where its expression is a whole one or left open. -/
def Ending.Placed (limit : Nat) (text : List Char) (level : Nat)
    (span : Span) : Ending → Prop
  | missing => Cause.unterminatedExpression.Fits limit text span
  | plain | specified _ =>
      ∃ part, IsExpression limit level part ∧ Marks text span part

mutual

/-- Pieces are placed in a text if their faults mark what they should. -/
def Pieces.Placed (limit : Nat) (text : List Char) (level : Nat) :
    Pieces → Prop
  | .nil => True
  | .literal _ rest => rest.Placed limit text level
  | .nested expression rest =>
      expression.Placed limit text level ∧ rest.Placed limit text level
  | .dangling span => Cause.danglingEscape.Fits limit text span
  | .tooDeep deepest span =>
      (Cause.nestingTooDeep deepest).Fits limit text span

/-- An expression is placed if its parts are and, once they have no faults, the
expression itself. -/
def SyntaxTree.Placed (limit : Nat) (text : List Char) (level : Nat) :
    SyntaxTree → Prop
  | .single _ span selector ending =>
      selector.Placed limit text (level + 1) ∧
        (selector.fault? = none → ending.Placed limit text level span)
  | .half _ span selector ifFalse ending =>
      selector.Placed limit text (level + 1) ∧
        ifFalse.Placed limit text (level + 1) ∧
        (selector.fault? = none → ifFalse.fault? = none →
          ∀ selector, (ending.causeOfHalf selector).Fits limit text span)
  | .branched _ span selector ifFalse ifTrue ending =>
      selector.Placed limit text (level + 1) ∧
        ifFalse.Placed limit text (level + 1) ∧
        ifTrue.Placed limit text (level + 1) ∧
        (selector.fault? = none → ifFalse.fault? = none →
          ifTrue.fault? = none → ending.Placed limit text level span)

end

/-! ## What is read is placed -/

/-- A specifier that is not read to a brace goes on to the end. -/
theorem isOpenSpecifier_of_unread
    {text : List Char} (unread : readSpecifier text = none) :
    IsOpenSpecifier text := by
  fun_induction readSpecifier text with
  | case1 =>
      exact .nil
  | case2 rest =>
      cases unread
  | case3 =>
      exact .lone
  | case4 rest inductionHypothesis =>
      exact .brace (inductionHypothesis (Option.map_eq_none_iff.mp unread))
  | case5 c rest notBrace notLast notPair inductionHypothesis =>
      have restOpen :=
        inductionHypothesis (Option.map_eq_none_iff.mp unread)
      by_cases isSlash : c = '/'
      · subst isSlash
        cases rest with
        | nil =>
            exact absurd rfl (notLast rfl)
        | cons d others =>
            refine .slash ?_ restOpen
            rintro rfl
            exact notPair others rfl rfl
      · exact .ordinary isSlash notBrace restOpen

/-- An expression that has no end where its last part stops is left open. -/
theorem IsOpening.isUnclosed
    {region : Region} {head behind : List Char}
    (opening : IsOpening limit level region head)
    (stops : Stops region behind) (notQuestion : ∀ rest, behind ≠ '?' :: rest)
    (notBar : ∀ rest, behind ≠ '|' :: rest)
    (missing : (readEnding behind).value = .missing) :
    IsUnclosed limit level (head ++ behind) := by
  cases stops with
  | ended =>
      rw [List.append_nil]
      exact .part opening
  | slash inside =>
      exact .slash opening
  | mark ends =>
      rename_i c rest
      rcases Region.eq_of_ends ends with rfl | rfl | rfl | rfl
      · exact absurd rfl (notQuestion rest)
      · exact absurd rfl (notBar rest)
      · refine .specifier ?_ opening ?_
        · rintro rfl
          cases ends
        · cases wasRead : readSpecifier rest with
          | none =>
              exact isOpenSpecifier_of_unread wasRead
          | some reading =>
              rw [readEnding_specified wasRead] at missing
              cases missing
      · cases missing

section Ends

variable {region : Region} {head behind text whole : List Char}

theorem IsOpening.unclosed_fits
    (opening : IsOpening limit level region head)
    (stops : Stops region behind) (notQuestion : ∀ rest, behind ≠ '?' :: rest)
    (notBar : ∀ rest, behind ≠ '|' :: rest)
    (missing : (readEnding behind).value = .missing)
    (equality : '\x7b' :: text = head ++ behind)
    (suffix : '\x7b' :: text <:+ whole) (isSize : whole.length = size) :
    Cause.unterminatedExpression.Fits limit whole
      ⟨size - (text.length + 1), size - (readEnding behind).rest.length⟩ := by
  have noRest := rest_eq_nil_of_missing missing
  have toEnd : '\x7b' :: text = (head ++ behind) ++ [] := by
    rw [List.append_nil, equality]
  have unclosed := opening.isUnclosed stops notQuestion notBar missing
  rw [noRest]
  exact ⟨level, _, unclosed, .of_isSuffix suffix isSize toEnd, isSize.symm⟩

theorem IsOpening.ending_placed
    (opening : IsOpening limit level region head)
    (complete : region ≠ .ifFalse) (stops : Stops region behind)
    (notQuestion : ∀ rest, behind ≠ '?' :: rest)
    (notBar : ∀ rest, behind ≠ '|' :: rest)
    (equality : '\x7b' :: text = head ++ behind)
    (suffix : '\x7b' :: text <:+ whole) (isSize : whole.length = size) :
    (readEnding behind).value.Placed limit whole level
      ⟨size - (text.length + 1), size - (readEnding behind).rest.length⟩ := by
  by_cases missing : (readEnding behind).value = .missing
  · rw [missing]
    exact opening.unclosed_fits stops notQuestion notBar missing equality
      suffix isSize
  · obtain ⟨ending, isEnding, endingEquality⟩ := isEnding_of_read missing
    have isExpression := opening.isExpression complete isEnding
    have toRest :
        '\x7b' :: text =
          (head ++ ending) ++ (readEnding behind).rest := by
      rw [equality, List.append_assoc, ← endingEquality]
    have marks := Marks.of_isSuffix suffix isSize toRest
    generalize (readEnding behind).value = value at missing
    cases value with
    | missing =>
        exact absurd rfl missing
    | plain | specified specifier =>
        exact ⟨_, isExpression, marks⟩

/-- An expression that may still go on to its second branch is closed without it
or left open. -/
theorem IsOpening.half_fits
    (opening : IsOpening limit level .ifFalse head)
    (stops : Stops .ifFalse behind) (notBar : ∀ rest, behind ≠ '|' :: rest)
    (equality : '\x7b' :: text = head ++ behind)
    (suffix : '\x7b' :: text <:+ whole) (isSize : whole.length = size)
    (selector : String) :
    ((readEnding behind).value.causeOfHalf selector).Fits limit whole
      ⟨size - (text.length + 1), size - (readEnding behind).rest.length⟩ := by
  have notQuestion (rest : List Char) : behind ≠ '?' :: rest :=
    stops.ne_cons rfl (by decide) rest
  by_cases missing : (readEnding behind).value = .missing
  · have fits :=
      opening.unclosed_fits stops notQuestion notBar missing equality suffix
        isSize
    rw [missing]
    exact fits
  · cases stops with
    | ended | slash inside =>
        exact absurd rfl missing
    | mark ends =>
        rename_i c rest
        rcases Region.eq_of_ends ends with rfl | rfl | rfl | rfl
        · exact absurd rfl (notQuestion rest)
        · exact absurd rfl (notBar rest)
        · cases ends
        · have toRest : '\x7b' :: text = (head ++ ['\x7d']) ++ rest := by
            rw [equality, List.append_assoc, List.singleton_append]
          exact ⟨level, _, .closed opening,
            .of_isSuffix suffix isSize toRest⟩

end Ends

mutual

/-- Pieces that are read from the end of a text are placed in the text. -/
theorem ReadsText.placed
    {region : Region} {level : Nat} {text rest whole : List Char}
    {pieces : Pieces}
    (reads : ReadsText limit size region level text pieces rest)
    (suffix : text <:+ whole) (isSize : whole.length = size) :
    pieces.Placed limit whole level := by
  match reads with
  | .stop _ =>
      trivial
  | .dangling =>
      have marks :=
        Marks.of_isSuffix suffix isSize (List.append_nil ['/']).symm
      exact ⟨marks, isSize.symm⟩
  | .escape _ restReads =>
      exact restReads.placed
        ((List.suffix_append ['/', _] _).trans suffix) isSize
  | .slash _ restReads | .ordinary _ _ _ restReads =>
      exact restReads.placed ((List.suffix_cons _ _).trans suffix) isSize
  | .tooDeep rest _ =>
      exact Marks.of_isSuffix suffix isSize
        (List.singleton_append : _ = '\x7b' :: rest).symm
  | .nested shallow expressionReads restReads =>
      have behindSuffix :=
        expressionReads.isSuffix.trans
          ((List.suffix_cons '\x7b' _).trans suffix)
      exact ⟨expressionReads.placed shallow suffix isSize,
        restReads.placed behindSuffix isSize⟩

theorem ReadsExpression.placed
    {site : Site} {level : Nat} {text rest whole : List Char}
    {tree : SyntaxTree}
    (reads : ReadsExpression limit size site level text tree rest)
    (shallow : level ≤ limit) (suffix : '\x7b' :: text <:+ whole)
    (isSize : whole.length = size) :
    tree.Placed limit whole level := by
  have textSuffix := (List.suffix_cons _ _).trans suffix
  match reads with
  | .single behind selectorReads notQuestion =>
      refine ⟨selectorReads.placed textSuffix isSize, ?_⟩
      intro selectorFaultless
      obtain ⟨selector, selectorIsText, equality⟩ :=
        selectorReads.isText selectorFaultless
      have opening : IsOpening limit level .selector ('\x7b' :: selector) :=
        .selector shallow selectorIsText
      exact opening.ending_placed (by decide) selectorReads.stops notQuestion
        (selectorReads.stops.ne_cons rfl (by decide))
        (congrArg _ equality) suffix isSize
  | .half afterMark behind selectorReads ifFalseReads notBar =>
      have markSuffix :=
        (List.suffix_cons _ _).trans
          (selectorReads.isSuffix.trans textSuffix)
      refine ⟨selectorReads.placed textSuffix isSize,
        ifFalseReads.placed markSuffix isSize, ?_⟩
      intro selectorFaultless ifFalseFaultless
      obtain ⟨selector, selectorIsText, rfl⟩ :=
        selectorReads.isText selectorFaultless
      obtain ⟨ifFalse, ifFalseIsText, rfl⟩ :=
        ifFalseReads.isText ifFalseFaultless
      have opening :
          IsOpening limit level .ifFalse
            ('\x7b' :: selector ++ '?' :: ifFalse) :=
        .ifFalse (.selector shallow selectorIsText) ifFalseIsText
      exact opening.half_fits ifFalseReads.stops notBar (by simp) suffix isSize
  | .branched afterMark afterBar behind selectorReads ifFalseReads
      ifTrueReads =>
      have markSuffix :=
        (List.suffix_cons _ _).trans
          (selectorReads.isSuffix.trans textSuffix)
      have barSuffix :=
        (List.suffix_cons _ _).trans
          (ifFalseReads.isSuffix.trans markSuffix)
      refine ⟨selectorReads.placed textSuffix isSize,
        ifFalseReads.placed markSuffix isSize,
        ifTrueReads.placed barSuffix isSize, ?_⟩
      intro selectorFaultless ifFalseFaultless ifTrueFaultless
      obtain ⟨selector, selectorIsText, rfl⟩ :=
        selectorReads.isText selectorFaultless
      obtain ⟨ifFalse, ifFalseIsText, rfl⟩ :=
        ifFalseReads.isText ifFalseFaultless
      obtain ⟨ifTrue, ifTrueIsText, rfl⟩ :=
        ifTrueReads.isText ifTrueFaultless
      have opening :
          IsOpening limit level .ifTrue
            ('\x7b' :: selector ++ '?' :: ifFalse ++ '|' :: ifTrue) :=
        .ifTrue (.ifFalse (.selector shallow selectorIsText) ifFalseIsText)
          ifTrueIsText
      exact opening.ending_placed (by decide) ifTrueReads.stops
        (ifTrueReads.stops.ne_cons rfl (by decide))
        (ifTrueReads.stops.ne_cons rfl (by decide)) (by simp) suffix isSize

end

theorem parseTemplate_placed (limit : Nat) (template : String) :
    (parseTemplate limit template).Placed limit template.toList 0 :=
  (readText_related limit template.length .outside 0 template.toList).placed
    (List.suffix_refl _) String.length_toList

end Phrasebook
