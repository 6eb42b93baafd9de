import Phrasebook.Proofs.Reader

/-!
# Faults of the grammar

A tree has a fault where the first evaluation of it must stop, whatever its
expressions evaluate to. A tree without a fault is read from a text of the
grammar, and such a tree is read from every text of the grammar.
-/

namespace Phrasebook

inductive FaultKind where
  | unterminated
  | dangling
  | tooDeep (limit : Nat)
  | incomplete
  deriving DecidableEq

structure Fault where
  kind : FaultKind
  span : Span
  deriving DecidableEq

def Ending.fault? (ending : Ending) (span : Span) : Option Fault :=
  match ending with
  | missing => some ⟨.unterminated, span⟩
  | plain | specified _ => none

def Ending.faultOfHalf : Ending → FaultKind
  | missing => .unterminated
  | plain | specified _ => .incomplete

@[simp]
theorem Ending.fault?_eq_none_iff {ending : Ending} {span : Span} :
    ending.fault? span = none ↔ ending ≠ .missing := by
  cases ending <;> simp [fault?]

/-- The fault that a cause stands for. The other causes lie in what an
expression asks for. -/
def Cause.faultKind? : Cause → Option FaultKind
  | unterminatedExpression => some .unterminated
  | danglingEscape => some .dangling
  | nestingTooDeep limit => some (.tooDeep limit)
  | incompleteBranch _ => some .incomplete
  | _ => none

/-- The fault of the template itself that an error tells of. Errors inside
entries tell of none. -/
def ResolveError.fault? (error : ResolveError) : Option Fault :=
  match error.entries with
  | [] => error.cause.faultKind?.map fun kind => ⟨kind, error.span⟩
  | _ :: _ => none

mutual

def Pieces.fault? : Pieces → Option Fault
  | .nil => none
  | .literal _ rest => rest.fault?
  | .nested expression rest => expression.fault?.or rest.fault?
  | .dangling span => some ⟨.dangling, span⟩
  | .tooDeep limit span => some ⟨.tooDeep limit, span⟩

def SyntaxTree.fault? : SyntaxTree → Option Fault
  | .single _ span selector ending =>
      selector.fault?.or (ending.fault? span)
  | .half _ span selector ifFalse ending =>
      selector.fault?.or
        (ifFalse.fault?.or (some ⟨ending.faultOfHalf, span⟩))
  | .branched _ span selector ifFalse ifTrue ending =>
      selector.fault?.or
        (ifFalse.fault?.or (ifTrue.fault?.or (ending.fault? span)))

end

def templateFault? (limit : Nat) (template : String) : Option Fault :=
  (parseTemplate limit template).fault?

variable {limit size : Nat}

/-! ## What is read without a fault belongs to the grammar -/

theorem IsExpression.eq_brace_cons
    {level : Nat} {text : List Char}
    (isExpression : IsExpression limit level text) :
    ∃ body, text = '\x7b' :: body := by
  cases isExpression <;> exact ⟨_, rfl⟩

theorem IsText.behind_kept
    {region : Region} {level : Nat} {c : Char} {rest : List Char}
    (isText : IsText limit region level (c :: rest))
    (kept : region.escapes c = false) :
    IsText limit region level rest := by
  obtain ⟨notSlash, notBrace, _⟩ := Region.ordinary_of_not_escapes kept
  generalize equality : c :: rest = text at isText
  cases isText with
  | nil =>
      cases equality
  | ordinary _ _ _ restIsText =>
      cases equality
      exact restIsText
  | escape | slash =>
      cases equality
      exact absurd rfl notSlash
  | nested innerIsExpression =>
      obtain ⟨body, rfl⟩ := innerIsExpression.eq_brace_cons
      cases equality
      exact absurd rfl notBrace

mutual

/-- What is read without a fault belongs to the grammar. -/
theorem ReadsText.isText
    {region : Region} {level : Nat} {text rest : List Char} {pieces : Pieces}
    (reads : ReadsText limit size region level text pieces rest)
    (faultless : pieces.fault? = none) :
    ∃ consumed, IsText limit region level consumed ∧
      text = consumed ++ rest := by
  match reads with
  | .stop _ =>
      exact ⟨[], .nil, rfl⟩
  | .dangling | .tooDeep _ _ =>
      cases faultless
  | .escape escaped restReads =>
      obtain ⟨consumed, isText, rfl⟩ := restReads.isText faultless
      exact ⟨_, .escape escaped isText, rfl⟩
  | .slash kept restReads =>
      -- The character behind the slash is read once more, as an ordinary one.
      obtain ⟨notSlash, _, notEnd⟩ := Region.ordinary_of_not_escapes kept
      obtain ⟨consumed, isText, equality⟩ := restReads.isText faultless
      cases consumed with
      | nil =>
          exact absurd equality.symm
            (restReads.stops.ne_cons notEnd notSlash _)
      | cons d tail =>
          cases equality
          exact ⟨_, .slash kept (isText.behind_kept kept), rfl⟩
  | .nested shallow expressionReads restReads =>
      obtain ⟨expressionFaultless, restFaultless⟩ :=
        Option.or_eq_none_iff.mp faultless
      obtain ⟨whole, isExpression, equality⟩ :=
        expressionReads.isExpression shallow expressionFaultless
      obtain ⟨consumed, isText, rfl⟩ := restReads.isText restFaultless
      exact ⟨_, .nested isExpression isText, by
        rw [equality, List.append_assoc]⟩
  | .ordinary notSlash notBrace notEnd restReads =>
      obtain ⟨consumed, isText, rfl⟩ := restReads.isText faultless
      exact ⟨_, .ordinary notSlash notBrace notEnd isText, rfl⟩

/-- An expression that is read without a fault belongs to the grammar. -/
theorem ReadsExpression.isExpression
    {site : Site} {level : Nat} {text rest : List Char} {tree : SyntaxTree}
    (reads : ReadsExpression limit size site level text tree rest)
    (shallow : level ≤ limit) (faultless : tree.fault? = none) :
    ∃ whole, IsExpression limit level whole ∧
      '\x7b' :: text = whole ++ rest := by
  match reads with
  | .single behind selectorReads _ =>
      simp only [SyntaxTree.fault?, Option.or_eq_none_iff,
        Ending.fault?_eq_none_iff] at faultless
      obtain ⟨selectorFaultless, ended⟩ := faultless
      obtain ⟨selector, selectorIsText, rfl⟩ :=
        selectorReads.isText selectorFaultless
      obtain ⟨ending, isEnding, equality⟩ := isEnding_of_read ended
      refine ⟨_, .plain shallow selectorIsText isEnding, ?_⟩
      rw [List.append_assoc, ← equality, List.cons_append]
  | .half _ _ _ _ _ =>
      simp only [SyntaxTree.fault?, Option.or_eq_none_iff, reduceCtorEq,
        and_false] at faultless
  | .branched _ _ behind selectorReads ifFalseReads ifTrueReads =>
      simp only [SyntaxTree.fault?, Option.or_eq_none_iff,
        Ending.fault?_eq_none_iff] at faultless
      obtain ⟨selectorFaultless, ifFalseFaultless, ifTrueFaultless, ended⟩ :=
        faultless
      obtain ⟨selector, selectorIsText, rfl⟩ :=
        selectorReads.isText selectorFaultless
      obtain ⟨ifFalse, ifFalseIsText, rfl⟩ :=
        ifFalseReads.isText ifFalseFaultless
      obtain ⟨ifTrue, ifTrueIsText, rfl⟩ :=
        ifTrueReads.isText ifTrueFaultless
      obtain ⟨ending, isEnding, equality⟩ := isEnding_of_read ended
      refine ⟨_, .branched shallow selectorIsText ifFalseIsText ifTrueIsText
        isEnding, ?_⟩
      simp only [List.append_assoc, List.cons_append]
      rw [← equality]

end

/-! ## Texts of the grammar are read without a fault -/

theorem readText_of_stops
    {region : Region} {level : Nat} {text : List Char}
    (stops : Stops region text) :
    readText limit size region level text = .stay .nil := by
  cases stops with
  | ended =>
      rw [readText]
  | slash inside =>
      rw [readText, if_neg inside]
  | mark ends =>
      rename_i c rest
      have notSlash : c ≠ '/' := by
        rintro rfl
        rw [region.not_ends_slash] at ends
        cases ends
      have notBrace : c ≠ '\x7b' := by
        rintro rfl
        rw [region.not_ends_brace] at ends
        cases ends
      rw [readText.eq_5 _ _ _ _ _ _ (fun isSlash => absurd isSlash notSlash)
        (fun _ _ isSlash => absurd isSlash notSlash) notBrace, if_pos ends]

theorem readText_ordinary
    {region : Region} {level : Nat} {c : Char} {rest : List Char}
    (notSlash : c ≠ '/') (notBrace : c ≠ '\x7b')
    (notEnd : region.ends c = false) :
    readText limit size region level (c :: rest) =
      ((readText limit size region level rest).map (.literal c)).behind
        c := by
  rw [readText.eq_5 _ _ _ _ _ _ (fun isSlash => absurd isSlash notSlash)
    (fun _ _ isSlash => absurd isSlash notSlash) notBrace,
    if_neg (Bool.eq_false_iff.mp notEnd)]

theorem readText_nested
    {region : Region} {level : Nat} {rest behind : List Char}
    (size : Nat) (shallow : level ≤ limit)
    (leaves :
      (readExpression limit size region.site level rest).rest = behind) :
    (readText limit size region level ('\x7b' :: rest)).rest =
        (readText limit size region level behind).rest ∧
      (readText limit size region level ('\x7b' :: rest)).value =
        .nested (readExpression limit size region.site level rest).value
          (readText limit size region level behind).value := by
  subst leaves
  rw [readText, if_neg (Nat.not_lt.mpr shallow)]
  exact ⟨rfl, rfl⟩

/-- No mark stands where an expression ends. -/
theorem IsEnding.unmarked
    {ending : List Char} (isEnding : IsEnding ending) (mark : Char)
    (notColon : mark ≠ ':') (notBrace : mark ≠ '\x7d') (rest : List Char) :
    behindMark mark (ending ++ rest) = none := by
  cases isEnding with
  | plain =>
      exact if_neg notBrace.symm
  | specified isSpecifier =>
      exact if_neg notColon.symm

theorem IsEnding.stops
    {ending : List Char} (isEnding : IsEnding ending) {region : Region}
    (colonEnds : region.ends ':' = true)
    (braceEnds : region.ends '\x7d' = true) (rest : List Char) :
    Stops region (ending ++ rest) := by
  cases isEnding with
  | plain =>
      exact .mark braceEnds
  | specified isSpecifier =>
      exact .mark colonEnds

mutual

/-- A text of the grammar is read without a fault, up to its end. -/
theorem IsText.read
    {region : Region} {level : Nat} {text : List Char}
    (isText : IsText limit region level text) (size : Nat)
    {rest : List Char} (stops : Stops region rest) :
    (readText limit size region level (text ++ rest)).rest = rest ∧
      (readText limit size region level (text ++ rest)).value.fault? =
        none := by
  match isText with
  | .nil =>
      rw [List.nil_append, readText_of_stops stops]
      exact ⟨rfl, rfl⟩
  | .ordinary notSlash notBrace notEnd restIsText =>
      rw [List.cons_append, readText_ordinary notSlash notBrace notEnd]
      exact restIsText.read size stops
  | .escape escaped restIsText =>
      rw [List.cons_append, List.cons_append, readText, if_pos escaped]
      exact restIsText.read size stops
  | .slash kept restIsText =>
      obtain ⟨notSlash, notBrace, notEnd⟩ :=
        Region.ordinary_of_not_escapes kept
      rw [List.cons_append, List.cons_append, readText,
        if_neg (Bool.eq_false_iff.mp kept),
        readText_ordinary notSlash notBrace notEnd]
      exact restIsText.read size stops
  | .nested isExpression restIsText =>
      rename_i inner behind
      have shallow : level ≤ limit := by
        cases isExpression <;> assumption
      obtain ⟨after, equality, leaves, faultless⟩ :=
        isExpression.read size region.site (behind ++ rest)
      obtain ⟨restLeaves, restFaultless⟩ := restIsText.read size stops
      obtain ⟨restIs, valueIs⟩ := readText_nested size shallow leaves
      rw [List.append_assoc, equality, restIs, valueIs, Pieces.fault?,
        faultless]
      exact ⟨restLeaves, restFaultless⟩

/-- An expression of the grammar is read as a whole, and without a fault. -/
theorem IsExpression.read
    {level : Nat} {text : List Char}
    (isExpression : IsExpression limit level text) (size : Nat) (site : Site)
    (rest : List Char) :
    ∃ after, text ++ rest = '\x7b' :: after ∧
      (readExpression limit size site level after).rest = rest ∧
      (readExpression limit size site level after).value.fault? = none := by
  match isExpression with
  | .plain shallow selectorIsText isEnding =>
      rename_i selector ending
      obtain ⟨selectorLeaves, selectorFaultless⟩ :=
        selectorIsText.read size (isEnding.stops rfl rfl rest)
      obtain ⟨ended, endingLeaves⟩ := isEnding.read rest
      refine ⟨selector ++ (ending ++ rest), by simp, ?_⟩
      rw [readExpression]
      generalize readText limit size .selector (level + 1) _ = reading at *
      obtain ⟨pieces, behind, bounded⟩ := reading
      subst selectorLeaves
      simp only [isEnding.unmarked '?' (by decide) (by decide)]
      simp [SyntaxTree.fault?, selectorFaultless, ended, endingLeaves]
  | .branched shallow selectorIsText ifFalseIsText ifTrueIsText isEnding =>
      rename_i selector ifFalse ifTrue ending
      let last := ifTrue ++ (ending ++ rest)
      have markStops : Stops .selector ('?' :: (ifFalse ++ '|' :: last)) :=
        .mark rfl
      have barStops : Stops .ifFalse ('|' :: last) :=
        .mark rfl
      obtain ⟨selectorLeaves, selectorFaultless⟩ :=
        selectorIsText.read size markStops
      obtain ⟨ifFalseLeaves, ifFalseFaultless⟩ :=
        ifFalseIsText.read size barStops
      obtain ⟨ifTrueLeaves, ifTrueFaultless⟩ :=
        ifTrueIsText.read size (isEnding.stops rfl rfl rest)
      obtain ⟨ended, endingLeaves⟩ := isEnding.read rest
      refine ⟨selector ++ '?' :: (ifFalse ++ '|' :: last), by simp [last], ?_⟩
      rw [readExpression]
      generalize readText limit size .selector (level + 1) _ = reading at *
      obtain ⟨pieces, behind, bounded⟩ := reading
      subst selectorLeaves
      simp only [behindMark, if_true]
      generalize readText limit size .ifFalse (level + 1) _ = reading at *
      obtain ⟨pieces, behind, bounded⟩ := reading
      subst ifFalseLeaves
      simp only [if_true]
      generalize readText limit size .ifTrue (level + 1) _ = reading at *
      obtain ⟨pieces, behind, bounded⟩ := reading
      subst ifTrueLeaves
      simp [SyntaxTree.fault?, selectorFaultless, ifFalseFaultless,
        ifTrueFaultless, ended, endingLeaves]

end

/-- Exactly the texts of the grammar have no fault. -/
theorem templateFault?_eq_none_iff {template : String} :
    templateFault? limit template = none ↔
      IsTemplate limit template.toList := by
  have reads :=
    readText_related limit template.length .outside 0 template.toList
  have left := reads.stops.eq_nil
  constructor
  · intro faultless
    obtain ⟨consumed, isText, equality⟩ := reads.isText faultless
    rw [left, List.append_nil] at equality
    rw [equality]
    exact isText
  · intro isTemplate
    have wasRead := isTemplate.read template.length .ended
    rw [List.append_nil] at wasRead
    exact wasRead.2

end Phrasebook
