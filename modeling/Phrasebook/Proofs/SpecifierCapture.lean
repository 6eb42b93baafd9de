import Phrasebook.Proofs.EscapedExpressions

/-!
# What is captured as a specifier

A specifier is read up to the first closing brace that no slash escapes. Any
text is read as a specifier when its closing braces are escaped, unless it ends
in a slash, which would escape the brace behind it; and a specifier that has
been read stood in the template in this form, and in no other.
-/

namespace Phrasebook

def escapeBraces (text : List Char) : List Char :=
  text.flatMap fun c => if c = '\x7d' then ['/', c] else [c]

def specifiedExpressionOf (selector specifier : String) : String :=
  "\x7b" ++ escapeText selector ++ ":" ++
    String.ofList (escapeBraces specifier.toList) ++ "\x7d"

theorem toList_specifiedExpressionOf (selector specifier : String) :
    (specifiedExpressionOf selector specifier).toList =
      '\x7b' :: (escapeMarks selector.toList ++
        ':' :: (escapeBraces specifier.toList ++ ['\x7d'])) := by
  simp [specifiedExpressionOf, escapeText]

theorem escapeBraces_cons_brace (text : List Char) :
    escapeBraces ('\x7d' :: text) = '/' :: '\x7d' :: escapeBraces text := by
  simp [escapeBraces]

theorem escapeBraces_cons_of_ne
    {c : Char} (notBrace : c ≠ '\x7d') (text : List Char) :
    escapeBraces (c :: text) = c :: escapeBraces text := by
  simp [escapeBraces, notBrace]

/-- No text with escaped braces begins with a brace. -/
theorem escapeBraces_append_ne
    {text : List Char} (notEmpty : text ≠ []) (behind rest : List Char) :
    escapeBraces text ++ behind ≠ '\x7d' :: rest := by
  cases text with
  | nil =>
      exact absurd rfl notEmpty
  | cons c others =>
      by_cases isBrace : c = '\x7d'
      · subst isBrace
        simp [escapeBraces_cons_brace]
      · simp [escapeBraces_cons_of_ne isBrace, isBrace]

theorem getLast?_cons_ne_iff
    {c mark : Char} {text : List Char} :
    (c :: text).getLast? ≠ some mark ↔
      text.getLast? ≠ some mark ∧ (text = [] → c ≠ mark) := by
  cases text with
  | nil =>
      simp
  | cons d others =>
      simp [List.getLast?_cons_cons]

/-! ## Reading specifiers -/

/-- A specifier is read where it stands with its braces escaped. -/
theorem readSpecifier_escapeBraces
    {specifier : List Char} (notSlash : specifier.getLast? ≠ some '/')
    (rest : List Char) :
    ∃ reading,
      readSpecifier (escapeBraces specifier ++ '\x7d' :: rest) =
          some reading ∧
        reading.value = specifier ∧ reading.rest = rest := by
  induction specifier with
  | nil =>
      exact ⟨_, rfl, rfl, rfl⟩
  | cons c others inductionHypothesis =>
      obtain ⟨othersNotSlash, notFinal⟩ := getLast?_cons_ne_iff.mp notSlash
      obtain ⟨reading, wasRead, isValue, isRest⟩ :=
        inductionHypothesis othersNotSlash
      by_cases isBrace : c = '\x7d'
      · subst isBrace
        rw [escapeBraces_cons_brace, List.cons_append, List.cons_append,
          readSpecifier.eq_4, wasRead]
        exact ⟨_, rfl, congrArg ('\x7d' :: ·) isValue, isRest⟩
      · have notLast :
            c = '/' → escapeBraces others ++ '\x7d' :: rest = [] → False := by
          simp
        have notPair :
            ∀ behind, c = '/' →
              escapeBraces others ++ '\x7d' :: rest = '\x7d' :: behind →
              False := by
          intro behind isSlash
          -- a slash is not the last character, so that another one follows
          have notEmpty : others ≠ [] := fun isEmpty =>
            notFinal isEmpty isSlash
          exact escapeBraces_append_ne notEmpty _ _
        rw [escapeBraces_cons_of_ne isBrace, List.cons_append,
          readSpecifier.eq_5 _ _ isBrace notLast notPair, wasRead]
        exact ⟨_, rfl, congrArg (c :: ·) isValue, isRest⟩

/-- What is read as a specifier does not end in a slash, and stood in the text
with its braces escaped. -/
theorem eq_escapeBraces_of_read
    {text : List Char} {reading : Reading (List Char) text}
    (wasRead : readSpecifier text = some reading) :
    reading.value.getLast? ≠ some '/' ∧
      text = escapeBraces reading.value ++ '\x7d' :: reading.rest := by
  fun_induction readSpecifier text with
  | case1 =>
      cases wasRead
  | case2 rest =>
      cases wasRead
      exact ⟨by simp, rfl⟩
  | case3 =>
      cases wasRead
  | case4 rest inductionHypothesis =>
      obtain ⟨tail, tailRead, rfl⟩ := Option.map_eq_some_iff.mp wasRead
      obtain ⟨notSlash, equality⟩ := inductionHypothesis tailRead
      simp only [Reading.value_behind, Reading.value_map, Reading.rest_behind,
        Reading.rest_map]
      constructor
      · exact getLast?_cons_ne_iff.mpr ⟨notSlash, fun _ => by decide⟩
      · rw [escapeBraces_cons_brace, List.cons_append, List.cons_append,
          ← equality]
  | case5 c rest notBrace notLast notPair inductionHypothesis =>
      obtain ⟨tail, tailRead, rfl⟩ := Option.map_eq_some_iff.mp wasRead
      obtain ⟨notSlash, equality⟩ := inductionHypothesis tailRead
      simp only [Reading.value_behind, Reading.value_map, Reading.rest_behind,
        Reading.rest_map]
      constructor
      · have notFinal : tail.value = [] → c ≠ '/' := by
          intro isEmpty isSlash
          rw [isEmpty] at equality
          exact notPair tail.rest isSlash equality
        exact getLast?_cons_ne_iff.mpr ⟨notSlash, notFinal⟩
      · rw [escapeBraces_cons_of_ne notBrace, List.cons_append, ← equality]

namespace Scan

variable {limit : Nat} {render : Nat → Expression → Run String}

/-- Behind the colon of an expression, the characters before a brace are read
as the specifier, and the brace closes the expression. What follows is read as
text outside of it. -/
def CapturesSpecifier
    (scanned rest : List Char) (specifier : String) : Prop :=
  ∀ limit render position start output selector branches outer,
    complete limit render
        ⟨position, false, output,
          ⟨start, .specifier selector branches, ""⟩ :: outer⟩
        (scanned ++ '\x7d' :: rest) =
      (render outer.length ⟨selector, branches, some specifier, siteIn outer,
        ⟨start, position + scanned.length + 1⟩⟩) >>= fun written =>
          complete limit render
            (write ⟨position + scanned.length + 1, false, output, outer⟩
              written)
            rest

theorem capturesSpecifier_of_read
    {scanned rest : List Char}
    {reading : Reading (List Char) (scanned ++ '\x7d' :: rest)}
    (wasRead : readSpecifier (scanned ++ '\x7d' :: rest) = some reading)
    (isRest : reading.rest = rest) :
    CapturesSpecifier scanned rest (String.ofList reading.value) := by
  intro limit render position start output selector branches outer
  have here :
      position + (scanned ++ '\x7d' :: rest).length =
        position + scanned.length + 1 + rest.length := by
    simp only [List.length_append, List.length_cons]
    omega
  rw [complete_read_specifier here wasRead, isRest, Nat.add_sub_cancel]

/-- An evaluation that fails, and whose error tells the specifier and where the
expression stands. -/
def showSpecifier (_ : Nat) (expression : Expression) : Run String :=
  Run.fail (.raised (.selectorTooLong (expression.specifier.getD ""))
    expression.span)

/-- The texts that can be captured are those that do not end in a slash, each
where it stands with its braces escaped. -/
theorem capturesSpecifier_iff
    {scanned rest : List Char} {specifier : String} :
    CapturesSpecifier scanned rest specifier ↔
      specifier.toList.getLast? ≠ some '/' ∧
        scanned = escapeBraces specifier.toList := by
  constructor
  · intro captures
    have captured := captures 0 showSpecifier 0 0 "" "" none []
    cases wasRead : readSpecifier (scanned ++ '\x7d' :: rest) with
    | none =>
        rw [complete_specifier _ _ 0 "" rfl, wasRead] at captured
        cases captured
    | some reading =>
        obtain ⟨notSlash, isText⟩ := eq_escapeBraces_of_read wasRead
        rw [complete_read_specifier rfl wasRead] at captured
        injection captured with _ sameOutcome
        injection Except.error.inj sameOutcome with _ sameCause sameSpan
        injection sameCause with sameSpecifier
        injection sameSpan with _ sameStop
        subst sameSpecifier
        have sameWhole := congrArg List.length isText
        have sameLength :
            scanned.length = (escapeBraces reading.value).length := by
          simp only [List.length_append, List.length_cons] at sameWhole sameStop
          omega
        rw [Option.getD_some, String.toList_ofList]
        exact ⟨notSlash, List.append_inj_left isText sameLength⟩
  · rintro ⟨notSlash, rfl⟩
    obtain ⟨reading, wasRead, isValue, isRest⟩ :=
      readSpecifier_escapeBraces notSlash rest
    have captures := capturesSpecifier_of_read wasRead isRest
    rwa [isValue, String.ofList_toList] at captures

/-- Where no specifier is captured, the expression has no end. -/
theorem captures_or_fails (text : List Char) :
    (∃ scanned rest specifier, text = scanned ++ '\x7d' :: rest ∧
      CapturesSpecifier scanned rest specifier) ∨
    ∀ limit render position start output selector branches outer,
      complete limit render
          ⟨position, false, output,
            ⟨start, .specifier selector branches, ""⟩ :: outer⟩ text =
        Run.fail (.raised .unterminatedExpression
          ⟨start, position + text.length⟩) := by
  cases wasRead : readSpecifier text with
  | none =>
      refine .inr ?_
      intro limit render position start output selector branches outer
      rw [complete_specifier _ text position "" rfl, wasRead]
  | some reading =>
      obtain ⟨notSlash, isText⟩ := eq_escapeBraces_of_read wasRead
      refine .inl ⟨_, _, String.ofList reading.value, isText, ?_⟩
      rw [capturesSpecifier_iff, String.toList_ofList]
      exact ⟨notSlash, rfl⟩

/-- Wherever it stands, the expression is rendered with the selector and the
specifier that it is made of. -/
theorem complete_specifiedExpressionOf
    {position : Nat} {output : String} {frames : List Frame} {region : Region}
    (inRegion : regionOf frames = some region)
    (shallow : frames.length ≤ limit) (selector : String) {specifier : String}
    (notSlash : specifier.toList.getLast? ≠ some '/') (rest : List Char) :
    complete limit render ⟨position, false, output, frames⟩
        ((specifiedExpressionOf selector specifier).toList ++ rest) =
      (render frames.length ⟨selector, none, some specifier, region.site,
        ⟨position, position +
          (specifiedExpressionOf selector specifier).length⟩⟩) >>=
        fun written =>
          complete limit render
            (write
              ⟨position + (specifiedExpressionOf selector specifier).length,
                false, output, frames⟩
              written)
            rest := by
  have template := toList_specifiedExpressionOf selector specifier
  have behind :
      position + (specifiedExpressionOf selector specifier).length =
        position + 1 + (escapeMarks selector.toList).length + 1 +
          (escapeBraces specifier.toList).length + 1 := by
    rw [← String.length_toList, template]
    simp only [List.length_cons, List.length_append, List.length_nil]
    omega
  have captures :
      CapturesSpecifier (escapeBraces specifier.toList) rest specifier :=
    capturesSpecifier_iff.mpr ⟨notSlash, rfl⟩
  rw [template, behind]
  simp only [List.cons_append, List.append_assoc, List.nil_append]
  rw [complete_nested rfl inRegion shallow]
  simp only
  rw [complete_part rfl (by decide), complete_colon rfl, captures,
    siteIn_eq inRegion]

end Scan

namespace Environment

variable {env : Environment}

theorem renderAt_of_invalidFormat
    {x : Binary64} {specifier : String} {fault : SpecifierFault}
    (hasNumber : env.context.args[0]? = some (.number x))
    (isFault : formatNumber x specifier = .error fault) (depth nesting : Nat)
    (site : Site) (span : Span) :
    env.renderAt depth nesting ⟨"0", none, some specifier, site, span⟩ =
      Run.fail (.raised (.invalidFormat specifier fault) span) := by
  have isArgument : Selector.ofText "0" = .argument 0 := by decide
  refine (Expression.render_of_argument isArgument hasNumber).trans ?_
  simp only [selectBranch, Expression.write, isFault, Expression.fail]

/-- The characters between a colon and a brace are captured as a specifier
exactly where the specifier does not end in a slash and they are its own
characters with the braces escaped; otherwise the expression has no end. A
number that cannot have the notation that is asked for fails with the specifier
as it was, whatever marks are in it and whatever text follows. -/
theorem specifiers_are_captured :
    (∀ scanned rest specifier,
      Scan.CapturesSpecifier scanned rest specifier ↔
        specifier.toList.getLast? ≠ some '/' ∧
          scanned = escapeBraces specifier.toList) ∧
    (∀ text,
      (∃ scanned rest specifier, text = scanned ++ '\x7d' :: rest ∧
        Scan.CapturesSpecifier scanned rest specifier) ∨
      ∀ limit render position start output selector branches outer,
        Scan.complete limit render
            ⟨position, false, output,
              ⟨start, .specifier selector branches, ""⟩ :: outer⟩ text =
          Run.fail (.raised .unterminatedExpression
            ⟨start, position + text.length⟩)) ∧
    ∀ (env : Environment) specifier x fault rest,
      specifier.toList.getLast? ≠ some '/' →
      env.context.args[0]? = some (.number x) →
      formatNumber x specifier = .error fault →
      let expression :=
        "\x7b0:" ++ String.ofList (escapeBraces specifier.toList) ++ "\x7d"
      env.resolve (expression ++ rest) =
        Run.fail (.raised (.invalidFormat specifier fault)
          ⟨0, expression.length⟩) := by
  refine ⟨fun _ _ _ => Scan.capturesSpecifier_iff, Scan.captures_or_fails, ?_⟩
  intro env specifier x fault rest notSlash hasNumber isFault expression
  have isExpression : expression = specifiedExpressionOf "0" specifier := by
    have opening : "\x7b" ++ escapeText "0" ++ ":" = "\x7b0:" := by decide
    rw [specifiedExpressionOf, opening]
  have outside : Scan.regionOf [] = some .outside := rfl
  rw [isExpression, resolve, resolveAt_eq_complete, String.toList_append,
    Scan.complete_specifiedExpressionOf outside (Nat.zero_le _) "0" notSlash,
    renderAt_of_invalidFormat hasNumber isFault, Run.fail_bind, Nat.zero_add]

/-- A specifier with a slash in front of a brace, and one that ends in a
slash. -/
theorem slash_before_brace_is_captured :
    let env : Environment :=
      ⟨{}, {}, ⟨.neither, none, [.number (.ofInt 3)]⟩⟩
    Scan.CapturesSpecifier "|//\x7d?:\x7b".toList "?\x7d".toList
        "|/\x7d?:\x7b" ∧
      env.resolve "\x7b0:|//\x7d?:\x7b\x7d?\x7d" =
        Run.fail (.raised
          (.invalidFormat "|/\x7d?:\x7b" (.precisionNotNumber "/\x7d?:\x7b"))
          ⟨0, 11⟩) ∧
      ¬ Scan.CapturesSpecifier "d/".toList [] "d/" := by
  intro env
  obtain ⟨captured, -, isInvalid⟩ := specifiers_are_captured
  have notSlash : "|/\x7d?:\x7b".toList.getLast? ≠ some '/' := by decide
  have isFault :
      formatNumber (.ofInt 3) "|/\x7d?:\x7b" =
        .error (.precisionNotNumber "/\x7d?:\x7b") := by
    decide +kernel
  refine ⟨(captured _ _ _).mpr ⟨notSlash, by decide⟩, ?_, ?_⟩
  · exact isInvalid env "|/\x7d?:\x7b" (.ofInt 3) _ "?\x7d" notSlash rfl isFault
  · intro captures
    exact ((captured _ _ _).mp captures).1 rfl

end Environment

end Phrasebook
