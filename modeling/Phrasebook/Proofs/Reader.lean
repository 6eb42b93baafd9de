import Phrasebook.Proofs.SyntaxTree

/-!
# Steps of the reader

The readers of the first pass recur on what other readers leave over. Here
their steps become the constructors of a relation between a text, what is read
from it and what is left, so that facts about readers are proved by induction
on what was read.
-/

namespace Phrasebook

/-- A reader of a region stops in front of such a text. -/
inductive Stops (region : Region) : List Char → Prop
  | ended : Stops region []
  | slash : region ≠ .outside → Stops region ['/']
  | mark {c : Char} {rest : List Char} :
      region.ends c = true →
      Stops region (c :: rest)

theorem Stops.ne_cons
    {region : Region} {text : List Char} {c : Char}
    (stops : Stops region text) (notEnd : region.ends c = false)
    (notSlash : c ≠ '/') (rest : List Char) :
    text ≠ c :: rest := by
  rintro rfl
  cases stops with
  | slash inside =>
      exact notSlash rfl
  | mark ends =>
      rw [notEnd] at ends
      cases ends

/-- Outside all expressions only the end of the text stops a reader. -/
theorem Stops.eq_nil
    {text : List Char} (stops : Stops .outside text) : text = [] := by
  cases stops with
  | ended =>
      rfl
  | slash inside =>
      exact absurd rfl inside
  | mark ends =>
      cases ends

mutual

/-- `ReadsText limit size region level text pieces rest` tells that `pieces`
are read from the front of `text` and that `rest` is left. -/
inductive ReadsText (limit size : Nat) :
    Region → Nat → List Char → Pieces → List Char → Prop
  | stop {region : Region} {level : Nat} {text : List Char} :
      Stops region text →
      ReadsText limit size region level text .nil text
  | dangling {level : Nat} :
      ReadsText limit size .outside level ['/']
        (.dangling ⟨size - 1, size⟩) []
  | escape {region : Region} {level : Nat} {c : Char}
      {rest after : List Char} {pieces : Pieces} :
      region.escapes c = true →
      ReadsText limit size region level rest pieces after →
      ReadsText limit size region level ('/' :: c :: rest)
        (.literal c pieces) after
  | slash {region : Region} {level : Nat} {c : Char}
      {rest after : List Char} {pieces : Pieces} :
      region.escapes c = false →
      ReadsText limit size region level (c :: rest) pieces after →
      ReadsText limit size region level ('/' :: c :: rest)
        (.literal '/' pieces) after
  | tooDeep {region : Region} {level : Nat} (rest : List Char) :
      limit < level →
      ReadsText limit size region level ('\x7b' :: rest)
        (.tooDeep limit ⟨size - (rest.length + 1), size - rest.length⟩) []
  | nested {region : Region} {level : Nat} {expression : SyntaxTree}
      {rest behind after : List Char} {pieces : Pieces} :
      level ≤ limit →
      ReadsExpression limit size region.site level rest expression behind →
      ReadsText limit size region level behind pieces after →
      ReadsText limit size region level ('\x7b' :: rest)
        (.nested expression pieces) after
  | ordinary {region : Region} {level : Nat} {c : Char}
      {rest after : List Char} {pieces : Pieces} :
      c ≠ '/' →
      c ≠ '\x7b' →
      region.ends c = false →
      ReadsText limit size region level rest pieces after →
      ReadsText limit size region level (c :: rest) (.literal c pieces) after

/-- The same for an expression behind its opening brace. -/
inductive ReadsExpression (limit size : Nat) :
    Site → Nat → List Char → SyntaxTree → List Char → Prop
  | single {site : Site} {level : Nat} {text : List Char}
      {selector : Pieces} (behind : List Char) :
      ReadsText limit size .selector (level + 1) text selector behind →
      (∀ rest, behind ≠ '?' :: rest) →
      ReadsExpression limit size site level text
        (.single site
          ⟨size - (text.length + 1),
            size - (readEnding behind).rest.length⟩
          selector (readEnding behind).value)
        (readEnding behind).rest
  | half {site : Site} {level : Nat} {text : List Char}
      {selector ifFalse : Pieces} (rest behind : List Char) :
      ReadsText limit size .selector (level + 1) text selector
        ('?' :: rest) →
      ReadsText limit size .ifFalse (level + 1) rest ifFalse behind →
      (∀ rest, behind ≠ '|' :: rest) →
      ReadsExpression limit size site level text
        (.half site
          ⟨size - (text.length + 1),
            size - (readEnding behind).rest.length⟩
          selector ifFalse (readEnding behind).value)
        (readEnding behind).rest
  | branched {site : Site} {level : Nat} {text : List Char}
      {selector ifFalse ifTrue : Pieces} (rest last behind : List Char) :
      ReadsText limit size .selector (level + 1) text selector
        ('?' :: rest) →
      ReadsText limit size .ifFalse (level + 1) rest ifFalse ('|' :: last) →
      ReadsText limit size .ifTrue (level + 1) last ifTrue behind →
      ReadsExpression limit size site level text
        (.branched site
          ⟨size - (text.length + 1),
            size - (readEnding behind).rest.length⟩
          selector ifFalse ifTrue (readEnding behind).value)
        (readEnding behind).rest

end

variable {limit size : Nat}

theorem eq_of_behindMark
    {mark : Char} {text : List Char}
    {rest : { rest : List Char // rest.length < text.length }}
    (marked : behindMark mark text = some rest) :
    text = mark :: rest.val := by
  cases text with
  | nil =>
      cases marked
  | cons c tail =>
      by_cases isMark : c = mark
      · subst isMark
        simp only [behindMark, if_true] at marked
        cases marked
        rfl
      · simp only [behindMark, isMark, if_false] at marked
        cases marked

theorem ne_of_behindMark
    {mark : Char} {text : List Char} (unmarked : behindMark mark text = none)
    (rest : List Char) :
    text ≠ mark :: rest := by
  rintro rfl
  simp only [behindMark, if_true] at unmarked
  cases unmarked

/-! ## The readers take these steps -/

/-- What the two readers find is related to their texts. -/
theorem readers_related (limit size : Nat) :
    (∀ region level text,
      ReadsText limit size region level text
        (readText limit size region level text).value
        (readText limit size region level text).rest) ∧
    (∀ site level text,
      ReadsExpression limit size site level text
        (readExpression limit size site level text).value
        (readExpression limit size site level text).rest) := by
  -- The cases are those of the two readers, in the order of their branches.
  apply readText.mutual_induct
  case case1 =>
    intro region level
    rw [readText]
    exact .stop .ended
  case case2 =>
    intro level
    rw [readText, if_pos rfl]
    exact .dangling
  case case3 =>
    intro region level inside
    rw [readText, if_neg inside]
    exact .stop (.slash inside)
  case case4 =>
    intro region level c rest escaped restReads
    rw [readText, if_pos escaped]
    exact .escape escaped restReads
  case case5 =>
    intro region level c rest kept restReads
    rw [readText, if_neg kept]
    exact .slash (Bool.eq_false_iff.mpr kept) restReads
  case case6 =>
    intro region level rest deep
    rw [readText, if_pos deep]
    exact .tooDeep rest deep
  case case7 =>
    intro region level rest shallow inner behind _ innerRead innerReads
      behindReads
    rw [innerRead] at innerReads
    rw [readText, if_neg shallow, innerRead]
    exact .nested (Nat.not_lt.mp shallow) innerReads behindReads
  case case8 =>
    intro region level c rest notLast notSlash notBrace ends
    rw [readText.eq_5 _ _ _ _ _ _ notLast notSlash notBrace, if_pos ends]
    exact .stop (.mark ends)
  case case9 =>
    intro region level c rest notLast notSlash notBrace notEnd restReads
    rw [readText.eq_5 _ _ _ _ _ _ notLast notSlash notBrace, if_neg notEnd]
    have ordinary : c ≠ '/' := by
      rintro rfl
      cases rest with
      | nil =>
          exact notLast rfl rfl
      | cons d rest =>
          exact notSlash d rest rfl rfl
    exact .ordinary ordinary notBrace (Bool.eq_false_iff.mpr notEnd) restReads
  case case10 =>
    intro site level text selector behindSelector _ selectorRead rest _
      markQuestion _ ifFalse behindFalse _ ifFalseRead last _ markBar _ ifTrue
      behind _ ifTrueRead selectorReads ifFalseReads ifTrueReads
    rw [selectorRead] at selectorReads
    rw [ifFalseRead] at ifFalseReads
    rw [ifTrueRead] at ifTrueReads
    rw [readExpression, selectorRead]
    simp only [markQuestion]
    rw [ifFalseRead]
    simp only [markBar]
    rw [ifTrueRead]
    simp only [eq_of_behindMark markQuestion] at selectorReads
    simp only [eq_of_behindMark markBar] at ifFalseReads
    exact .branched rest last behind selectorReads ifFalseReads ifTrueReads
  case case11 =>
    intro site level text selector behindSelector _ selectorRead rest _
      markQuestion _ ifFalse behind _ ifFalseRead notBar selectorReads
      ifFalseReads
    rw [selectorRead] at selectorReads
    rw [ifFalseRead] at ifFalseReads
    rw [readExpression, selectorRead]
    simp only [markQuestion]
    rw [ifFalseRead]
    simp only [notBar]
    simp only [eq_of_behindMark markQuestion] at selectorReads
    exact .half rest behind selectorReads ifFalseReads
      (ne_of_behindMark notBar)
  case case12 =>
    intro site level text selector behind _ selectorRead notQuestion
      selectorReads
    rw [selectorRead] at selectorReads
    rw [readExpression, selectorRead]
    simp only [notQuestion]
    exact .single behind selectorReads (ne_of_behindMark notQuestion)

theorem readText_related
    (limit size : Nat) (region : Region) (level : Nat) (text : List Char) :
    ReadsText limit size region level text
      (readText limit size region level text).value
      (readText limit size region level text).rest :=
  (readers_related limit size).1 region level text

/-! ## Ends of expressions -/

/-- What is read in front of a closing brace is a specifier. -/
theorem isSpecifier_of_read
    {text : List Char} {reading : Reading (List Char) text}
    (wasRead : readSpecifier text = some reading) :
    ∃ specifier, IsSpecifier specifier ∧
      text = specifier ++ '\x7d' :: reading.rest := by
  fun_induction readSpecifier text with
  | case1 =>
      cases wasRead
  | case2 rest =>
      cases wasRead
      exact ⟨[], .nil, rfl⟩
  | case3 =>
      cases wasRead
  | case4 rest inductionHypothesis =>
      obtain ⟨tail, tailRead, rfl⟩ := Option.map_eq_some_iff.mp wasRead
      obtain ⟨specifier, isSpecifier, equality⟩ :=
        inductionHypothesis tailRead
      exact ⟨'/' :: '\x7d' :: specifier, .brace isSpecifier, by
        simpa using equality⟩
  | case5 c rest notBrace notLast notPair inductionHypothesis =>
      obtain ⟨tail, tailRead, rfl⟩ := Option.map_eq_some_iff.mp wasRead
      obtain ⟨specifier, isSpecifier, equality⟩ :=
        inductionHypothesis tailRead
      refine ⟨c :: specifier, ?_, by simpa using equality⟩
      by_cases isSlash : c = '/'
      · subst isSlash
        cases specifier with
        | nil =>
            exact absurd equality (notPair _ rfl)
        | cons d others =>
            refine .slash ?_ isSpecifier
            rintro rfl
            exact notPair _ rfl equality
      · exact .ordinary isSlash notBrace isSpecifier

theorem IsSpecifier.read
    {specifier : List Char} (isSpecifier : IsSpecifier specifier)
    (rest : List Char) :
    ∃ reading, readSpecifier (specifier ++ '\x7d' :: rest) = some reading ∧
      reading.rest = rest := by
  induction isSpecifier with
  | nil =>
      exact ⟨_, rfl, rfl⟩
  | ordinary notSlash notBrace tail inductionHypothesis =>
      obtain ⟨reading, wasRead, isRest⟩ := inductionHypothesis
      simp only [List.cons_append]
      rw [readSpecifier.eq_5 _ _ notBrace (fun isSlash => absurd isSlash notSlash)
        (fun _ isSlash => absurd isSlash notSlash), wasRead]
      exact ⟨_, rfl, isRest⟩
  | brace tail inductionHypothesis =>
      obtain ⟨reading, wasRead, isRest⟩ := inductionHypothesis
      simp only [List.cons_append]
      rw [readSpecifier.eq_4, wasRead]
      exact ⟨_, rfl, isRest⟩
  | slash notBrace tail inductionHypothesis =>
      obtain ⟨reading, wasRead, isRest⟩ := inductionHypothesis
      simp only [List.cons_append] at wasRead ⊢
      rw [readSpecifier.eq_5 _ _ (by decide) (by simp) (by simp [notBrace]),
        wasRead]
      exact ⟨_, rfl, isRest⟩

theorem readEnding_specified
    {rest : List Char} {reading : Reading (List Char) rest}
    (wasRead : readSpecifier rest = some reading) :
    readEnding (':' :: rest) =
      (reading.map fun specifier =>
        .specified (String.ofList specifier)).behind ':' := by
  simp only [readEnding, wasRead]

/-- An end is read past its brace. Where it is missing, all of the text is
taken. -/
theorem readEnding_cases (text : List Char) :
    ((readEnding text).value = .missing ∧ (readEnding text).rest = []) ∨
      ∃ ending, IsEnding ending ∧ (readEnding text).value ≠ .missing ∧
        text = ending ++ (readEnding text).rest := by
  fun_cases readEnding text with
  | case1 rest =>
      exact .inr ⟨_, .plain, Ending.noConfusion, rfl⟩
  | case2 rest reading wasRead =>
      obtain ⟨specifier, isSpecifier, equality⟩ := isSpecifier_of_read wasRead
      rw [readEnding_specified wasRead]
      refine .inr ⟨_, .specified isSpecifier, Ending.noConfusion, ?_⟩
      simpa using equality
  | case3 rest unread =>
      left
      simp only [readEnding, unread]
      exact ⟨rfl, rfl⟩
  | case4 =>
      rename_i notBrace notColon
      rw [readEnding.eq_3 text notBrace notColon]
      exact .inl ⟨rfl, rfl⟩

theorem isEnding_of_read
    {text : List Char} (ended : (readEnding text).value ≠ .missing) :
    ∃ ending, IsEnding ending ∧ text = ending ++ (readEnding text).rest := by
  rcases readEnding_cases text with
    ⟨missing, _⟩ | ⟨ending, isEnding, _, equality⟩
  · exact absurd missing ended
  · exact ⟨ending, isEnding, equality⟩

theorem rest_eq_nil_of_missing
    {text : List Char} (missing : (readEnding text).value = .missing) :
    (readEnding text).rest = [] := by
  rcases readEnding_cases text with ⟨_, noRest⟩ | ⟨_, _, ended, _⟩
  · exact noRest
  · exact absurd missing ended

theorem IsEnding.read
    {ending : List Char} (isEnding : IsEnding ending) (rest : List Char) :
    (readEnding (ending ++ rest)).value ≠ .missing ∧
      (readEnding (ending ++ rest)).rest = rest := by
  cases isEnding with
  | plain =>
      simp [readEnding]
  | specified isSpecifier =>
      obtain ⟨reading, wasRead, isRest⟩ := isSpecifier.read rest
      rw [List.append_assoc, List.cons_append, List.singleton_append,
        readEnding_specified wasRead]
      simp [isRest]

/-! ## What is left -/

theorem ReadsText.stops
    {region : Region} {level : Nat} {text rest : List Char} {pieces : Pieces}
    (reads : ReadsText limit size region level text pieces rest) :
    Stops region rest := by
  match reads with
  | .stop stops =>
      exact stops
  | .dangling | .tooDeep _ _ =>
      exact .ended
  | .escape _ restReads | .slash _ restReads | .nested _ _ restReads
  | .ordinary _ _ _ restReads =>
      exact restReads.stops

theorem readEnding_isSuffix (text : List Char) :
    (readEnding text).rest <:+ text := by
  rcases readEnding_cases text with
    ⟨_, noRest⟩ | ⟨ending, _, _, equality⟩
  · rw [noRest]
    exact List.nil_suffix
  · exact ⟨ending, equality.symm⟩

mutual

theorem ReadsText.isSuffix
    {region : Region} {level : Nat} {text rest : List Char} {pieces : Pieces}
    (reads : ReadsText limit size region level text pieces rest) :
    rest <:+ text := by
  match reads with
  | .stop _ =>
      exact List.suffix_refl _
  | .dangling | .tooDeep _ _ =>
      exact List.nil_suffix
  | .escape _ restReads =>
      exact restReads.isSuffix.trans (List.suffix_append ['/', _] _)
  | .slash _ restReads | .ordinary _ _ _ restReads =>
      exact restReads.isSuffix.trans (List.suffix_cons _ _)
  | .nested _ expressionReads restReads =>
      have behindSuffix := expressionReads.isSuffix
      exact restReads.isSuffix.trans
        (behindSuffix.trans (List.suffix_cons _ _))

theorem ReadsExpression.isSuffix
    {site : Site} {level : Nat} {text rest : List Char} {tree : SyntaxTree}
    (reads : ReadsExpression limit size site level text tree rest) :
    rest <:+ text := by
  match reads with
  | .single behind selectorReads _ =>
      exact (readEnding_isSuffix behind).trans selectorReads.isSuffix
  | .half _ behind selectorReads ifFalseReads _ =>
      have markSuffix :=
        (List.suffix_cons _ _).trans selectorReads.isSuffix
      exact (readEnding_isSuffix behind).trans
        (ifFalseReads.isSuffix.trans markSuffix)
  | .branched _ _ behind selectorReads ifFalseReads ifTrueReads =>
      have markSuffix :=
        (List.suffix_cons _ _).trans selectorReads.isSuffix
      have barSuffix :=
        (List.suffix_cons _ _).trans (ifFalseReads.isSuffix.trans markSuffix)
      exact (readEnding_isSuffix behind).trans
        (ifTrueReads.isSuffix.trans barSuffix)

end

theorem ReadsText.length_le
    {region : Region} {level : Nat} {text rest : List Char} {pieces : Pieces}
    (reads : ReadsText limit size region level text pieces rest) :
    rest.length ≤ text.length :=
  reads.isSuffix.length_le

theorem ReadsExpression.length_le
    {site : Site} {level : Nat} {text rest : List Char} {tree : SyntaxTree}
    (reads : ReadsExpression limit size site level text tree rest) :
    rest.length ≤ text.length :=
  reads.isSuffix.length_le

end Phrasebook
