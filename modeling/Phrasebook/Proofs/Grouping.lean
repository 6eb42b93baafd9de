import Mathlib.Data.List.TakeDrop
import Phrasebook.Number.Specifier

/-!
# Grouped thousands

The digits before the point stand in groups of three behind a first group of one
to three, with commas between them. The sign and the places stay as they are.
-/

namespace Phrasebook

/-- Digits in groups of three, counted from the right. -/
structure IsGrouping (digits first : List Char) (others : List (List Char)) :
    Prop where
  isWhole : first ++ others.flatten = digits
  notEmpty : 1 ≤ first.length
  notFour : first.length ≤ 3
  areThree : ∀ group ∈ others, group.length = 3

theorem length_flatten_of_three
    {groups : List (List Char)} (areThree : ∀ group ∈ groups, group.length = 3) :
    groups.flatten.length = 3 * groups.length := by
  induction groups with
  | nil =>
      rfl
  | cons group groups inductionHypothesis =>
      rw [List.forall_mem_cons] at areThree
      rw [List.flatten_cons, List.length_append, areThree.1,
        inductionHypothesis areThree.2, List.length_cons]
      omega

/-- A digit in front joins the first group, unless that has three digits. -/
theorem exists_grouping {digits : List Char} (someDigits : digits ≠ []) :
    ∃ first others, IsGrouping digits first others ∧
      groupDigits digits = [','].intercalate (first :: others) := by
  induction digits with
  | nil =>
      exact absurd rfl someDigits
  | cons digit rest inductionHypothesis =>
      unfold groupDigits
      by_cases isLast : rest = []
      · subst isLast
        refine ⟨[digit], [], ⟨rfl, ?_, ?_, List.forall_mem_nil _⟩, rfl⟩
        · simp
        · simp
      · obtain ⟨first, others, isGrouping, isText⟩ :=
          inductionHypothesis isLast
        have isLength := congrArg List.length isGrouping.isWhole
        rw [List.length_append, length_flatten_of_three isGrouping.areThree]
          at isLength
        have notEmpty := isGrouping.notEmpty
        have notFour := isGrouping.notFour
        by_cases isFull : rest.length % 3 = 0
        · have firstFull : first.length = 3 := by
            omega
          rw [if_pos ⟨isLast, isFull⟩, isText]
          refine ⟨[digit], first :: others, ⟨?_, ?_, ?_, ?_⟩, ?_⟩
          · rw [List.flatten_cons, isGrouping.isWhole]
            rfl
          · simp
          · simp
          · exact List.forall_mem_cons.mpr ⟨firstFull, isGrouping.areThree⟩
          · rw [List.intercalate_cons_cons]
            rfl
        · rw [if_neg (fun full => isFull full.2), isText]
          refine ⟨digit :: first, others, ⟨?_, ?_, ?_, isGrouping.areThree⟩, ?_⟩
          · rw [List.cons_append, isGrouping.isWhole]
          · simp
          · rw [List.length_cons]
            omega
          · cases others with
            | nil =>
                rfl
            | cons group others =>
                rw [List.intercalate_cons_cons, List.intercalate_cons_cons]
                rfl

/-- Only what stands between the sign and the point is grouped. -/
theorem groupThousands_eq
    {sign whole rest : List Char} (isSign : sign = [] ∨ sign = ['-'])
    (someDigits : whole ≠ []) (areDigits : ∀ c ∈ whole, c.isDigit)
    (stops : ∀ c ∈ rest.head?, c = '.') :
    groupThousands (sign ++ whole ++ rest) =
      sign ++ groupDigits whole ++ rest := by
  have notPoint : ∀ c ∈ whole, decide (c ≠ '.') := by
    intro c isMember
    rw [decide_eq_true_iff]
    rintro rfl
    have isDigit := areDigits '.' isMember
    cases isDigit
  have front : (whole ++ rest).takeWhile (· ≠ '.') = whole := by
    rw [List.takeWhile_append_of_pos notPoint]
    cases rest with
    | nil =>
        simp
    | cons c rest =>
        simp [stops c rfl]
  have behind : (whole ++ rest).dropWhile (· ≠ '.') = rest := by
    rw [List.dropWhile_append_of_pos notPoint]
    cases rest with
    | nil =>
        rfl
    | cons c rest =>
        simp [stops c rfl]
  unfold groupThousands
  rcases isSign with rfl | rfl
  · rw [List.nil_append]
    split
    rename_i sign body isSplit
    split at isSplit
    · rename_i unsigned isMinus
      cases whole with
      | nil =>
          exact absurd rfl someDigits
      | cons c whole =>
          cases isMinus
          have isDigit := areDigits '-' List.mem_cons_self
          cases isDigit
    · cases isSplit
      rw [front, behind]
  · rw [List.append_assoc]
    change ['-'] ++ groupDigits ((whole ++ rest).takeWhile (· ≠ '.')) ++
      (whole ++ rest).dropWhile (· ≠ '.') = _
    rw [front, behind]

/-- Without its commas a grouped text is what was grouped. -/
theorem filter_groupThousands
    {text : List Char} (withoutCommas : ',' ∉ text) :
    (groupThousands text).filter (fun c => c != ',') = text := by
  have grouped (body : List Char) (noCommas : ',' ∉ body) :
      (groupDigits (body.takeWhile (· ≠ '.')) ++
        body.dropWhile (· ≠ '.')).filter (fun c => c != ',') = body := by
    have frontWithout : ',' ∉ body.takeWhile (· ≠ '.') := by
      intro isMember
      exact noCommas ((List.takeWhile_sublist _).mem isMember)
    have behindWithout : ∀ c ∈ body.dropWhile (· ≠ '.'), c != ',' := by
      intro c isMember
      have inBody := (List.dropWhile_sublist _).mem isMember
      rw [bne_iff_ne]
      rintro rfl
      exact noCommas inBody
    rw [List.filter_append, filter_groupDigits frontWithout,
      List.filter_eq_self.mpr behindWithout, List.takeWhile_append_dropWhile]
  unfold groupThousands
  split
  rename_i sign rest isSplit
  split at isSplit
  · rename_i body
    cases isSplit
    have noCommas : ',' ∉ rest := fun isMember =>
      withoutCommas (List.mem_cons_of_mem _ isMember)
    rw [List.append_assoc, List.filter_append, grouped rest noCommas]
    rfl
  · cases isSplit
    rw [List.nil_append, grouped text withoutCommas]

/-! ## Whole numerals -/

/-- An optional sign, some digits, and perhaps a point with digits behind it. -/
structure IsNumeral (sign whole fraction : List Char) : Prop where
  isSign : sign = [] ∨ sign = ['-']
  someDigits : whole ≠ []
  areDigits : ∀ c ∈ whole, c.isDigit
  isFraction : fraction = [] ∨
    ∃ places, fraction = '.' :: places ∧ ∀ c ∈ places, c.isDigit

namespace IsNumeral

variable {sign whole fraction : List Char}

theorem comma_not_mem_whole (isNumeral : IsNumeral sign whole fraction) :
    ',' ∉ whole := by
  intro isMember
  have isDigit := isNumeral.areDigits ',' isMember
  cases isDigit

theorem comma_not_mem_sign (isNumeral : IsNumeral sign whole fraction) :
    ',' ∉ sign := by
  rcases isNumeral.isSign with rfl | rfl
  · decide
  · decide

theorem comma_not_mem_fraction (isNumeral : IsNumeral sign whole fraction) :
    ',' ∉ fraction := by
  rcases isNumeral.isFraction with rfl | ⟨places, rfl, areDigits⟩
  · exact List.not_mem_nil
  · intro isMember
    rcases List.mem_cons.mp isMember with isPoint | inPlaces
    · cases isPoint
    · have isDigit := areDigits ',' inPlaces
      cases isDigit

theorem comma_not_mem (isNumeral : IsNumeral sign whole fraction) :
    ',' ∉ sign ++ whole ++ fraction := by
  rw [List.mem_append, List.mem_append]
  rintro ((inSign | inWhole) | inFraction)
  · exact isNumeral.comma_not_mem_sign inSign
  · exact isNumeral.comma_not_mem_whole inWhole
  · exact isNumeral.comma_not_mem_fraction inFraction

theorem fraction_stops (isNumeral : IsNumeral sign whole fraction) :
    ∀ c ∈ fraction.head?, c = '.' := by
  rcases isNumeral.isFraction with rfl | ⟨places, rfl, -⟩
  · intro c isHead
    cases isHead
  · intro c isHead
    exact (Option.some.inj isHead).symm

end IsNumeral

theorem head?_intercalate
    {separator first : List Char} {others : List (List Char)}
    (notEmpty : first ≠ []) :
    (separator.intercalate (first :: others)).head? =
      some (first.head notEmpty) := by
  cases others with
  | nil =>
      rw [List.intercalate_singleton, List.head?_eq_some_head notEmpty]
  | cons second others =>
      rw [List.intercalate_cons_cons, List.append_assoc, List.head?_append,
        List.head?_eq_some_head notEmpty]
      rfl

theorem exists_getLast?_intercalate
    {separator first : List Char} {others : List (List Char)}
    (notEmpty : ∀ group ∈ first :: others, group ≠ []) :
    ∃ group ∈ first :: others, ∃ last ∈ group,
      (separator.intercalate (first :: others)).getLast? = some last := by
  induction others generalizing first with
  | nil =>
      have someFirst : first ≠ [] := notEmpty first List.mem_cons_self
      refine ⟨first, List.mem_cons_self, first.getLast someFirst,
        List.getLast_mem someFirst, ?_⟩
      rw [List.intercalate_singleton, List.getLast?_eq_some_getLast someFirst]
  | cons second others inductionHypothesis =>
      rw [List.forall_mem_cons] at notEmpty
      obtain ⟨group, isGroup, last, inGroup, isLast⟩ :=
        inductionHypothesis notEmpty.2
      refine ⟨group, List.mem_cons_of_mem first isGroup, last, inGroup, ?_⟩
      rw [List.intercalate_cons_cons, List.getLast?_append, isLast]
      rfl

/-- Commas are set between groups of the whole digits, and nowhere else. Without
them a grouped numeral is the numeral itself, so no two numerals have the same
grouping. -/
theorem grouping_is_faithful
    {sign whole fraction : List Char}
    (isNumeral : IsNumeral sign whole fraction) :
    (groupThousands (sign ++ whole ++ fraction)).filter (fun c => c != ',') =
        sign ++ whole ++ fraction ∧
      (∃ first others,
        IsGrouping whole first others ∧
          groupThousands (sign ++ whole ++ fraction) =
            sign ++ [','].intercalate (first :: others) ++ fraction ∧
          ([','].intercalate (first :: others)).head? ≠ some ',' ∧
          ([','].intercalate (first :: others)).getLast? ≠ some ',' ∧
          ',' ∉ fraction) ∧
      ∀ {otherSign otherWhole otherFraction : List Char},
        IsNumeral otherSign otherWhole otherFraction →
        groupThousands (otherSign ++ otherWhole ++ otherFraction) =
          groupThousands (sign ++ whole ++ fraction) →
        otherSign ++ otherWhole ++ otherFraction =
          sign ++ whole ++ fraction := by
  have unfiltered := filter_groupThousands isNumeral.comma_not_mem
  refine ⟨unfiltered, ?_, ?_⟩
  · obtain ⟨first, others, isGrouping, isGrouped⟩ :=
      exists_grouping isNumeral.someDigits
    have notEmpty : ∀ group ∈ first :: others, group ≠ [] := by
      rw [List.forall_mem_cons]
      constructor
      · exact List.ne_nil_of_length_pos isGrouping.notEmpty
      · intro group isMember
        have isThree := isGrouping.areThree group isMember
        rintro rfl
        cases isThree
    have noComma : ∀ group ∈ first :: others, ',' ∉ group := by
      intro group isGroup isComma
      have inWhole := List.mem_flatten.mpr ⟨group, isGroup, isComma⟩
      rw [List.flatten_cons, isGrouping.isWhole] at inWhole
      exact isNumeral.comma_not_mem_whole inWhole
    refine ⟨first, others, isGrouping, ?_, ?_, ?_,
      isNumeral.comma_not_mem_fraction⟩
    · rw [groupThousands_eq isNumeral.isSign isNumeral.someDigits
        isNumeral.areDigits isNumeral.fraction_stops, isGrouped]
    · have someFirst := notEmpty first List.mem_cons_self
      rw [head?_intercalate someFirst]
      intro isComma
      have inFirst := List.head_mem someFirst
      rw [Option.some.inj isComma] at inFirst
      exact noComma first List.mem_cons_self inFirst
    · obtain ⟨group, isGroup, last, inGroup, isLast⟩ :=
        exists_getLast?_intercalate notEmpty
      rw [isLast]
      intro isComma
      rw [Option.some.inj isComma] at inGroup
      exact noComma group isGroup inGroup
  · intro otherSign otherWhole otherFraction isOther sameGrouping
    rw [← filter_groupThousands isOther.comma_not_mem, sameGrouping, unfiltered]

/-- Seven digits with a sign and places. -/
theorem million_is_grouped :
    IsNumeral ['-'] "1234567".toList ".8901".toList ∧
      (groupThousands "-1234567.8901".toList).filter (fun c => c != ',') =
        "-1234567.8901".toList ∧
      ∃ first others,
        IsGrouping "1234567".toList first others ∧
          "-1,234,567.8901".toList =
            ['-'] ++ [','].intercalate (first :: others) ++
              ".8901".toList := by
  have isNumeral : IsNumeral ['-'] "1234567".toList ".8901".toList :=
    ⟨.inr rfl, by decide, List.all_eq_true.mp (by decide),
      .inr ⟨['8', '9', '0', '1'], by decide,
        List.all_eq_true.mp (by decide)⟩⟩
  obtain ⟨unfiltered, ⟨first, others, isGrouping, isGrouped, -⟩, -⟩ :=
    grouping_is_faithful isNumeral
  have isText :
      ['-'] ++ "1234567".toList ++ ".8901".toList = "-1234567.8901".toList := by
    decide
  have isResult :
      groupThousands "-1234567.8901".toList = "-1,234,567.8901".toList := by
    decide
  rw [isText] at unfiltered isGrouped
  exact ⟨isNumeral, unfiltered, first, others, isGrouping,
    isResult.symm.trans isGrouped⟩

end Phrasebook
