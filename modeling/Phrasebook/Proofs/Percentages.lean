import Phrasebook.Proofs.FixedPoint
import Phrasebook.Proofs.NearestNumbers

/-!
# Percentages

A percentage is the text in fixed point of the product with one hundred, so it
is accurate as long as the product is finite.
-/

namespace Phrasebook

/-! ## Accuracy -/

section Accuracy

open Binary64

variable {x : Binary64} {negative : Bool} {significand : Nat} {exponent : Int}
  {places : Nat}

/-- The two roundings of a number in fixed point. -/
theorem shownFixed_near
    (places : Nat)
    (isFinite : x.meaning = .finite negative significand exponent) :
    |shownFixed x places - scaled significand exponent| ≤
      1 / 2 * (10 : Rat) ^ (-(places : Int)) +
        1 / 2 * (10 : Rat) ^ (-14 : Int) * scaled significand exponent := by
  have unitPositive : (0 : Rat) < 10 ^ (-(places : Int)) :=
    zpow_pos (by norm_num) _
  have digitsNear := DigitString.value_ofRat_near 15 (by decide)
    (scaled_nonneg significand exponent)
  unfold shownFixed
  rw [DigitString.ofNumber_of_finite isFinite]
  have placesNear := nearestMultiple_near
    (q := (DigitString.ofRat 15 (scaled significand exponent)).value)
    unitPositive
  rw [abs_le] at *
  have fifteen : (1 : Int) - ((15 : Nat) : Int) = -14 := rfl
  rw [fifteen] at digitsNear
  constructor <;> linarith

/-- A number that is shown with a minus sign has its sign bit set; one that has
it without being shown so is zero. -/
theorem shown_of_sign
    (isFinite : x.meaning = .finite negative significand exponent) :
    (if x.isBelowZero then -shownFixed x places else shownFixed x places) =
      if negative then -shownFixed x places else shownFixed x places := by
  have isValue :
      x.finiteValue? =
        some (if negative then -scaled significand exponent
          else scaled significand exponent) := by
    unfold finiteValue?
    rw [isFinite]
  have notNegative :=
    scaled_nonneg significand exponent
  unfold isBelowZero
  rw [isValue]
  cases negative with
  | false =>
      simp [notNegative]
  | true =>
      rcases notNegative.eq_or_lt with isZero | positive
      · have isString : (DigitString.ofNumber x).value = 0 := by
          have near := DigitString.value_ofRat_near 15 (by decide)
            notNegative
          rw [DigitString.ofNumber_of_finite isFinite]
          rw [← isZero] at near ⊢
          simpa using near
        have isShown : shownFixed x places = 0 := by
          unfold shownFixed
          rw [isString]
          exact nearestMultiple_zero (zpow_pos (by norm_num) _)
        rw [isShown]
        simp
      · simp [positive]

/-- Rounding the product, taking fifteen digits of it and rounding these adds up
to less than a unit of the fifteenth digit and half a unit of the last place. -/
theorem shownFixed_timesHundred_near
    (places : Nat)
    (isFinite : x.meaning = .finite negative significand exponent)
    (isBelow : scaled significand exponent * 100 < overflowThreshold) :
    (∃ product place,
      x.timesHundred.meaning = .finite negative product place) ∧
      |shownFixed x.timesHundred places - scaled significand exponent * 100| ≤
        1 / 2 * (10 : Rat) ^ (-(places : Int)) +
          (10 : Rat) ^ (-14 : Int) * (scaled significand exponent * 100) := by
  obtain ⟨product, place, isProduct, productNear⟩ :=
    timesHundred_near isFinite isBelow
  have shownNear := shownFixed_near places isProduct
  have notNegative :=
    scaled_nonneg significand exponent
  refine ⟨⟨product, place, isProduct⟩, ?_⟩
  have fourteen : (10 : Rat) ^ (-14 : Int) = 1 / 100000000000000 := by
    norm_num
  rw [fourteen] at shownNear ⊢
  rw [abs_le] at *
  push_cast at productNear
  constructor <;> linarith

theorem shownFixed_of_infinite
    (places : Nat) (isInfinite : x.meaning = .infinite negative) :
    x.isBelowZero = false ∧ shownFixed x places = 0 := by
  have noDigits : (DigitString.ofNumber x).value = 0 := by
    unfold DigitString.ofNumber
    rw [isInfinite]
    exact DigitString.value_of_isZero rfl
  constructor
  · unfold isBelowZero finiteValue?
    rw [isInfinite]
  · unfold shownFixed
    rw [noDigits]
    exact nearestMultiple_zero (zpow_pos (by norm_num) _)

end Accuracy

/-! ## Percentages -/

theorem formatNumber_percentage
    {x : Binary64} {digits : List Char} (isFinite : x.isFinite)
    (someDigits : digits ≠ []) (isPrecision : Specifier.IsPrecision digits) :
    formatNumber x (String.ofList ('P' :: digits)) =
      .ok (String.ofList (groupThousands (fixedPoint x.timesHundred
        (ofDigits 10 (digits.map digitValue)))) ++ " %") := by
  obtain ⟨precision, isUsual, formatted⟩ :=
    Specifier.formatNumber_of_isPrecision isFinite isPrecision
  have places := isUsual 2
  unfold Specifier.precisionOr at places
  rw [if_neg someDigits] at places
  have isText (text : List Char) :
      String.ofList (text ++ [' ', '%']) = String.ofList text ++ " %" :=
    String.ofList_append
  rw [formatted, ← isText, ← places]
  rfl

def shownPercentage (x : Binary64) (places : Nat) : Rat :=
  if x.timesHundred.isBelowZero then -shownFixed x.timesHundred places
  else shownFixed x.timesHundred places

section Percentages

variable {x : Binary64} {value : Rat} {places : Nat}

theorem abs_hundred
    {negative : Bool} {significand : Nat} {exponent : Int}
    (isValue : value =
      (if negative then -Binary64.scaled significand exponent
        else Binary64.scaled significand exponent)) :
    |100 * value| = Binary64.scaled significand exponent * 100 := by
  have notNegative :=
    scaled_nonneg significand exponent
  rw [isValue]
  cases negative <;> simp [abs_of_nonneg notNegative, mul_comm]

/-- The sign of the product is the sign of the number, so the error is that of
the magnitudes. -/
theorem shownPercentage_near
    (places : Nat) (isFinite : x.finiteValue? = some value)
    (isBelow : |100 * value| < Binary64.overflowThreshold) :
    |shownPercentage x places - 100 * value| ≤
      1 / 2 * (10 : Rat) ^ (-(places : Int)) +
        (10 : Rat) ^ (-14 : Int) * |100 * value| := by
  obtain ⟨negative, significand, exponent, isMeaning, isValue⟩ :=
    Binary64.exists_meaning isFinite
  rw [abs_hundred isValue] at isBelow ⊢
  obtain ⟨⟨product, place, isProduct⟩, near⟩ :=
    shownFixed_timesHundred_near places isMeaning isBelow
  unfold shownPercentage
  rw [shown_of_sign isProduct, isValue]
  cases negative with
  | false =>
      simpa [mul_comm] using near
  | true =>
      have negated :
          -shownFixed x.timesHundred places -
              100 * -Binary64.scaled significand exponent =
            -(shownFixed x.timesHundred places -
              Binary64.scaled significand exponent * 100) := by
        ring
      rw [if_pos rfl, if_pos rfl, negated, abs_neg]
      exact near

theorem shownPercentage_of_overflow
    (isFinite : x.finiteValue? = some value)
    (isAbove : Binary64.overflowThreshold ≤ |100 * value|) :
    shownPercentage x places = 0 := by
  obtain ⟨negative, significand, exponent, isMeaning, isValue⟩ :=
    Binary64.exists_meaning isFinite
  rw [abs_hundred isValue] at isAbove
  have isInfinite := Binary64.timesHundred_of_overflow isMeaning isAbove
  obtain ⟨notBelow, isZero⟩ :=
    shownFixed_of_infinite places isInfinite
  unfold shownPercentage
  rw [notBelow, isZero]
  rfl

end Percentages

/-- A percentage is accurate unless the product overflows, and then it shows
zero. -/
theorem percentage_is_accurate
    {x : Binary64} {value : Rat} {digits : List Char}
    (isFinite : x.finiteValue? = some value) (someDigits : digits ≠ [])
    (isPrecision : Specifier.IsPrecision digits) :
    ∃ text shown,
      formatNumber x (String.ofList ('P' :: digits)) = .ok (text ++ " %") ∧
      decimalValue? (text.toList.filter fun c => c != ',') = some shown ∧
      (|100 * value| < Binary64.overflowThreshold →
        |shown - 100 * value| ≤
            1 / 2 * (10 : Rat) ^ (-(ofDigits 10 (digits.map digitValue) : Int)) +
              (10 : Rat) ^ (-14 : Int) * |100 * value| ∧
          (shown = 0 →
            |100 * value| ≤
              (10 : Rat) ^ (-(ofDigits 10 (digits.map digitValue) : Int)))) ∧
      (Binary64.overflowThreshold ≤ |100 * value| → shown = 0) := by
  have finite : x.isFinite := by
    unfold Binary64.isFinite
    rw [isFinite]
    rfl
  have formatted := formatNumber_percentage finite someDigits isPrecision
  generalize ofDigits 10 (digits.map digitValue) = places at formatted ⊢
  obtain ⟨denotes, noComma⟩ := fixedPoint_denotes x.timesHundred places
  refine ⟨_, shownPercentage x places, formatted, ?_, ?_,
    shownPercentage_of_overflow isFinite⟩
  · rw [String.toList_ofList, filter_groupThousands noComma]
    exact denotes
  · intro isBelow
    have near := shownPercentage_near places isFinite isBelow
    refine ⟨near, ?_⟩
    intro isZero
    have fourteen : (10 : Rat) ^ (-14 : Int) = 1 / 100000000000000 := by
      norm_num
    have unitPositive : (0 : Rat) < 10 ^ (-(places : Int)) :=
      zpow_pos (by norm_num) _
    rw [isZero, zero_sub, abs_neg, fourteen] at near
    linarith

/-- A quarter with one place: within half of a tenth of a percent, up to the
fifteenth digit. -/
theorem percentage_of_quarter_is_accurate :
    let x : Binary64 := ⟨0x3FD0000000000000⟩
    x.finiteValue? = some (1 / 4) ∧
      ∃ text shown,
        formatNumber x "P1" = .ok (text ++ " %") ∧
        decimalValue? (text.toList.filter fun c => c != ',') = some shown ∧
        |shown - 25| ≤ 1 / 20 + 1 / 4000000000000 := by
  intro x
  have isFinite : x.finiteValue? = some (1 / 4) := by
    decide +kernel
  have isPrecision : Specifier.IsPrecision ['1'] :=
    ⟨List.forall_mem_singleton.mpr rfl, by decide⟩
  have oneLe : (1 : Rat) ≤ 2 ^ (971 : Int) :=
    one_le_zpow₀ (by norm_num) (by decide)
  have isBelow : |100 * (1 / 4 : Rat)| < Binary64.overflowThreshold := by
    rw [Binary64.overflowThreshold_eq, abs_of_nonneg (by norm_num)]
    generalize (2 : Rat) ^ (971 : Int) = unit at oneLe ⊢
    push_cast
    linarith
  obtain ⟨text, shown, formatted, denotes, accurate, _⟩ :=
    percentage_is_accurate isFinite (List.cons_ne_nil '1' []) isPrecision
  have near := (accurate isBelow).1
  refine ⟨isFinite, text, shown, formatted, denotes, ?_⟩
  have places : ofDigits 10 (['1'].map digitValue) = 1 := by
    decide
  rw [places] at near
  norm_num at near ⊢
  exact near

/-- The product of the largest numbers overflows, and their percentage is
zero. -/
theorem percentage_of_largest_is_zero :
    let x : Binary64 := ⟨0x7FE1CCF385EBC8A0⟩
    formatNumber x "P0" = .ok ("0" ++ " %") ∧
      decimalValue? ("0".toList.filter fun c => c != ',') = some 0 ∧
      ∃ value, x.finiteValue? = some value ∧
        ¬ |(0 : Rat) - 100 * value| ≤
          1 / 2 * (10 : Rat) ^ (-0 : Int) +
            (10 : Rat) ^ (-14 : Int) * |100 * value| ∧
        ¬ |100 * value| ≤ (10 : Rat) ^ (-0 : Int) := by
  intro x
  have isFinite :
      x.finiteValue? = some (Binary64.scaled 5010420900022432 971) := by
    decide +kernel
  have oneLe : (1 : Rat) ≤ Binary64.scaled 5010420900022432 971 := by
    have largeUnit : (1 : Rat) ≤ 2 ^ (971 : Int) :=
      one_le_zpow₀ (by norm_num) (by decide)
    unfold Binary64.scaled
    generalize (2 : Rat) ^ (971 : Int) = unit at largeUnit ⊢
    push_cast
    linarith
  refine ⟨by decide +kernel, by decide +kernel, _, isFinite, ?_⟩
  generalize Binary64.scaled 5010420900022432 971 = value at oneLe ⊢
  have isPositive : |100 * value| = 100 * value :=
    abs_of_nonneg (by linarith)
  rw [zero_sub, abs_neg, isPositive]
  norm_num
  constructor <;> linarith

end Phrasebook
