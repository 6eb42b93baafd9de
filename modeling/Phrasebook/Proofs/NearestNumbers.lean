import Mathlib.Tactic.FieldSimp
import Mathlib.Tactic.Positivity
import Phrasebook.Number.Binary64
import Phrasebook.Proofs.Positional

/-!
# Nearest numbers

Rounding an exact number to a binary64 number: the fields that are put together
stand for the significand and the exponent that were found, up to a threshold
above which the number is infinite, and the error is half a unit of the last
place.
-/

namespace Phrasebook

namespace Binary64

/-! ## Fields -/

theorem toNat_ofFields
    (negative : Bool) {magnitude : Nat} (isBelow : magnitude < signBit) :
    (ofFields negative magnitude).word.toNat =
      if negative then signBit + magnitude else magnitude := by
  unfold ofFields
  cases negative <;> simp [signBit] at * <;> omega

/-- Below the fields of infinity a number is finite. Its exponent bits and its
fraction are those of the sum. -/
theorem meaning_ofFields
    {negative : Bool} {fields : Nat} (isBelow : fields < infinityFields) :
    (ofFields negative fields).meaning =
      if fields / hiddenBit = 0 then
        .finite negative (fields % hiddenBit) (-1074)
      else
        .finite negative (hiddenBit + fields % hiddenBit)
          ((fields / hiddenBit : Nat) - 1075) := by
  have small : fields < signBit := by
    unfold infinityFields at isBelow
    simp only [hiddenBit, signBit] at *
    omega
  have isWord := toNat_ofFields negative small
  have isSign : (ofFields negative fields).isNegative = negative := by
    unfold isNegative
    rw [isWord]
    cases negative with
    | false =>
        simpa using small
    | true =>
        simp
  have isExponent :
      (ofFields negative fields).biasedExponent = fields / hiddenBit := by
    unfold biasedExponent
    rw [isWord]
    unfold infinityFields at isBelow
    simp only [hiddenBit, signBit] at *
    split <;> omega
  have isFraction :
      (ofFields negative fields).fraction = fields % hiddenBit := by
    unfold fraction
    rw [isWord]
    simp only [hiddenBit, signBit] at *
    split <;> omega
  have notInfinite : fields / hiddenBit ≠ 2047 := by
    unfold infinityFields at isBelow
    simp only [hiddenBit] at *
    omega
  unfold meaning
  rw [isSign, isExponent, isFraction, if_neg notInfinite]

/-- A significand that fills up the fraction carries into the exponent bits,
and the number is the same. -/
theorem exists_meaning_of_fields
    (negative : Bool) {place significand : Nat}
    (carries : significand ≤ 2 * hiddenBit)
    (isNormal : place = 0 ∨ hiddenBit ≤ significand)
    (isBelow : place * hiddenBit + significand < infinityFields) :
    ∃ other exponent,
      (ofFields negative (place * hiddenBit + significand)).meaning =
        .finite negative other exponent ∧
      scaled other exponent = scaled significand (place - 1074) := by
  rw [meaning_ofFields isBelow]
  by_cases isSubnormal : significand < hiddenBit
  · have isFirst : place = 0 := by
      omega
    subst isFirst
    have quotient : (0 * hiddenBit + significand) / hiddenBit = 0 := by
      simp only [hiddenBit] at *
      omega
    have rest : (0 * hiddenBit + significand) % hiddenBit = significand := by
      simp only [hiddenBit] at *
      omega
    rw [quotient, rest, if_pos rfl]
    exact ⟨_, _, rfl, rfl⟩
  · by_cases isFull : significand = 2 * hiddenBit
    · subst isFull
      have quotient :
          (place * hiddenBit + 2 * hiddenBit) / hiddenBit = place + 2 := by
        simp only [hiddenBit]
        omega
      have rest : (place * hiddenBit + 2 * hiddenBit) % hiddenBit = 0 := by
        simp only [hiddenBit]
        omega
      rw [quotient, rest, if_neg (by omega)]
      refine ⟨_, _, rfl, ?_⟩
      have exponent :
          ((place + 2 : Nat) : Int) - 1075 = (place - 1074) + 1 := by
        omega
      unfold scaled
      rw [exponent, zpow_add₀ (by norm_num), zpow_one]
      push_cast
      ring
    · have quotient :
          (place * hiddenBit + significand) / hiddenBit = place + 1 := by
        simp only [hiddenBit] at *
        omega
      have rest :
          hiddenBit + (place * hiddenBit + significand) % hiddenBit =
            significand := by
        simp only [hiddenBit] at *
        omega
      rw [quotient, rest, if_neg (by omega)]
      refine ⟨_, _, rfl, ?_⟩
      have exponent : ((place + 1 : Nat) : Int) - 1075 = place - 1074 := by
        omega
      rw [exponent]

/-! ## Rounding -/

def lastPlace (magnitude : Rat) : Int :=
  max (leadingExponent 2 magnitude - 52) (-1074)

def unitsOf (magnitude : Rat) : Nat :=
  roundHalfEven (magnitude / (2 : Rat) ^ lastPlace magnitude)

section Rounding

variable {magnitude : Rat} {negative : Bool}

theorem lastPlace_ge (magnitude : Rat) : -1074 ≤ lastPlace magnitude :=
  le_max_right _ _

/-- Between two powers of two, and above the lower one unless the number is
subnormal. -/
theorem quotient_bounds (positive : 0 < magnitude) :
    0 < magnitude / (2 : Rat) ^ lastPlace magnitude ∧
      magnitude / (2 : Rat) ^ lastPlace magnitude ≤ (2 * hiddenBit : Nat) ∧
      (-1074 < lastPlace magnitude →
        (hiddenBit : Rat) ≤ magnitude / (2 : Rat) ^ lastPlace magnitude) := by
  have bounds := leadingExponent_bounds 2 (by decide) positive
  have unitPositive : (0 : Rat) < 2 ^ lastPlace magnitude :=
    zpow_pos (by norm_num) _
  refine ⟨div_pos positive unitPositive, ?_, ?_⟩
  · rw [div_le_iff₀ unitPositive]
    have power : ((2 * hiddenBit : Nat) : Rat) = (2 : Rat) ^ (53 : Int) := by
      norm_num
    have place :
        leadingExponent 2 magnitude + 1 ≤ 53 + lastPlace magnitude := by
      unfold lastPlace
      omega
    rw [power, ← zpow_add₀ (by norm_num)]
    calc
      magnitude ≤ (2 : Rat) ^ (leadingExponent 2 magnitude + 1) := by
        exact_mod_cast bounds.2.le
      _ ≤ (2 : Rat) ^ (53 + lastPlace magnitude) :=
        zpow_le_zpow_right₀ (by norm_num) place
  · intro isNormal
    rw [le_div_iff₀ unitPositive]
    have power : (hiddenBit : Rat) = (2 : Rat) ^ (52 : Int) := by
      norm_num
    have place :
        (52 : Int) + lastPlace magnitude = leadingExponent 2 magnitude := by
      unfold lastPlace at *
      omega
    rw [power, ← zpow_add₀ (by norm_num), place]
    exact_mod_cast bounds.1

theorem unitsOf_le (positive : 0 < magnitude) :
    unitsOf magnitude ≤ 2 * hiddenBit := by
  obtain ⟨quotientPositive, isBelow, _⟩ := quotient_bounds positive
  exact roundHalfEven_le quotientPositive.le isBelow

theorem le_unitsOf
    (positive : 0 < magnitude) (isNormal : -1074 < lastPlace magnitude) :
    hiddenBit ≤ unitsOf magnitude := by
  obtain ⟨quotientPositive, _, isAbove⟩ := quotient_bounds positive
  exact le_roundHalfEven quotientPositive.le (isAbove isNormal)

/-- Rounding is off by half a unit of the last place. -/
theorem scaled_unitsOf_near (positive : 0 < magnitude) :
    |scaled (unitsOf magnitude) (lastPlace magnitude) - magnitude| ≤
      1 / 2 * (2 : Rat) ^ lastPlace magnitude := by
  have unitPositive : (0 : Rat) < 2 ^ lastPlace magnitude :=
    zpow_pos (by norm_num) _
  have near := roundHalfEven_near (div_pos positive unitPositive).le
  have difference :
      scaled (unitsOf magnitude) (lastPlace magnitude) - magnitude =
        (unitsOf magnitude - magnitude / (2 : Rat) ^ lastPlace magnitude) *
          (2 : Rat) ^ lastPlace magnitude := by
    unfold scaled
    rw [sub_mul, div_mul_cancel₀ _ unitPositive.ne']
  rw [difference, abs_mul, abs_of_pos unitPositive]
  exact mul_le_mul_of_nonneg_right near unitPositive.le

/-- The least number that is rounded to infinity: half a unit below the power of
two behind the largest number. -/
def overflowThreshold : Rat :=
  (2 : Rat) ^ (1024 : Int) - (2 : Rat) ^ (970 : Int)

theorem overflowThreshold_eq :
    overflowThreshold = ((2 * hiddenBit : Nat) - 1 / 2) * (2 : Rat) ^ (971 : Int) := by
  have large : (2 : Rat) ^ (1024 : Int) = 2 ^ (53 : Int) * 2 ^ (971 : Int) := by
    rw [← zpow_add₀ (by norm_num)]
    rfl
  have half : (2 : Rat) ^ (970 : Int) = 2 ^ (-1 : Int) * 2 ^ (971 : Int) := by
    rw [← zpow_add₀ (by norm_num)]
    rfl
  have power : ((2 * hiddenBit : Nat) : Rat) = (2 : Rat) ^ (53 : Int) := by
    norm_num
  have inverse : (2 : Rat) ^ (-1 : Int) = 1 / 2 := by
    norm_num
  unfold overflowThreshold
  rw [large, half, power, inverse]
  ring

/-- The exponent bits and the fraction reach those of infinity at the
threshold. Only at the last place of the largest numbers does the rounding
decide, and a tie goes up there. -/
theorem infinityFields_le_iff (positive : 0 < magnitude) :
    infinityFields ≤
        (lastPlace magnitude + 1074).toNat * hiddenBit + unitsOf magnitude ↔
      overflowThreshold ≤ magnitude := by
  obtain ⟨quotientPositive, isBelow, isAbove⟩ := quotient_bounds positive
  have unitPositive : (0 : Rat) < 2 ^ lastPlace magnitude :=
    zpow_pos (by norm_num) _
  have unitsLe := unitsOf_le positive
  have largestPositive : (0 : Rat) < 2 ^ (971 : Int) :=
    zpow_pos (by norm_num) _
  rw [overflowThreshold_eq]
  rcases lt_trichotomy (lastPlace magnitude) 971 with isSmall | isLast | isLarge
  · have fieldsBelow :
        (lastPlace magnitude + 1074).toNat * hiddenBit + unitsOf magnitude <
          infinityFields := by
      unfold infinityFields
      simp only [hiddenBit] at *
      omega
    have magnitudeBelow :
        magnitude < ((2 * hiddenBit : Nat) - 1 / 2) * (2 : Rat) ^ (971 : Int) := by
      have magnitudeLe := (div_le_iff₀ unitPositive).mp isBelow
      have unitLe :
          2 * (2 : Rat) ^ lastPlace magnitude ≤ (2 : Rat) ^ (971 : Int) := by
        rw [← zpow_one_add₀ (by norm_num)]
        exact zpow_le_zpow_right₀ (by norm_num) (by omega)
      generalize (2 : Rat) ^ (971 : Int) = large at largestPositive unitLe ⊢
      push_cast at magnitudeLe ⊢
      linarith
    constructor
    · intro isInfinite
      exact absurd isInfinite (Nat.not_le.mpr fieldsBelow)
    · intro isInfinite
      exact absurd isInfinite (not_le.mpr magnitudeBelow)
  · have isEven : (2 * hiddenBit) % 2 = 0 := by
      decide
    have isTie := even_le_roundHalfEven_iff quotientPositive.le isEven
    rw [le_div_iff₀ unitPositive, isLast] at isTie
    rw [← isTie, isLast]
    unfold infinityFields unitsOf
    rw [isLast]
    simp only [hiddenBit]
    omega
  · have unitsAbove := le_unitsOf positive (by omega)
    have fieldsAbove :
        infinityFields ≤
          (lastPlace magnitude + 1074).toNat * hiddenBit + unitsOf magnitude := by
      unfold infinityFields
      simp only [hiddenBit] at *
      omega
    have magnitudeAbove :
        ((2 * hiddenBit : Nat) - 1 / 2) * (2 : Rat) ^ (971 : Int) ≤ magnitude := by
      have leMagnitude :=
        (le_div_iff₀ unitPositive).mp (isAbove (by omega))
      have leUnit :
          2 * (2 : Rat) ^ (971 : Int) ≤ (2 : Rat) ^ lastPlace magnitude := by
        rw [← zpow_one_add₀ (by norm_num)]
        exact zpow_le_zpow_right₀ (by norm_num) (by omega)
      generalize (2 : Rat) ^ (971 : Int) = large at largestPositive leUnit ⊢
      push_cast at leMagnitude ⊢
      linarith
    exact ⟨fun _ => magnitudeAbove, fun _ => fieldsAbove⟩

theorem ofRat_of_pos (positive : 0 < magnitude) :
    ofRat negative magnitude =
      ofFields negative
        (min ((lastPlace magnitude + 1074).toNat * hiddenBit +
          unitsOf magnitude) infinityFields) := by
  unfold ofRat
  rw [if_neg (not_le.mpr positive)]
  rfl

/-- Below the threshold a number is rounded to a multiple of the unit of its
last place. -/
theorem exists_meaning_of_lt
    (negative : Bool) (positive : 0 < magnitude) (isBelow : magnitude < overflowThreshold) :
    ∃ significand exponent,
      (ofRat negative magnitude).meaning =
        .finite negative significand exponent ∧
      scaled significand exponent =
        scaled (unitsOf magnitude) (lastPlace magnitude) := by
  have atLeast := lastPlace_ge magnitude
  have place :
      (((lastPlace magnitude + 1074).toNat : Nat) : Int) - 1074 =
        lastPlace magnitude := by
    omega
  have fieldsBelow :
      (lastPlace magnitude + 1074).toNat * hiddenBit + unitsOf magnitude <
        infinityFields := by
    rw [← Nat.not_le, infinityFields_le_iff positive]
    exact not_le.mpr isBelow
  have isNormal :
      (lastPlace magnitude + 1074).toNat = 0 ∨
        hiddenBit ≤ unitsOf magnitude := by
    by_cases isFirst : lastPlace magnitude ≤ -1074
    · left
      omega
    · exact .inr (le_unitsOf positive (not_le.mp isFirst))
  have found := exists_meaning_of_fields negative
    (unitsOf_le positive) isNormal fieldsBelow
  rw [place] at found
  rw [ofRat_of_pos positive, Nat.min_eq_left fieldsBelow.le]
  exact found

theorem meaning_ofRat_zero :
    (ofRat negative 0).meaning = .finite negative 0 (-1074) := by
  have isZero : ofRat negative 0 = ofFields negative 0 := if_pos le_rfl
  rw [isZero]
  exact meaning_ofFields (by decide)

theorem meaning_of_overflow
    (positive : 0 < magnitude) (isAbove : overflowThreshold ≤ magnitude) :
    (ofRat negative magnitude).meaning = .infinite negative := by
  have fieldsAbove := (infinityFields_le_iff positive).mpr isAbove
  rw [ofRat_of_pos positive, Nat.min_eq_right fieldsAbove]
  cases negative <;> decide +kernel

/-- The relative error of a number that is not subnormal. -/
theorem scaled_unitsOf_near_of_normal
    (positive : 0 < magnitude) (isNormal : -1074 < lastPlace magnitude) :
    |scaled (unitsOf magnitude) (lastPlace magnitude) - magnitude| ≤
      magnitude / (2 * hiddenBit : Nat) := by
  have near := scaled_unitsOf_near positive
  have unitPositive : (0 : Rat) < 2 ^ lastPlace magnitude :=
    zpow_pos (by norm_num) _
  have isAbove := (quotient_bounds positive).2.2 isNormal
  rw [le_div_iff₀ unitPositive] at isAbove
  refine near.trans ?_
  rw [le_div_iff₀ (by norm_num)]
  push_cast at isAbove ⊢
  linarith

/-- A multiple of the least positive number is not rounded among the subnormal
numbers. -/
theorem scaled_unitsOf_of_subnormal
    {count : Nat} (isMultiple : magnitude = scaled count (-1074))
    (isSubnormal : lastPlace magnitude = -1074) :
    scaled (unitsOf magnitude) (lastPlace magnitude) = magnitude := by
  have unitPositive : (0 : Rat) < 2 ^ (-1074 : Int) :=
    zpow_pos (by norm_num) _
  have quotient : magnitude / (2 : Rat) ^ (-1074 : Int) = count := by
    rw [isMultiple]
    exact mul_div_cancel_right₀ _ unitPositive.ne'
  have isCount : unitsOf magnitude = count := by
    unfold unitsOf
    rw [isSubnormal, quotient, roundHalfEven_natCast]
  rw [isCount, isSubnormal, isMultiple]

end Rounding

/-! ## One hundred times a number -/

section TimesHundred

variable {x : Binary64} {negative : Bool} {significand : Nat} {exponent : Int}

theorem timesHundred_of_finite
    (isFinite : x.meaning = .finite negative significand exponent) :
    x.timesHundred =
      ofRat negative (scaled significand exponent * 100) := by
  unfold timesHundred
  rw [isFinite]

theorem exponent_ge
    (isFinite : x.meaning = .finite negative significand exponent) :
    -1074 ≤ exponent := by
  unfold meaning at isFinite
  split at isFinite
  · split at isFinite <;> cases isFinite
  · split at isFinite
    · cases isFinite
      exact le_rfl
    · cases isFinite
      omega

theorem hundred_is_multiple
    (isFinite : x.meaning = .finite negative significand exponent) :
    ∃ count, scaled significand exponent * 100 = scaled count (-1074) := by
  have atLeast := exponent_ge isFinite
  obtain ⟨shift, isShift⟩ :=
    Int.eq_ofNat_of_zero_le (by omega : 0 ≤ exponent + 1074)
  refine ⟨significand * 100 * 2 ^ shift, ?_⟩
  have place : exponent = shift + -1074 := by
    omega
  unfold scaled
  rw [place, zpow_add₀ (by norm_num), zpow_natCast]
  generalize (2 : Rat) ^ (-1074 : Int) = unit
  push_cast
  ring

/-- The product is rounded once, and not at all among the subnormal numbers. -/
theorem timesHundred_near
    (isFinite : x.meaning = .finite negative significand exponent)
    (isBelow : scaled significand exponent * 100 < overflowThreshold) :
    ∃ product place,
      x.timesHundred.meaning = .finite negative product place ∧
      |scaled product place - scaled significand exponent * 100| ≤
        scaled significand exponent * 100 / (2 * hiddenBit : Nat) := by
  obtain ⟨count, isMultiple⟩ := hundred_is_multiple isFinite
  have notNegative : 0 ≤ scaled significand exponent * 100 := by
    unfold scaled
    positivity
  rw [timesHundred_of_finite isFinite]
  generalize scaled significand exponent * 100 = magnitude at *
  rcases notNegative.eq_or_lt with isZero | positive
  · subst isZero
    refine ⟨0, -1074, meaning_ofRat_zero, ?_⟩
    simp [scaled]
  · obtain ⟨product, place, isMeaning, isValue⟩ :=
      exists_meaning_of_lt negative positive isBelow
    refine ⟨product, place, isMeaning, ?_⟩
    rw [isValue]
    by_cases isNormal : -1074 < lastPlace magnitude
    · exact scaled_unitsOf_near_of_normal positive isNormal
    · have isSubnormal : lastPlace magnitude = -1074 :=
        le_antisymm (not_lt.mp isNormal) (lastPlace_ge magnitude)
      rw [scaled_unitsOf_of_subnormal isMultiple isSubnormal, sub_self,
        abs_zero]
      positivity

theorem timesHundred_of_overflow
    (isFinite : x.meaning = .finite negative significand exponent)
    (isAbove : overflowThreshold ≤ scaled significand exponent * 100) :
    x.timesHundred.meaning = .infinite negative := by
  have thresholdPositive : 0 < overflowThreshold := by
    rw [overflowThreshold_eq]
    have largePositive : (0 : Rat) < 2 ^ (971 : Int) :=
      zpow_pos (by norm_num) _
    exact mul_pos (by norm_num) largePositive
  rw [timesHundred_of_finite isFinite]
  exact meaning_of_overflow (thresholdPositive.trans_le isAbove) isAbove

end TimesHundred

end Binary64

end Phrasebook
