import Mathlib.Data.Int.Log
import Phrasebook.Proofs.DigitStrings

/-!
# Significant digits

What the first digits of a number are as a number: its nearest multiple of the
unit of the last of them. Taking digits of a number settles ties to the even
digit and rounding a digit string settles them upwards, and in both cases there
is no zero in front afterwards, so that the place of the leading digit is the
logarithm of the number.
-/

namespace Phrasebook

/-! ## Rounding to digits -/

/-- The multiple of a unit nearest to a number, the even one of two. -/
def nearestEvenMultiple (unit q : Rat) : Rat :=
  let upper := ⌊q / unit + 1 / 2⌋
  (if q / unit + 1 / 2 = upper ∧ upper % 2 = 1 then upper - 1 else upper : Int) *
    unit

/-- The unit of the last of `count` significant digits of a number. -/
def lastUnit (count : Nat) (q : Rat) : Rat :=
  (10 : Rat) ^ (Int.log 10 q + 1 - count)

/-- The decimal of `count` significant digits nearest to a number, the even one
of two. -/
def significantDecimal (count : Nat) (q : Rat) : Rat :=
  nearestEvenMultiple (lastUnit count q) q

/-- The decimal of `count` significant digits nearest to a number, the upper one
of two. -/
def roundedDecimal (count : Nat) (q : Rat) : Rat :=
  nearestMultiple (lastUnit count q) q

section Units

variable {count : Nat} {q : Rat}

theorem lastUnit_pos (count : Nat) (q : Rat) : 0 < lastUnit count q :=
  zpow_pos (by norm_num) _

theorem lastUnit_le (someDigits : 0 < count) (positive : 0 < q) :
    lastUnit count q ≤ q := by
  have leading : ((10 : Nat) : Rat) ^ Int.log 10 q ≤ q :=
    Int.zpow_log_le_self (by decide) positive
  push_cast at leading
  refine le_trans ?_ leading
  exact zpow_le_zpow_right₀ (by norm_num) (by omega)

theorem roundedDecimal_zero (count : Nat) : roundedDecimal count 0 = 0 :=
  nearestMultiple_zero (lastUnit_pos count 0)

theorem roundedDecimal_pos (someDigits : 0 < count) (positive : 0 < q) :
    0 < roundedDecimal count q := by
  have near := nearestMultiple_near (q := q) (lastUnit_pos count q)
  have unitLe := lastUnit_le someDigits positive
  unfold roundedDecimal
  rw [abs_le] at near
  linarith

end Units

/-- What lies between two multiples goes to the one that its distance from the
lower one tells, and from the middle to the even one. -/
theorem nearestEvenMultiple_between
    {unit : Rat} (positive : 0 < unit) (n : Nat) {rest : Rat}
    (notNegative : 0 ≤ rest) (isBelow : rest < 1) :
    nearestEvenMultiple unit ((n + rest) * unit) =
      (if rest < 1 / 2 ∨ rest = 1 / 2 ∧ n % 2 = 0 then n else n + 1 : Nat) *
        unit := by
  unfold nearestEvenMultiple
  dsimp only
  rw [mul_div_cancel_right₀ _ positive.ne']
  congr 1
  by_cases isSmall : rest < 1 / 2
  · have isFloor : ⌊(n : Rat) + rest + 1 / 2⌋ = (n : Int) := by
      rw [Int.floor_eq_iff]
      push_cast
      constructor <;> linarith
    have notTie : ¬ (n : Rat) + rest + 1 / 2 = ((n : Int) : Rat) := by
      intro isTie
      push_cast at isTie
      linarith
    rw [isFloor, if_neg (fun tie => notTie tie.1), if_pos (.inl isSmall)]
    push_cast
    rfl
  · have isFloor : ⌊(n : Rat) + rest + 1 / 2⌋ = (n : Int) + 1 := by
      rw [Int.floor_eq_iff]
      push_cast
      constructor <;> linarith
    have isTie :
        (n : Rat) + rest + 1 / 2 = (((n : Int) + 1 : Int) : Rat) ↔
          rest = 1 / 2 := by
      push_cast
      constructor <;> intro isEqual <;> linarith
    have isOdd : ((n : Int) + 1) % 2 = 1 ↔ n % 2 = 0 := by
      omega
    simp only [isFloor, isTie, isOdd, isSmall, false_or]
    split <;> push_cast <;> ring

theorem nearestEvenMultiple_eq
    {unit q : Rat} (positive : 0 < unit) (notNegative : 0 ≤ q) :
    nearestEvenMultiple unit q = roundHalfEven (q / unit) * unit := by
  obtain ⟨below, above⟩ :=
    floor_toNat_bounds (div_nonneg notNegative positive.le)
  have between := nearestEvenMultiple_between positive
    (q / unit).floor.toNat (sub_nonneg.mpr below) (by linarith)
  rw [add_sub_cancel, div_mul_cancel₀ _ positive.ne'] at between
  exact between

/-! ## The leading place -/

theorem log_eq_of_bounds
    {q : Rat} {place : Int} (lower : (10 : Rat) ^ place ≤ q)
    (upper : q < (10 : Rat) ^ (place + 1)) :
    Int.log 10 q = place := by
  have positive : 0 < q :=
    (zpow_pos (by norm_num) place).trans_le lower
  have placeLe := (Int.zpow_le_iff_le_log (b := 10) (by decide) positive).mp
    (by exact_mod_cast lower)
  have ltPlace := (Int.lt_zpow_iff_log_lt (b := 10) (by decide) positive).mp
    (by exact_mod_cast upper)
  omega

theorem leadingExponent_eq_log {q : Rat} (positive : 0 < q) :
    leadingExponent 10 q = Int.log 10 q := by
  have bounds := leadingExponent_bounds 10 (by decide) positive
  push_cast at bounds
  exact (log_eq_of_bounds bounds.1 bounds.2).symm

theorem pow_le_ofDigits_iff
    {first : Nat} {rest : List Nat} (areDigits : ∀ digit ∈ rest, digit < 10) :
    10 ^ rest.length ≤ ofDigits 10 (first :: rest) ↔ first ≠ 0 := by
  have below := ofDigits_lt areDigits
  rw [ofDigits_cons]
  constructor
  · rintro isAbove rfl
    omega
  · intro notZero
    have isAbove : 1 * 10 ^ rest.length ≤ first * 10 ^ rest.length :=
      Nat.mul_le_mul_right _ (Nat.one_le_iff_ne_zero.mpr notZero)
    omega

/-! ## Finite numbers -/

theorem scaled_nonneg (significand : Nat) (exponent : Int) :
    0 ≤ Binary64.scaled significand exponent := by
  unfold Binary64.scaled
  positivity

/-- A finite number is its magnitude behind its sign. -/
theorem Binary64.exists_meaning
    {x : Binary64} {value : Rat} (isFinite : x.finiteValue? = some value) :
    ∃ negative significand exponent,
      x.meaning = .finite negative significand exponent ∧
      value = (if negative then -scaled significand exponent
        else scaled significand exponent) := by
  unfold finiteValue? at isFinite
  split at isFinite
  · rename_i negative significand exponent isMeaning
    cases isFinite
    exact ⟨negative, significand, exponent, isMeaning, rfl⟩
  · cases isFinite

namespace DigitString

variable {string : DigitString}

/-- Decimal digits without a zero in front, unless all of them are zero. -/
structure Normal (string : DigitString) : Prop where
  proper : string.Proper
  leading : string.isZero = false → string.digits.head? ≠ some 0

/-- The first digit and the others of a number that is not zero. -/
theorem Normal.exists_cons
    (normal : string.Normal) (notZero : string.isZero = false) :
    ∃ first rest, string.digits = first :: rest ∧ first ≠ 0 ∧
      ∀ digit ∈ rest, digit < 10 := by
  have leading := normal.leading notZero
  have proper := normal.proper
  unfold Proper at proper
  unfold isZero at notZero
  cases isDigits : string.digits with
  | nil =>
      rw [isDigits] at notZero
      cases notZero
  | cons first rest =>
      rw [isDigits] at leading proper
      refine ⟨first, rest, rfl, ?_, (List.forall_mem_cons.mp proper).2⟩
      rintro rfl
      exact leading rfl

theorem Normal.le_value
    (normal : string.Normal) (notZero : string.isZero = false) :
    (10 : Rat) ^ (string.point - 1) ≤ string.value := by
  obtain ⟨first, rest, isDigits, firstNotZero, areDigits⟩ :=
    normal.exists_cons notZero
  have natLe := (pow_le_ofDigits_iff areDigits).mpr firstNotZero
  have ratLe :
      (10 : Rat) ^ rest.length ≤ ofDigits 10 (first :: rest) := by
    exact_mod_cast natLe
  have place :
      string.point - 1 =
        rest.length + (string.point - ((first :: rest).length : Int)) := by
    rw [List.length_cons]
    push_cast
    ring
  unfold value
  rw [isDigits, place, zpow_add₀ (by norm_num), zpow_natCast]
  exact mul_le_mul_of_nonneg_right ratLe (zpow_pos (by norm_num) _).le

theorem Normal.isZero_iff (normal : string.Normal) :
    string.isZero ↔ string.value = 0 := by
  constructor
  · exact value_of_isZero
  · intro valueZero
    by_contra notZero
    have isBelow := normal.le_value (Bool.eq_false_iff.mpr notZero)
    have isPositive : (0 : Rat) < 10 ^ (string.point - 1) :=
      zpow_pos (by norm_num) _
    linarith

theorem Normal.exponent_eq_log (normal : string.Normal) :
    string.exponent = Int.log 10 string.value := by
  unfold exponent
  by_cases isZero : string.isZero
  · rw [if_pos isZero, value_of_isZero isZero, Int.log_zero_right]
  · have lower := normal.le_value (Bool.eq_false_iff.mpr isZero)
    have upper := (value_bounds normal.proper).2
    rw [if_neg isZero]
    refine (log_eq_of_bounds lower ?_).symm
    rwa [Int.sub_add_cancel]

/-! ## Digits that are taken -/

/-- The quotient has no fewer than `count` digits before the point. -/
theorem le_coefficient
    {count : Nat} (someDigits : 0 < count) {q : Rat} (positive : 0 < q) :
    10 ^ (count - 1) ≤
      roundHalfEven (q / (10 : Rat) ^ (leadingExponent 10 q + 1 - count)) := by
  have unitPositive :
      (0 : Rat) < 10 ^ (leadingExponent 10 q + 1 - (count : Int)) :=
    zpow_pos (by norm_num) _
  refine le_roundHalfEven (div_pos positive unitPositive).le ?_
  have bounds := leadingExponent_bounds 10 (by decide) positive
  have place :
      ((count - 1 : Nat) : Int) + (leadingExponent 10 q + 1 - count) =
        leadingExponent 10 q := by
    omega
  rw [le_div_iff₀ unitPositive]
  push_cast
  rw [← zpow_natCast, ← zpow_add₀ (by norm_num), place]
  exact_mod_cast bounds.1

theorem normal_ofRat (count : Nat) (q : Rat) : (ofRat count q).Normal where
  proper := proper_ofRat
  leading := by
    intro notZero
    unfold ofRat at notZero ⊢
    by_cases isPositive : q ≤ 0
    · rw [if_pos isPositive] at notZero
      simp [isZero] at notZero
    · have positive := not_le.mp isPositive
      rw [if_neg isPositive]
      dsimp only
      split
      · rename_i fits
        have someDigits : 0 < count :=
          (digitCount_pos _ _).trans_le fits
        have isAbove := le_coefficient someDigits positive
        generalize roundHalfEven _ = coefficient at fits isAbove ⊢
        have isBelow : coefficient < 10 ^ count :=
          (lt_pow_digitCount (by decide) coefficient).trans_le
            (Nat.pow_le_pow_right (by decide) fits)
        have isNumber : ofDigits 10 (digitsOf 10 count coefficient) = coefficient := by
          rw [ofDigits_digitsOf, Nat.mod_eq_of_lt isBelow]
        have isLength := length_digitsOf 10 count coefficient
        have areDigits : ∀ digit ∈ digitsOf 10 count coefficient, digit < 10 :=
          digitsOf_lt (by decide)
        cases isDigits : digitsOf 10 count coefficient with
        | nil =>
            simp
        | cons first rest =>
            rw [isDigits] at isNumber isLength areDigits
            have restLength : rest.length = count - 1 := by
              rw [← isLength]
              rfl
            rw [← restLength, ← isNumber] at isAbove
            have notZero := (pow_le_ofDigits_iff
              (List.forall_mem_cons.mp areDigits).2).mp isAbove
            simpa using notZero
      · simp

theorem value_ofRat_eq
    {count : Nat} (someDigits : 0 < count) {q : Rat} (notNegative : 0 ≤ q) :
    (ofRat count q).value = significantDecimal count q := by
  unfold significantDecimal
  rw [nearestEvenMultiple_eq (lastUnit_pos count q) notNegative]
  unfold lastUnit
  rcases notNegative.eq_or_lt with isZero | positive
  · subst isZero
    have allZero : (ofRat count 0).isZero := by
      simp [ofRat, DigitString.isZero]
    have none := roundHalfEven_natCast 0
    rw [Nat.cast_zero] at none
    rw [value_of_isZero allZero, zero_div, none, Nat.cast_zero, zero_mul]
  · rw [value_ofRat someDigits positive, leadingExponent_eq_log positive]

theorem value_ofRat_pos
    {count : Nat} (someDigits : 0 < count) {q : Rat} (positive : 0 < q) :
    0 < (ofRat count q).value := by
  have isAbove := le_coefficient someDigits positive
  have counted := (Nat.pow_pos (n := count - 1) (by decide : 0 < 10)).trans_le isAbove
  rw [value_ofRat someDigits positive]
  exact mul_pos (by exact_mod_cast counted) (zpow_pos (by norm_num) _)

/-! ## Digits that are kept -/

theorem increment_leading
    {digits next : List Nat} (leading : digits.head? ≠ some 0)
    (within : increment digits = (false, next)) :
    next.head? ≠ some 0 := by
  cases digits with
  | nil =>
      cases within
  | cons digit rest =>
      unfold increment at within
      split at within
      · cases within
        exact leading
      · split at within
        · cases within
        · cases within
          simp

theorem Normal.leading_of_mem
    (normal : string.Normal) {digit : Nat} (isMember : digit ∈ string.digits)
    (notZero : digit ≠ 0) :
    string.digits.head? ≠ some 0 := by
  refine normal.leading (Bool.eq_false_iff.mpr ?_)
  intro allZero
  have isZero := List.all_eq_true.mp allZero digit isMember
  exact notZero (by simpa using isZero)

/-- What is left of digits begins with the first of them. -/
theorem head?_take_ne
    {digits : List Nat} (leading : digits.head? ≠ some 0) (count : Nat) :
    (digits.take count).head? ≠ some 0 := by
  rw [List.head?_take]
  split
  · exact nofun
  · exact leading

theorem normal_roundAt (normal : string.Normal) (keep : Int) :
    (string.roundAt keep).Normal where
  proper := proper_roundAt normal.proper keep
  leading := by
    by_cases isBefore : keep < 0
    · rw [string.roundAt_before isBefore]
      exact nofun
    · obtain ⟨count, isNat⟩ := Int.eq_ofNat_of_zero_le (not_lt.mp isBefore)
      subst isNat
      cases found : string.digits[count]? with
      | none =>
          rw [roundAt_behind found]
          exact normal.leading
      | some next =>
          rcases roundAt_inside found with
            ⟨_, rounded⟩ | ⟨isLarge, digits, within, rounded⟩ |
              ⟨_, digits, carried, rounded⟩
          · rw [rounded]
            intro notZero
            obtain ⟨digit, isMember, digitNotZero⟩ :=
              List.all_eq_false.mp notZero
            have leading := normal.leading_of_mem
              (List.mem_of_mem_take isMember) (by simpa using digitNotZero)
            exact head?_take_ne leading count
          · rw [rounded]
            intro _
            have leading := normal.leading_of_mem
              (List.mem_of_getElem? found) (by omega)
            exact increment_leading (head?_take_ne leading count) within
          · rw [rounded]
            intro _
            exact nofun

theorem digitAt_of_le
    {index : Int} (isBehind : (string.digits.length : Int) ≤ index) :
    string.digitAt index = 0 := by
  unfold digitAt
  rw [if_neg (by omega), List.getD_eq_getElem?_getD,
    List.getElem?_eq_none (by omega), Option.getD_none]

/-- Only zeros are left behind the digits that are kept. A carry out of the
leading digit makes one digit more, which is a zero. -/
theorem digitAt_roundAt
    {count : Nat} (someDigits : 0 < count) {index : Int}
    (isBehind : (count : Int) ≤ index) :
    (string.roundAt count).digitAt index = 0 := by
  cases found : string.digits[count]? with
  | none =>
      have lengthLe := List.getElem?_eq_none_iff.mp found
      rw [roundAt_behind found]
      exact digitAt_of_le (by omega)
  | some next =>
      obtain ⟨rest, _, keptLength⟩ := exists_split found
      rcases roundAt_inside found with
        ⟨_, rounded⟩ | ⟨_, digits, within, rounded⟩ |
          ⟨_, digits, carried, rounded⟩
      · rw [rounded]
        refine digitAt_of_le ?_
        rwa [keptLength]
      · rw [rounded]
        refine digitAt_of_le ?_
        rwa [(increment_within within).1, keptLength]
      · rw [rounded, (increment_carry carried).1]
        obtain ⟨place, isPlace⟩ : ∃ place : Nat, index = (place + 1 : Nat) :=
          ⟨(index - 1).toNat, by omega⟩
        unfold digitAt
        rw [isPlace, if_neg (by omega), Int.toNat_natCast,
          List.getD_cons_succ, List.getD_eq_getElem?_getD]
        cases isZero : (List.replicate _ 0)[place]? with
        | none =>
            rfl
        | some digit =>
            have isMember := List.mem_of_getElem? isZero
            exact List.eq_of_mem_replicate isMember

/-- Only zeros are left behind the place of rounding. -/
theorem digitAt_roundAt_place
    (string : DigitString) (count : Nat) {index : Int}
    (isBehind :
      (string.roundAt (string.point + count)).point + count ≤ index) :
    (string.roundAt (string.point + count)).digitAt index = 0 := by
  rcases string.roundAt_fits (string.point + count) with isZero | fits
  · exact digitAt_of_isZero isZero index
  · exact digitAt_of_le (by omega)

theorem Normal.digitAt_zero (normal : string.Normal) :
    string.digitAt 0 = 0 ↔ string.value = 0 := by
  rw [← normal.isZero_iff]
  constructor
  · intro isFirst
    by_contra notZero
    obtain ⟨first, rest, isDigits, firstNotZero, _⟩ :=
      normal.exists_cons (Bool.eq_false_iff.mpr notZero)
    unfold digitAt at isFirst
    rw [if_neg (by omega), isDigits] at isFirst
    exact firstNotZero isFirst
  · intro isZero
    exact digitAt_of_isZero isZero 0

/-- Rounding to a number of digits, whatever the place of the first one. -/
theorem Normal.value_roundAt (normal : string.Normal) (count : Nat) :
    (string.roundAt count).value = roundedDecimal count string.value := by
  rw [DigitString.value_roundAt normal.proper]
  unfold roundedDecimal
  by_cases isZero : string.isZero
  · rw [value_of_isZero isZero, nearestMultiple_zero (zpow_pos (by norm_num) _),
      nearestMultiple_zero (lastUnit_pos count 0)]
  · have place := normal.exponent_eq_log
    unfold exponent at place
    rw [if_neg isZero] at place
    unfold lastUnit
    rw [← place, Int.sub_add_cancel]

/-! ## The digits of a number -/

open Binary64

section Numbers

variable {x : Binary64} {value : Rat}

theorem ofNumber_of_finite
    {negative : Bool} {significand : Nat} {exponent : Int}
    (isFinite : x.meaning = .finite negative significand exponent) :
    ofNumber x = ofRat 15 (scaled significand exponent) := by
  unfold ofNumber
  rw [isFinite]

theorem ofNumber_eq_ofRat (isFinite : x.finiteValue? = some value) :
    ofNumber x = ofRat 15 |value| := by
  obtain ⟨negative, significand, exponent, isMeaning, rfl⟩ :=
    exists_meaning isFinite
  have notNegative := scaled_nonneg significand exponent
  rw [ofNumber_of_finite isMeaning]
  cases negative <;> simp [abs_of_nonneg notNegative]

theorem normal_ofNumber (x : Binary64) : (ofNumber x).Normal := by
  unfold ofNumber
  split
  · exact normal_ofRat _ _
  · exact ⟨List.forall_mem_nil _, nofun⟩

theorem value_ofNumber (isFinite : x.finiteValue? = some value) :
    (ofNumber x).value = significantDecimal 15 |value| := by
  rw [ofNumber_eq_ofRat isFinite]
  exact value_ofRat_eq (by decide) (abs_nonneg value)

end Numbers

end DigitString

/-! ## Numbers that are not zero -/

theorem significantDecimal_pos
    {count : Nat} (someDigits : 0 < count) {q : Rat} (positive : 0 < q) :
    0 < significantDecimal count q := by
  rw [← DigitString.value_ofRat_eq someDigits positive.le]
  exact DigitString.value_ofRat_pos someDigits positive

/-- Nothing but zero is rounded to zero. -/
theorem roundedDecimal_eq_zero_iff
    {count : Nat} (someDigits : 0 < count) {value : Rat} :
    roundedDecimal count (significantDecimal 15 |value|) = 0 ↔ value = 0 := by
  constructor
  · intro isZero
    by_contra notZero
    have digitsPositive :=
      significantDecimal_pos (by decide : 0 < 15) (abs_pos.mpr notZero)
    have positive := roundedDecimal_pos someDigits digitsPositive
    exact positive.ne' isZero
  · rintro rfl
    have noDigits : significantDecimal 15 |(0 : Rat)| = 0 := by
      decide +kernel
    rw [noDigits, roundedDecimal_zero]

end Phrasebook
