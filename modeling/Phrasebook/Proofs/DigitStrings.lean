import Phrasebook.Number.DigitString
import Phrasebook.Proofs.Numerals
import Phrasebook.Proofs.Positional

/-!
# Digit strings and their numbers

Each operation on digit strings in terms of the numbers that they denote:
taking significant digits rounds to a multiple of their unit, rounding at a
place goes to the nearest multiple of its unit, and the text denotes the number
again.
-/

namespace Phrasebook

/-! ## Multiples of a unit -/

/-- The multiple of a unit nearest to a number, the upper one of two. -/
def nearestMultiple (unit q : Rat) : Rat :=
  ⌊q / unit + 1 / 2⌋ * unit

section Multiples

variable {unit q : Rat}

theorem nearestMultiple_near (positive : 0 < unit) :
    |nearestMultiple unit q - q| ≤ unit / 2 := by
  have below := Int.floor_le (q / unit + 1 / 2)
  have above := Int.lt_floor_add_one (q / unit + 1 / 2)
  have isQuotient : q = q / unit * unit :=
    (div_mul_cancel₀ q positive.ne').symm
  have difference :
      nearestMultiple unit q - q =
        (⌊q / unit + 1 / 2⌋ - q / unit) * unit := by
    unfold nearestMultiple
    rw [sub_mul, ← isQuotient]
  rw [difference, abs_mul, abs_of_pos positive]
  have near : |(⌊q / unit + 1 / 2⌋ : Rat) - q / unit| ≤ 1 / 2 := by
    rw [abs_le]
    constructor <;> linarith
  calc
    |(⌊q / unit + 1 / 2⌋ : Rat) - q / unit| * unit
        ≤ 1 / 2 * unit := mul_le_mul_of_nonneg_right near positive.le
    _ = unit / 2 := by ring

/-- What lies between two multiples goes to the one that its distance from the
lower one tells. -/
theorem nearestMultiple_between
    (positive : 0 < unit) (n : Nat) {rest : Rat} (notNegative : 0 ≤ rest)
    (isBelow : rest < 1) :
    nearestMultiple unit ((n + rest) * unit) =
      (if rest < 1 / 2 then n else n + 1 : Nat) * unit := by
  unfold nearestMultiple
  rw [mul_div_cancel_right₀ _ positive.ne']
  congr 1
  have isFloor :
      ⌊(n : Rat) + rest + 1 / 2⌋ =
        ((if rest < 1 / 2 then n else n + 1 : Nat) : Int) := by
    rw [Int.floor_eq_iff]
    split <;> push_cast <;> constructor <;> linarith
  rw [isFloor]
  push_cast
  rfl

theorem nearestMultiple_natCast_mul
    (positive : 0 < unit) (n : Nat) :
    nearestMultiple unit (n * unit) = n * unit := by
  have between :=
    nearestMultiple_between positive n (le_refl (0 : Rat)) one_pos
  simpa using between

theorem nearestMultiple_zero (positive : 0 < unit) :
    nearestMultiple unit 0 = 0 := by
  have kept := nearestMultiple_natCast_mul positive 0
  simpa using kept

end Multiples

namespace DigitString

variable {string : DigitString}

def Proper (string : DigitString) : Prop :=
  ∀ digit ∈ string.digits, digit < 10

theorem value_of_isZero (isZero : string.isZero) : string.value = 0 := by
  have allZero : string.digits = List.replicate string.digits.length 0 := by
    rw [List.eq_replicate_iff]
    refine ⟨rfl, ?_⟩
    simpa [DigitString.isZero] using isZero
  unfold value
  rw [allZero, ofDigits_replicate_zero]
  simp

/-! ## Significant digits -/

/-- The quotient has `count` digits before the point, or is the next power of
ten after rounding. -/
theorem coefficient_le
    (count : Nat) {q : Rat} (positive : 0 < q) :
    roundHalfEven (q / (10 : Rat) ^ (leadingExponent 10 q + 1 - count)) ≤
      10 ^ count := by
  have unitPositive :
      (0 : Rat) < 10 ^ (leadingExponent 10 q + 1 - (count : Int)) :=
    zpow_pos (by norm_num) _
  refine roundHalfEven_le (div_pos positive unitPositive).le ?_
  have bounds := leadingExponent_bounds 10 (by decide) positive
  have place :
      (count : Int) + (leadingExponent 10 q + 1 - count) =
        leadingExponent 10 q + 1 := by
    ring
  rw [div_le_iff₀ unitPositive]
  push_cast
  rw [← zpow_natCast, ← zpow_add₀ (by norm_num), place]
  exact_mod_cast bounds.2.le

/-- The digits make up the coefficient, also when it has one digit more. -/
theorem value_ofRat
    {count : Nat} (someDigits : 0 < count) {q : Rat} (positive : 0 < q) :
    (ofRat count q).value =
      roundHalfEven (q / (10 : Rat) ^ (leadingExponent 10 q + 1 - count)) *
        (10 : Rat) ^ (leadingExponent 10 q + 1 - count) := by
  have coefficientLe := coefficient_le count positive
  unfold ofRat
  rw [if_neg (not_le.mpr positive)]
  dsimp only
  generalize roundHalfEven _ = coefficient at coefficientLe ⊢
  by_cases fits : digitCount 10 coefficient ≤ count
  · rw [if_pos fits]
    have isBelow : coefficient < 10 ^ count :=
      (lt_pow_digitCount (by decide) coefficient).trans_le
        (Nat.pow_le_pow_right (by decide) fits)
    unfold value
    rw [ofDigits_digitsOf, Nat.mod_eq_of_lt isBelow, length_digitsOf]
  · rw [if_neg fits]
    have isPower : coefficient = 10 ^ count := by
      refine le_antisymm coefficientLe (Nat.not_lt.mp ?_)
      intro isBelow
      exact fits (digitCount_le_of_lt (by decide) someDigits isBelow)
    obtain ⟨places, rfl⟩ : ∃ places, count = places + 1 :=
      ⟨count - 1, by omega⟩
    have place :
        leadingExponent 10 q + 2 - ((places + 1 : Nat) : Int) =
          leadingExponent 10 q + 1 - ((places + 1 : Nat) : Int) + 1 := by
      ring
    unfold value
    rw [ofDigits_cons, ofDigits_replicate_zero, List.length_cons,
      List.length_replicate, isPower, Nat.add_sub_cancel, place,
      zpow_add₀ (by norm_num), zpow_one]
    push_cast
    ring

theorem proper_ofRat {count : Nat} {q : Rat} : (ofRat count q).Proper := by
  intro digit isMember
  unfold ofRat at isMember
  split at isMember
  · rw [List.eq_of_mem_replicate isMember]
    decide
  · dsimp only at isMember
    split at isMember
    · exact digitsOf_lt (by decide) digit isMember
    · rcases List.mem_cons.mp isMember with isOne | isRest
      · rw [isOne]
        decide
      · rw [List.eq_of_mem_replicate isRest]
        decide

/-- Fewer digits cost a half of the last place, which is small for a number with
its first digit so far in front. -/
theorem value_ofRat_near
    (count : Nat) (someDigits : 0 < count) {q : Rat} (notNegative : 0 ≤ q) :
    |(ofRat count q).value - q| ≤ 1 / 2 * (10 : Rat) ^ (1 - count : Int) * q := by
  rcases notNegative.eq_or_lt with isZero | positive
  · subst isZero
    have allZero : (ofRat count 0).isZero := by
      simp [ofRat, isZero]
    rw [value_of_isZero allZero]
    simp
  · have bounds := leadingExponent_bounds 10 (by decide) positive
    have unitPositive :
        (0 : Rat) < 10 ^ (leadingExponent 10 q + 1 - (count : Int)) :=
      zpow_pos (by norm_num) _
    rw [value_ofRat someDigits positive]
    have near :=
      roundHalfEven_near (div_pos positive unitPositive).le
    have unitLe :
        (10 : Rat) ^ (leadingExponent 10 q + 1 - (count : Int)) ≤
          (10 : Rat) ^ (1 - count : Int) * q := by
      have place :
          leadingExponent 10 q + 1 - (count : Int) =
            (1 - count : Int) + leadingExponent 10 q := by
        ring
      rw [place, zpow_add₀ (by norm_num)]
      exact mul_le_mul_of_nonneg_left (by exact_mod_cast bounds.1)
        (zpow_pos (by norm_num) _).le
    generalize (10 : Rat) ^ (leadingExponent 10 q + 1 - (count : Int)) = unit
      at near unitPositive unitLe ⊢
    generalize roundHalfEven (q / unit) = coefficient at near ⊢
    have difference :
        (coefficient : Rat) * unit - q = (coefficient - q / unit) * unit := by
      rw [sub_mul, div_mul_cancel₀ _ unitPositive.ne']
    rw [difference, abs_mul, abs_of_pos unitPositive]
    calc
      |(coefficient : Rat) - q / unit| * unit
          ≤ 1 / 2 * unit := mul_le_mul_of_nonneg_right near unitPositive.le
      _ ≤ 1 / 2 * ((10 : Rat) ^ (1 - count : Int) * q) :=
          mul_le_mul_of_nonneg_left unitLe (by norm_num)
      _ = 1 / 2 * (10 : Rat) ^ (1 - count : Int) * q := by ring

/-! ## Rounding -/

section Increment

variable {digits next : List Nat}

/-- A carry leaves zeros, and the digits were all nines. -/
theorem increment_carry
    (carried : increment digits = (true, next)) :
    next = List.replicate digits.length 0 ∧
      ofDigits 10 digits + 1 = 10 ^ digits.length := by
  induction digits generalizing next with
  | nil =>
      cases carried
      exact ⟨rfl, rfl⟩
  | cons digit rest inductionHypothesis =>
      unfold increment at carried
      split at carried
      · cases carried
      · rename_i incremented restCarried
        obtain ⟨isZeros, isPower⟩ := inductionHypothesis restCarried
        by_cases isNine : digit = 9
        · rw [if_pos isNine] at carried
          cases carried
          refine ⟨congrArg (0 :: ·) isZeros, ?_⟩
          rw [ofDigits_cons, isNine, Nat.add_assoc, isPower, List.length_cons,
            Nat.pow_succ]
          ring
        · rw [if_neg isNine] at carried
          cases carried

/-- Without a carry the digits stand for one more. -/
theorem increment_within
    (within : increment digits = (false, next)) :
    next.length = digits.length ∧
      ofDigits 10 next = ofDigits 10 digits + 1 := by
  induction digits generalizing next with
  | nil =>
      cases within
  | cons digit rest inductionHypothesis =>
      unfold increment at within
      split at within
      · rename_i incremented restWithin
        cases within
        obtain ⟨sameLength, isNext⟩ := inductionHypothesis restWithin
        refine ⟨congrArg Nat.succ sameLength, ?_⟩
        rw [ofDigits_cons, ofDigits_cons, sameLength, isNext, Nat.add_assoc]
      · rename_i incremented restCarried
        obtain ⟨isZeros, isPower⟩ := increment_carry restCarried
        by_cases isNine : digit = 9
        · rw [if_pos isNine] at within
          cases within
        · rw [if_neg isNine] at within
          cases within
          have sameLength : incremented.length = rest.length := by
            rw [isZeros, List.length_replicate]
          refine ⟨congrArg Nat.succ sameLength, ?_⟩
          rw [ofDigits_cons, ofDigits_cons, sameLength, isZeros,
            ofDigits_replicate_zero, Nat.add_assoc, isPower]
          ring

theorem increment_lt
    {carries : Bool} (areDigits : ∀ digit ∈ digits, digit < 10)
    (incremented : increment digits = (carries, next)) :
    ∀ digit ∈ next, digit < 10 := by
  induction digits generalizing carries next with
  | nil =>
      cases incremented
      exact List.forall_mem_nil _
  | cons digit rest inductionHypothesis =>
      rw [List.forall_mem_cons] at areDigits
      unfold increment at incremented
      split at incremented
      · rename_i following restWithin
        cases incremented
        have small := inductionHypothesis areDigits.2 restWithin
        exact List.forall_mem_cons.mpr ⟨areDigits.1, small⟩
      · rename_i following restCarried
        have small := inductionHypothesis areDigits.2 restCarried
        by_cases isNine : digit = 9
        · rw [if_pos isNine] at incremented
          cases incremented
          exact List.forall_mem_cons.mpr ⟨by decide, small⟩
        · rw [if_neg isNine] at incremented
          cases incremented
          exact List.forall_mem_cons.mpr ⟨by omega, small⟩

end Increment

/-- The part of a number behind its first digits, as a part of their unit. -/
def restOf (next : Nat) (rest : List Nat) : Rat :=
  ((next * 10 ^ rest.length + ofDigits 10 rest : Nat) : Rat) /
    10 ^ (rest.length + 1)

/-- What is cut off is less than one unit of the last digit kept, and less than
half a unit exactly when its first digit is below five. -/
theorem restOf_bounds
    {next : Nat} {rest : List Nat} (isDigit : next < 10)
    (areDigits : ∀ digit ∈ rest, digit < 10) :
    0 ≤ restOf next rest ∧ restOf next rest < 1 ∧
      (restOf next rest < 1 / 2 ↔ next < 5) := by
  have below := ofDigits_lt areDigits
  have powerPositive : (0 : Rat) < 10 ^ (rest.length + 1) := by
    positivity
  unfold restOf
  refine ⟨by positivity, ?_, ?_⟩
  · rw [div_lt_one powerPositive]
    have natBelow :
        next * 10 ^ rest.length + ofDigits 10 rest < 10 ^ (rest.length + 1) := by
      rw [Nat.pow_succ]
      nlinarith
    exact_mod_cast natBelow
  · have halved (n : Nat) :
        (n : Rat) / 10 ^ (rest.length + 1) < 1 / 2 ↔
          n < 5 * 10 ^ rest.length := by
      rw [div_lt_iff₀ powerPositive]
      have half :
          (1 : Rat) / 2 * 10 ^ (rest.length + 1) =
            (5 * 10 ^ rest.length : Nat) := by
        push_cast
        ring
      rw [half, Nat.cast_lt]
    rw [halved]
    constructor
    · intro isLess
      by_contra isLarge
      have larger := Nat.mul_le_mul_right (10 ^ rest.length)
        (Nat.not_lt.mp isLarge)
      omega
    · intro isSmall
      have smaller := Nat.mul_le_mul_right (10 ^ rest.length)
        (Nat.le_of_lt_succ isSmall)
      omega

/-- The number of a digit string, cut behind the digits that are kept. -/
theorem value_split
    {kept rest : List Nat} {next : Nat}
    (split : string.digits = kept ++ next :: rest) :
    string.value =
      (ofDigits 10 kept + restOf next rest) *
        (10 : Rat) ^ (string.point - kept.length) := by
  have place :
      string.point - ((kept ++ next :: rest).length : Int) =
        string.point - kept.length - (rest.length + 1 : Nat) := by
    rw [List.length_append, List.length_cons]
    push_cast
    ring
  unfold value restOf
  rw [split, place, zpow_sub₀ (by norm_num), zpow_natCast, ofDigits_append,
    ofDigits_cons, List.length_cons]
  push_cast
  field_simp

/-- The point bounds the number from above. -/
theorem value_bounds (proper : string.Proper) :
    0 ≤ string.value ∧ string.value < (10 : Rat) ^ string.point := by
  have unitPositive :
      (0 : Rat) < 10 ^ (string.point - (string.digits.length : Int)) :=
    zpow_pos (by norm_num) _
  unfold value
  constructor
  · positivity
  · have below := ofDigits_lt proper
    have ratBelow :
        (ofDigits 10 string.digits : Rat) < 10 ^ string.digits.length := by
      exact_mod_cast below
    calc
      (ofDigits 10 string.digits : Rat) *
            (10 : Rat) ^ (string.point - (string.digits.length : Int))
          < 10 ^ string.digits.length *
            (10 : Rat) ^ (string.point - (string.digits.length : Int)) :=
            mul_lt_mul_of_pos_right ratBelow unitPositive
      _ = (10 : Rat) ^ string.point := by
          rw [← zpow_natCast, ← zpow_add₀ (by norm_num)]
          congr 1
          ring

/-- The digits in front of a place, the digit there, and the digits behind. -/
theorem exists_split
    {count next : Nat} (found : string.digits[count]? = some next) :
    ∃ rest, string.digits = string.digits.take count ++ next :: rest ∧
      (string.digits.take count).length = count := by
  obtain ⟨isInside, isNext⟩ := List.getElem?_eq_some_iff.mp found
  refine ⟨string.digits.drop (count + 1), ?_, ?_⟩
  · rw [← isNext, ← List.drop_eq_getElem_cons isInside,
      List.take_append_drop]
  · rw [List.length_take]
    omega

section RoundAt

variable {keep : Int} {count next : Nat}

theorem roundAt_before (string : DigitString) (isBefore : keep < 0) :
    (string.roundAt keep).isZero := by
  unfold roundAt
  rw [if_pos isBefore]
  simp [isZero]

theorem roundAt_behind (isBehind : string.digits[count]? = none) :
    string.roundAt count = string := by
  unfold roundAt
  rw [if_neg (by omega), Int.toNat_natCast, isBehind]

/-- Inside, the digits that are kept are followed by a one in front of zeros, or
have the number after theirs, or stay. -/
theorem roundAt_inside (found : string.digits[count]? = some next) :
    (next < 5 ∧
      string.roundAt count = ⟨string.digits.take count, string.point⟩) ∨
    (5 ≤ next ∧ ∃ digits,
      increment (string.digits.take count) = (false, digits) ∧
      string.roundAt count = ⟨digits, string.point⟩) ∨
    (5 ≤ next ∧ ∃ digits,
      increment (string.digits.take count) = (true, digits) ∧
      string.roundAt count = ⟨1 :: digits, string.point + 1⟩) := by
  unfold roundAt
  rw [if_neg (by omega), Int.toNat_natCast, found]
  dsimp only
  by_cases isSmall : next < 5
  · rw [if_pos isSmall]
    exact .inl ⟨isSmall, rfl⟩
  · rw [if_neg isSmall]
    have isLarge := Nat.not_lt.mp isSmall
    split
    · rename_i digits within
      exact .inr (.inl ⟨isLarge, digits, within, rfl⟩)
    · rename_i digits carried
      exact .inr (.inr ⟨isLarge, digits, carried, rfl⟩)

end RoundAt

/-- Rounding at a place goes to the nearest multiple of the unit there. -/
theorem value_roundAt
    (proper : string.Proper) (keep : Int) :
    (string.roundAt keep).value =
      nearestMultiple ((10 : Rat) ^ (string.point - keep)) string.value := by
  have unitPositive : (0 : Rat) < 10 ^ (string.point - keep) :=
    zpow_pos (by norm_num) _
  obtain ⟨notNegative, isBelow⟩ := value_bounds proper
  by_cases isBefore : keep < 0
  · rw [value_of_isZero (string.roundAt_before isBefore)]
    have tenth :
        10 * (10 : Rat) ^ string.point ≤ (10 : Rat) ^ (string.point - keep) := by
      rw [← zpow_one_add₀ (by norm_num)]
      exact zpow_le_zpow_right₀ (by norm_num) (by omega)
    have small : string.value / (10 : Rat) ^ (string.point - keep) < 1 / 2 := by
      rw [div_lt_iff₀ unitPositive]
      linarith
    have between := nearestMultiple_between unitPositive 0
      (div_nonneg notNegative unitPositive.le) (by linarith)
    rw [Nat.cast_zero, zero_add, div_mul_cancel₀ _ unitPositive.ne',
      if_pos small, Nat.cast_zero, zero_mul] at between
    exact between.symm
  · obtain ⟨count, isNat⟩ := Int.eq_ofNat_of_zero_le (not_lt.mp isBefore)
    subst isNat
    cases found : string.digits[count]? with
    | none =>
        have lengthLe := List.getElem?_eq_none_iff.mp found
        have isMultiple :
            string.value =
              (ofDigits 10 string.digits *
                10 ^ (count - string.digits.length) : Nat) *
              (10 : Rat) ^ (string.point - count) := by
          have place :
              string.point - (string.digits.length : Int) =
                (count - string.digits.length : Nat) +
                  (string.point - count) := by
            omega
          unfold value
          rw [place, zpow_add₀ (by norm_num), zpow_natCast]
          push_cast
          ring
        rw [roundAt_behind found, isMultiple,
          nearestMultiple_natCast_mul unitPositive]
    | some next =>
        obtain ⟨rest, split, keptLength⟩ := exists_split found
        have areDigits := proper
        unfold Proper at areDigits
        rw [split, List.forall_mem_append, List.forall_mem_cons] at areDigits
        obtain ⟨restPositive, restBelow, restHalf⟩ :=
          restOf_bounds areDigits.2.1 areDigits.2.2
        rw [value_split split, keptLength,
          nearestMultiple_between unitPositive _ restPositive restBelow]
        simp only [restHalf]
        rcases roundAt_inside found with
          ⟨isSmall, rounded⟩ | ⟨isLarge, digits, within, rounded⟩ |
            ⟨isLarge, digits, carried, rounded⟩
        · rw [rounded, if_pos isSmall]
          unfold value
          rw [keptLength]
        · obtain ⟨sameLength, isNext⟩ := increment_within within
          rw [rounded, if_neg (Nat.not_lt.mpr isLarge)]
          unfold value
          rw [isNext, sameLength, keptLength]
        · obtain ⟨isZeros, isPower⟩ := increment_carry carried
          rw [rounded, if_neg (Nat.not_lt.mpr isLarge), isPower]
          unfold value
          rw [isZeros, ofDigits_cons, ofDigits_replicate_zero,
            List.length_cons, List.length_replicate, keptLength]
          push_cast
          congr 1
          · ring
          · congr 1
            ring

theorem proper_roundAt (proper : string.Proper) (keep : Int) :
    (string.roundAt keep).Proper := by
  by_cases isBefore : keep < 0
  · have allZero := string.roundAt_before isBefore
    intro digit isMember
    have isZero : digit = 0 := by
      have zeros := List.all_eq_true.mp allZero digit isMember
      simpa using zeros
    rw [isZero]
    decide
  · obtain ⟨count, isNat⟩ := Int.eq_ofNat_of_zero_le (not_lt.mp isBefore)
    subst isNat
    cases found : string.digits[count]? with
    | none =>
        rw [roundAt_behind found]
        exact proper
    | some next =>
        have keptProper : ∀ digit ∈ string.digits.take count, digit < 10 := by
          intro digit isMember
          exact proper digit (List.mem_of_mem_take isMember)
        rcases roundAt_inside found with
          ⟨_, rounded⟩ | ⟨_, digits, within, rounded⟩ |
            ⟨_, digits, carried, rounded⟩
        · rw [rounded]
          exact keptProper
        · rw [rounded]
          exact increment_lt keptProper within
        · rw [rounded]
          have small := increment_lt keptProper carried
          exact List.forall_mem_cons.mpr ⟨by decide, small⟩

/-- Behind the place of rounding there are no digits left. -/
theorem roundAt_fits (string : DigitString) (keep : Int) :
    (string.roundAt keep).isZero ∨
      ((string.roundAt keep).digits.length : Int) - (string.roundAt keep).point ≤
        keep - string.point := by
  by_cases isBefore : keep < 0
  · exact .inl (string.roundAt_before isBefore)
  · obtain ⟨count, isNat⟩ := Int.eq_ofNat_of_zero_le (not_lt.mp isBefore)
    subst isNat
    right
    cases found : string.digits[count]? with
    | none =>
        have lengthLe := List.getElem?_eq_none_iff.mp found
        rw [roundAt_behind found]
        omega
    | some next =>
        obtain ⟨rest, _, keptLength⟩ := exists_split found
        rcases roundAt_inside found with
          ⟨_, rounded⟩ | ⟨_, digits, within, rounded⟩ |
            ⟨_, digits, carried, rounded⟩
        · rw [rounded, keptLength]
        · rw [rounded, (increment_within within).1, keptLength]
        · rw [rounded, (increment_carry carried).1]
          simp only [List.length_cons, List.length_replicate, keptLength]
          omega

/-! ## Shown digits -/

theorem digitAt_lt (proper : string.Proper) (index : Int) :
    string.digitAt index < 10 := by
  unfold digitAt
  split
  · decide
  · rw [List.getD_eq_getElem?_getD]
    cases found : string.digits[index.toNat]? with
    | none =>
        decide
    | some digit =>
        exact proper digit (List.mem_of_getElem? found)

theorem digitAt_of_isZero (isZero : string.isZero) (index : Int) :
    string.digitAt index = 0 := by
  unfold digitAt
  split
  · rfl
  · rw [List.getD_eq_getElem?_getD]
    cases found : string.digits[index.toNat]? with
    | none =>
        rfl
    | some digit =>
        have zeros :=
          List.all_eq_true.mp isZero digit (List.mem_of_getElem? found)
        simpa using zeros

def shownDigits (string : DigitString) (start : Int) (count : Nat) : List Nat :=
  (List.range count).map fun (i : Nat) => string.digitAt (start + i)

section Shown

variable {start : Int} {count : Nat}

@[simp]
theorem length_shownDigits :
    (string.shownDigits start count).length = count := by
  simp [shownDigits]

theorem shownDigits_lt (proper : string.Proper) :
    ∀ digit ∈ string.shownDigits start count, digit < 10 := by
  intro digit isMember
  obtain ⟨index, _, rfl⟩ := List.mem_map.mp isMember
  exact digitAt_lt proper _

theorem shownDigits_append (start : Int) (first second : Nat) :
    string.shownDigits start first ++
        string.shownDigits (start + first) second =
      string.shownDigits start (first + second) := by
  unfold shownDigits
  rw [List.range_add, List.map_append, List.map_map]
  congr 1
  refine List.map_congr_left ?_
  intro index _
  have place : start + (first + index : Nat) = start + first + index := by
    omega
  simp only [Function.comp, place]

theorem shownDigits_of_isZero (isZero : string.isZero) :
    string.shownDigits start count = List.replicate count 0 := by
  unfold shownDigits
  simp [digitAt_of_isZero isZero]

/-- All digits, between zeros in front and behind. -/
theorem shownDigits_eq
    (isBefore : start ≤ 0)
    (covers : (string.digits.length : Int) ≤ start + count) :
    string.shownDigits start count =
      List.replicate (-start).toNat 0 ++ string.digits ++
        List.replicate (start + count - string.digits.length).toNat 0 := by
  unfold shownDigits
  apply List.ext_getElem
  · simp only [List.length_map, List.length_range, List.length_append,
      List.length_replicate]
    omega
  · intro index isInside _
    rw [List.getElem_map, List.getElem_range]
    unfold digitAt
    simp only [List.getElem_append, List.length_append, List.length_replicate,
      List.getElem_replicate]
    split
    · rw [dif_pos (by omega), dif_pos (by omega)]
    · have place : (start + index).toNat = index - (-start).toNat := by
        omega
      rw [place, List.getD_eq_getElem?_getD]
      by_cases isDigit : index < (-start).toNat + string.digits.length
      · rw [dif_pos isDigit, dif_neg (by omega),
          List.getElem?_eq_getElem (by omega), Option.getD_some]
      · rw [dif_neg isDigit, List.getElem?_eq_none (by omega),
          Option.getD_none]

/-- All digits that are not zero make up the number. -/
theorem ofDigits_shownDigits
    (isBefore : start ≤ 0)
    (covers : (string.digits.length : Int) ≤ start + count) :
    (ofDigits 10 (string.shownDigits start count) : Rat) *
        (10 : Rat) ^ (string.point - (start + count)) =
      string.value := by
  obtain ⟨behind, isBehind⟩ :=
    Int.eq_ofNat_of_zero_le (Int.sub_nonneg_of_le covers)
  have place :
      string.point - (string.digits.length : Int) =
        behind + (string.point - (start + count)) := by
    omega
  rw [shownDigits_eq isBefore covers, isBehind, Int.toNat_natCast,
    ofDigits_append, ofDigits_append, ofDigits_replicate_zero,
    ofDigits_replicate_zero, List.length_replicate]
  unfold value
  rw [place, zpow_add₀ (by norm_num), zpow_natCast]
  push_cast
  ring

/-- Zeros behind the last place need not be shown. -/
theorem ofDigits_shownDigits_of_zeros
    (isBefore : start ≤ 0)
    (zeros : ∀ index, start + count ≤ index → string.digitAt index = 0) :
    (ofDigits 10 (string.shownDigits start count) : Rat) *
        (10 : Rat) ^ (string.point - (start + count)) =
      string.value := by
  obtain ⟨more, enough⟩ :
      ∃ more : Nat, (string.digits.length : Int) ≤ start + count + more :=
    ⟨(string.digits.length - (start + count)).toNat, by omega⟩
  have isZeros :
      string.shownDigits (start + count) more = List.replicate more 0 := by
    rw [List.eq_replicate_iff]
    refine ⟨length_shownDigits, ?_⟩
    intro digit isMember
    obtain ⟨index, _, rfl⟩ := List.mem_map.mp isMember
    exact zeros _ (by omega)
  have covers :
      (string.digits.length : Int) ≤ start + (count + more : Nat) := by
    omega
  have place :
      string.point - (start + count) =
        more + (string.point - (start + (count + more : Nat))) := by
    omega
  rw [← ofDigits_shownDigits isBefore covers,
    ← shownDigits_append, isZeros, ofDigits_append, ofDigits_replicate_zero,
    List.length_replicate, place, zpow_add₀ (by norm_num), zpow_natCast]
  push_cast
  ring

end Shown

end DigitString

end Phrasebook
