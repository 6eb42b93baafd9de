import Mathlib.Algebra.Order.Field.Power
import Mathlib.Data.Rat.Floor
import Mathlib.Tactic.Linarith
import Mathlib.Tactic.Ring
import Phrasebook.Number.Positional

/-!
# Positional notation

A digit list denotes a number, and the digits of a number denote it again. The
leading exponent of a positive number is the place of its first digit, and
rounding to a whole number is off by a half at most.
-/

namespace Phrasebook

/-! ## Numbers of digits -/

section DigitCount

variable {base : Nat}

theorem digitCountWithin_pos (base fuel n : Nat) :
    0 < digitCountWithin base fuel n := by
  cases fuel with
  | zero =>
      exact Nat.one_pos
  | succ fuel =>
      unfold digitCountWithin
      split
      · exact Nat.one_pos
      · exact Nat.succ_pos _

/-- The fuel is enough as long as it is a number of bits. -/
theorem lt_pow_digitCountWithin
    (notUnary : 2 ≤ base) {fuel n : Nat} (positive : 0 < fuel)
    (enough : n < 2 ^ fuel) :
    n < base ^ digitCountWithin base fuel n := by
  induction fuel generalizing n with
  | zero =>
      exact absurd positive (Nat.lt_irrefl 0)
  | succ fuel inductionHypothesis =>
      unfold digitCountWithin
      by_cases isDigit : n < base
      · rw [if_pos isDigit, Nat.pow_one]
        exact isDigit
      · rw [if_neg isDigit, Nat.pow_succ]
        have halved : n / base ≤ n / 2 :=
          Nat.div_le_div_left notUnary Nat.two_pos
        have shorter : n / base < 2 ^ fuel := by
          rw [Nat.pow_succ] at enough
          omega
        cases fuel with
        | zero =>
            omega
        | succ fuel =>
            have below := inductionHypothesis (Nat.succ_pos fuel) shorter
            exact (Nat.div_lt_iff_lt_mul (by omega)).mp below

theorem pow_le_of_digitCountWithin
    (notUnary : 2 ≤ base) (fuel : Nat) {n : Nat} (isPositive : 1 ≤ n) :
    base ^ (digitCountWithin base fuel n - 1) ≤ n := by
  induction fuel generalizing n with
  | zero =>
      exact isPositive
  | succ fuel inductionHypothesis =>
      unfold digitCountWithin
      by_cases isDigit : n < base
      · rw [if_pos isDigit]
        exact isPositive
      · rw [if_neg isDigit, Nat.add_sub_cancel]
        have quotient : 1 ≤ n / base :=
          Nat.div_pos (Nat.not_lt.mp isDigit) (by omega)
        have below := inductionHypothesis quotient
        have counted := digitCountWithin_pos base fuel (n / base)
        calc
          base ^ digitCountWithin base fuel (n / base)
              = base ^ (digitCountWithin base fuel (n / base) - 1) * base := by
                rw [← Nat.pow_succ, Nat.succ_eq_add_one,
                  Nat.sub_add_cancel counted]
          _ ≤ n / base * base := Nat.mul_le_mul_right base below
          _ ≤ n := Nat.div_mul_le_self n base

theorem digitCount_pos (base n : Nat) : 0 < digitCount base n :=
  digitCountWithin_pos base _ n

theorem lt_pow_digitCount (notUnary : 2 ≤ base) (n : Nat) :
    n < base ^ digitCount base n :=
  lt_pow_digitCountWithin notUnary (Nat.succ_pos _) Nat.lt_log2_self

theorem pow_le_of_digitCount
    (notUnary : 2 ≤ base) {n : Nat} (isPositive : 1 ≤ n) :
    base ^ (digitCount base n - 1) ≤ n :=
  pow_le_of_digitCountWithin notUnary _ isPositive

theorem digitCount_le_of_lt
    (notUnary : 2 ≤ base) {n count : Nat} (someDigits : 0 < count)
    (isBelow : n < base ^ count) :
    digitCount base n ≤ count := by
  by_cases isZero : n = 0
  · subst isZero
    have isOne : digitCount base 0 = 1 := by
      unfold digitCount digitCountWithin
      rw [if_pos (by omega)]
    rw [isOne]
    exact someDigits
  · have below :=
      pow_le_of_digitCount notUnary (Nat.one_le_iff_ne_zero.mpr isZero)
    have powers := below.trans_lt isBelow
    have places := (Nat.pow_lt_pow_iff_right (by omega)).mp powers
    omega

end DigitCount

/-! ## Digit lists -/

section DigitLists

variable {base : Nat}

theorem foldl_digits (base n : Nat) (digits : List Nat) :
    digits.foldl (fun n digit => n * base + digit) n =
      n * base ^ digits.length + ofDigits base digits := by
  unfold ofDigits
  induction digits generalizing n with
  | nil =>
      simp
  | cons digit digits inductionHypothesis =>
      rw [List.foldl_cons, List.foldl_cons, inductionHypothesis,
        inductionHypothesis (0 * base + digit), List.length_cons]
      ring

theorem ofDigits_append (front rest : List Nat) :
    ofDigits base (front ++ rest) =
      ofDigits base front * base ^ rest.length + ofDigits base rest := by
  have folded := foldl_digits base (ofDigits base front) rest
  rw [← folded]
  exact List.foldl_append

theorem ofDigits_cons (digit : Nat) (rest : List Nat) :
    ofDigits base (digit :: rest) =
      digit * base ^ rest.length + ofDigits base rest := by
  have split :
      ofDigits base ([digit] ++ rest) =
        ofDigits base [digit] * base ^ rest.length + ofDigits base rest :=
    ofDigits_append [digit] rest
  simpa [ofDigits] using split

theorem ofDigits_replicate_zero (count : Nat) :
    ofDigits base (List.replicate count 0) = 0 := by
  induction count with
  | zero =>
      rfl
  | succ count inductionHypothesis =>
      rw [List.replicate_succ, ofDigits_cons, inductionHypothesis,
        Nat.zero_mul]

theorem ofDigits_lt
    {digits : List Nat} (areDigits : ∀ digit ∈ digits, digit < base) :
    ofDigits base digits < base ^ digits.length := by
  induction digits with
  | nil =>
      exact Nat.one_pos
  | cons digit rest inductionHypothesis =>
      rw [List.forall_mem_cons] at areDigits
      have below := inductionHypothesis areDigits.2
      rw [ofDigits_cons, List.length_cons, Nat.pow_succ]
      calc
        digit * base ^ rest.length + ofDigits base rest
            < digit * base ^ rest.length + base ^ rest.length :=
              Nat.add_lt_add_left below _
        _ = (digit + 1) * base ^ rest.length := by ring
        _ ≤ base * base ^ rest.length :=
              Nat.mul_le_mul_right _ areDigits.1
        _ = base ^ rest.length * base := Nat.mul_comm _ _

theorem ofDigits_digitsOf (width n : Nat) :
    ofDigits base (digitsOf base width n) = n % base ^ width := by
  induction width generalizing n with
  | zero =>
      rw [Nat.pow_zero, Nat.mod_one]
      rfl
  | succ width inductionHypothesis =>
      have last : ofDigits base [n % base] = n % base := by
        simp [ofDigits]
      rw [digitsOf, ofDigits_append, inductionHypothesis, last,
        List.length_singleton, Nat.pow_one, Nat.pow_succ']
      rw [Nat.mod_mul, Nat.mul_comm, Nat.add_comm]

theorem digitsOf_lt
    (notZero : 0 < base) {width n : Nat} :
    ∀ digit ∈ digitsOf base width n, digit < base := by
  induction width generalizing n with
  | zero =>
      exact List.forall_mem_nil _
  | succ width inductionHypothesis =>
      rw [digitsOf, List.forall_mem_append, List.forall_mem_singleton]
      exact ⟨inductionHypothesis, Nat.mod_lt n notZero⟩

end DigitLists

/-! ## The leading place -/

section Leading

variable {base : Nat}

/-- The digits of a whole number bound every number with that whole part. -/
theorem zpow_digitCount_bounds
    (notUnary : 2 ≤ base) {n : Nat} (isPositive : 1 ≤ n) :
    (base : Rat) ^ ((digitCount base n : Int) - 1) ≤ n ∧
      ((n + 1 : Nat) : Rat) ≤ (base : Rat) ^ (digitCount base n : Int) := by
  have counted := digitCount_pos base n
  have lower := pow_le_of_digitCount notUnary isPositive
  have upper := lt_pow_digitCount notUnary n
  have place : (digitCount base n : Int) - 1 = (digitCount base n - 1 : Nat) := by
    omega
  rw [place, zpow_natCast, zpow_natCast]
  exact ⟨by exact_mod_cast lower, by exact_mod_cast upper⟩

/-- Below one the bounds are those of the reciprocal. The whole number under it
has its digits counted, so it is strictly above. -/
theorem leadingExponent_bounds
    (base : Nat) (notUnary : 2 ≤ base) {q : Rat} (positive : 0 < q) :
    (base : Rat) ^ leadingExponent base q ≤ q ∧
      q < (base : Rat) ^ (leadingExponent base q + 1) := by
  unfold leadingExponent
  by_cases isLarge : 1 ≤ q
  · rw [if_pos isLarge]
    have whole : 1 ≤ q.floor :=
      Rat.le_floor_iff.mpr (by exact_mod_cast isLarge)
    obtain ⟨n, isNat⟩ := Int.eq_ofNat_of_zero_le (by omega : 0 ≤ q.floor)
    have below := Rat.floor_le q
    have above := Rat.lt_floor_add_one q
    rw [isNat] at below above whole ⊢
    have bounds := zpow_digitCount_bounds notUnary (n := n) (by omega)
    rw [Int.toNat_natCast, Int.sub_add_cancel]
    push_cast at below above bounds
    exact ⟨bounds.1.trans below, above.trans_le bounds.2⟩
  · rw [if_neg isLarge]
    have reciprocal : 1 < q⁻¹ :=
      (one_lt_inv₀ positive).mpr (not_le.mp isLarge)
    have below := Rat.ceil_lt (x := q⁻¹)
    have above := Rat.le_ceil (x := q⁻¹)
    have whole : 2 ≤ (q⁻¹).ceil := by
      have ceilAboveOne : (1 : Rat) < (q⁻¹).ceil := reciprocal.trans_le above
      exact_mod_cast ceilAboveOne
    obtain ⟨n, isNat⟩ :=
      Int.eq_ofNat_of_zero_le (by omega : 0 ≤ (q⁻¹).ceil - 1)
    have isCeil : (q⁻¹).ceil = n + 1 := by
      omega
    rw [isCeil] at below above ⊢
    have bounds := zpow_digitCount_bounds notUnary (n := n) (by omega)
    have isToNat : ((n : Int) + 1).toNat - 1 = n := by
      omega
    rw [isToNat]
    push_cast at below above bounds
    constructor
    · rw [zpow_neg]
      exact inv_le_of_inv_le₀ positive (above.trans bounds.2)
    · have place :
          -(digitCount base n : Int) + 1 = -((digitCount base n : Int) - 1) := by
        omega
      rw [place, zpow_neg]
      have basePositive : (0 : Rat) < base := by
        exact_mod_cast (by omega : 0 < base)
      refine (lt_inv_comm₀ positive (zpow_pos basePositive _)).mpr ?_
      linarith [bounds.1]

end Leading

/-! ## Whole numbers -/

section Rounding

variable {q : Rat}

theorem floor_toNat_bounds (notNegative : 0 ≤ q) :
    (q.floor.toNat : Rat) ≤ q ∧ q < q.floor.toNat + 1 := by
  have below := Rat.floor_le q
  have above := Rat.lt_floor_add_one q
  have whole : 0 ≤ q.floor :=
    Rat.le_floor_iff.mpr (by exact_mod_cast notNegative)
  obtain ⟨n, isNat⟩ := Int.eq_ofNat_of_zero_le whole
  rw [isNat] at below above ⊢
  push_cast at below above
  exact ⟨below, above⟩

theorem roundHalfEven_near (notNegative : 0 ≤ q) :
    |(roundHalfEven q : Rat) - q| ≤ 1 / 2 := by
  obtain ⟨below, above⟩ := floor_toNat_bounds notNegative
  unfold roundHalfEven
  dsimp only
  rw [abs_le]
  split
  · rename_i isBelow
    constructor
    · rcases isBelow with isLess | isTie
      · linarith
      · linarith [isTie.1]
    · linarith
  · rename_i notBelow
    have isAbove : 1 / 2 ≤ q - q.floor.toNat := by
      by_contra isLess
      exact notBelow (.inl (not_le.mp isLess))
    push_cast
    constructor <;> linarith

/-- A whole number is not passed by rounding. -/
theorem le_roundHalfEven
    (notNegative : 0 ≤ q) {n : Nat} (isBelow : (n : Rat) ≤ q) :
    n ≤ roundHalfEven q := by
  have near := abs_le.mp (roundHalfEven_near notNegative)
  have below : (n : Rat) < (roundHalfEven q + 1 : Nat) := by
    push_cast
    linarith
  have natBelow : n < roundHalfEven q + 1 := by
    exact_mod_cast below
  omega

theorem roundHalfEven_le
    (notNegative : 0 ≤ q) {n : Nat} (isAbove : q ≤ n) :
    roundHalfEven q ≤ n := by
  have near := abs_le.mp (roundHalfEven_near notNegative)
  have below : (roundHalfEven q : Rat) < (n + 1 : Nat) := by
    push_cast
    linarith
  have natBelow : roundHalfEven q < n + 1 := by
    exact_mod_cast below
  omega

theorem roundHalfEven_natCast (n : Nat) : roundHalfEven n = n :=
  le_antisymm (roundHalfEven_le n.cast_nonneg le_rfl)
    (le_roundHalfEven n.cast_nonneg le_rfl)

/-- The tie below an even number goes up to it. -/
theorem even_le_roundHalfEven_iff
    (notNegative : 0 ≤ q) {n : Nat} (isEven : n % 2 = 0) :
    n ≤ roundHalfEven q ↔ (n : Rat) - 1 / 2 ≤ q := by
  constructor
  · intro isBelow
    have near := abs_le.mp (roundHalfEven_near notNegative)
    have ratBelow : (n : Rat) ≤ roundHalfEven q := by
      exact_mod_cast isBelow
    linarith
  · intro isBelow
    by_cases isLess : (n : Rat) ≤ q
    · exact le_roundHalfEven notNegative isLess
    · obtain ⟨below, above⟩ := floor_toNat_bounds notNegative
      have wholeBelow : q.floor.toNat < n := by
        have ratBelow : (q.floor.toNat : Rat) < n := by
          linarith
        exact_mod_cast ratBelow
      have wholeAbove : n ≤ q.floor.toNat + 1 := by
        have ratAbove : (n : Rat) < (q.floor.toNat + 2 : Nat) := by
          push_cast
          linarith
        have natAbove : n < q.floor.toNat + 2 := by
          exact_mod_cast ratAbove
        omega
      have isWhole : n = q.floor.toNat + 1 := by
        omega
      have ratWhole : (n : Rat) = q.floor.toNat + 1 := by
        exact_mod_cast isWhole
      unfold roundHalfEven
      dsimp only
      split
      · rename_i isBelowHalf
        rcases isBelowHalf with isSmall | ⟨_, isOdd⟩
        · linarith
        · omega
      · omega

end Rounding

end Phrasebook
