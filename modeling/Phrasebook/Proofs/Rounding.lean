import Phrasebook.Proofs.SignificantDigits

/-!
# Rounding at a place

The number of a digit string goes to the nearest multiple of the unit of a
place, wherever that place is. The point moves only where every digit that is
kept is a nine and the next one rounds it up, and the leading digit is never
rounded away.
-/

namespace Phrasebook

/-! ## The nearest multiple -/

/-- A multiple of a unit that has no nearer one to a number and no higher one
as near. -/
structure IsNearestMultiple (unit q result : Rat) : Prop where
  isMultiple : ∃ n : Int, result = n * unit
  nearest : ∀ n : Int, |result - q| ≤ |n * unit - q|
  upper : ∀ n : Int, |n * unit - q| = |result - q| → n * unit ≤ result

section Multiples

variable {unit q result : Rat}

theorem IsNearestMultiple.eq
    {other : Rat} (isNearest : IsNearestMultiple unit q result)
    (isOther : IsNearestMultiple unit q other) : other = result := by
  obtain ⟨n, rfl⟩ := isNearest.isMultiple
  obtain ⟨m, rfl⟩ := isOther.isMultiple
  have sameDistance : |(m : Rat) * unit - q| = |(n : Rat) * unit - q| :=
    le_antisymm (isOther.nearest n) (isNearest.nearest m)
  exact le_antisymm (isNearest.upper m sameDistance)
    (isOther.upper n sameDistance.symm)

theorem lt_nearestMultiple_add (positive : 0 < unit) :
    q < nearestMultiple unit q + unit / 2 := by
  have above := Int.lt_floor_add_one (q / unit + 1 / 2)
  have quotientLt : q / unit < ⌊q / unit + 1 / 2⌋ + 1 / 2 := by
    linarith
  rw [div_lt_iff₀ positive] at quotientLt
  unfold nearestMultiple
  linarith

theorem isNearestMultiple_nearestMultiple (positive : 0 < unit) :
    IsNearestMultiple unit q (nearestMultiple unit q) := by
  have near := nearestMultiple_near (q := q) positive
  have below := (abs_le.mp near).2
  have above := lt_nearestMultiple_add (q := q) positive
  obtain ⟨middle, isMiddle⟩ :
      ∃ n : Int, nearestMultiple unit q = n * unit := ⟨_, rfl⟩
  have lower (n : Int) (isLower : n < middle) :
      unit / 2 ≤ |n * unit - q| := by
    have apart : ((n : Rat) + 1) * unit ≤ middle * unit := by
      refine mul_le_mul_of_nonneg_right ?_ positive.le
      exact_mod_cast isLower
    have distance := neg_le_abs ((n : Rat) * unit - q)
    linarith
  have higher (n : Int) (isHigher : middle < n) :
      unit / 2 < |n * unit - q| := by
    have apart : ((middle : Rat) + 1) * unit ≤ n * unit := by
      refine mul_le_mul_of_nonneg_right ?_ positive.le
      exact_mod_cast isHigher
    have distance := le_abs_self ((n : Rat) * unit - q)
    linarith
  refine ⟨⟨middle, isMiddle⟩, ?_, ?_⟩
  · intro n
    rcases lt_trichotomy n middle with isLower | rfl | isHigher
    · exact near.trans (lower n isLower)
    · rw [isMiddle]
    · exact near.trans (higher n isHigher).le
  · intro n sameDistance
    have notHigher : n ≤ middle := by
      by_contra isHigher
      have distance := higher n (not_le.mp isHigher)
      linarith
    rw [isMiddle]
    refine mul_le_mul_of_nonneg_right ?_ positive.le
    exact_mod_cast notHigher

end Multiples

namespace DigitString

/-! ## The carry -/

/-- Adding one carries through nines only. -/
theorem increment_carries_iff (digits : List Nat) :
    (increment digits).1 = true ↔ ∀ digit ∈ digits, digit = 9 := by
  induction digits with
  | nil =>
      exact ⟨fun _ => List.forall_mem_nil _, fun _ => rfl⟩
  | cons digit rest inductionHypothesis =>
      rw [List.forall_mem_cons, ← inductionHypothesis, increment]
      split
      · rename_i next restWithin
        simp [restWithin]
      · rename_i next restCarried
        by_cases isNine : digit = 9
        · simp [isNine, restCarried]
        · simp [isNine]

variable {string : DigitString} {keep : Int}

/-- The digit behind those that are kept rounds up, and all of them are
nines. -/
structure CarriesOut (string : DigitString) (keep : Int) : Prop where
  notBefore : 0 ≤ keep
  roundsUp : ∃ next, string.digits[keep.toNat]? = some next ∧ 5 ≤ next
  areNines : ∀ digit ∈ string.digits.take keep.toNat, digit = 9

theorem roundAt_of_carriesOut (carriesOut : string.CarriesOut keep) :
    string.roundAt keep =
      ⟨1 :: List.replicate keep.toNat 0, string.point + 1⟩ := by
  obtain ⟨count, rfl⟩ := Int.eq_ofNat_of_zero_le carriesOut.notBefore
  obtain ⟨next, found, isLarge⟩ := carriesOut.roundsUp
  rw [Int.toNat_natCast] at found ⊢
  have carries :=
    (increment_carries_iff (string.digits.take count)).mpr carriesOut.areNines
  obtain ⟨_, _, keptLength⟩ := exists_split found
  rcases roundAt_inside found with
    ⟨isSmall, _⟩ | ⟨_, digits, within, _⟩ | ⟨_, digits, carried, rounded⟩
  · omega
  · rw [within] at carries
    cases carries
  · rw [rounded, (increment_carry carried).1, keptLength]

theorem point_roundAt (notOut : ¬ string.CarriesOut keep) :
    (string.roundAt keep).point = string.point := by
  by_cases isBefore : keep < 0
  · unfold roundAt
    rw [if_pos isBefore]
  · have notBefore := not_lt.mp isBefore
    obtain ⟨count, rfl⟩ := Int.eq_ofNat_of_zero_le notBefore
    cases found : string.digits[count]? with
    | none =>
        rw [roundAt_behind found]
    | some next =>
        rcases roundAt_inside found with
          ⟨_, rounded⟩ | ⟨_, digits, _, rounded⟩ |
            ⟨isLarge, digits, carried, _⟩
        · rw [rounded]
        · rw [rounded]
        · refine absurd ⟨notBefore, ⟨next, found, isLarge⟩, ?_⟩ notOut
          apply (increment_carries_iff _).mp
          exact congrArg Prod.fst carried

theorem point_roundAt_iff :
    (string.roundAt keep).point = string.point + 1 ↔
      string.CarriesOut keep := by
  constructor
  · intro isMoved
    by_contra notOut
    rw [point_roundAt notOut] at isMoved
    omega
  · intro carriesOut
    rw [roundAt_of_carriesOut carriesOut]

/-- The carry makes the number the next power of ten. -/
theorem value_roundAt_eq_pow_iff (proper : string.Proper) :
    (string.roundAt keep).value = (10 : Rat) ^ string.point ↔
      string.CarriesOut keep := by
  constructor
  · intro isPower
    by_contra notOut
    have isBelow := (value_bounds (proper_roundAt proper keep)).2
    rw [point_roundAt notOut, isPower] at isBelow
    exact lt_irrefl _ isBelow
  · intro carriesOut
    rw [roundAt_of_carriesOut carriesOut]
    unfold value
    rw [ofDigits_cons, ofDigits_replicate_zero, List.length_cons,
      List.length_replicate, one_mul, add_zero]
    push_cast
    rw [← zpow_natCast, ← zpow_add₀ (by norm_num)]
    congr 1
    ring

/-! ## The leading digit -/

/-- Rounding keeps a leading digit that is not zero. -/
theorem leading_roundAt
    {first : Nat} (isFirst : string.digits.head? = some first)
    (notZero : first ≠ 0) (someDigits : 1 ≤ keep) :
    ∃ leading, (string.roundAt keep).digits.head? = some leading ∧
      leading ≠ 0 := by
  obtain ⟨count, rfl⟩ : ∃ count : Nat, keep = count :=
    ⟨keep.toNat, by omega⟩
  cases found : string.digits[count]? with
  | none =>
      rw [roundAt_behind found]
      exact ⟨first, isFirst, notZero⟩
  | some next =>
      obtain ⟨_, _, keptLength⟩ := exists_split found
      have keptFirst : (string.digits.take count).head? = some first := by
        rw [List.head?_take, if_neg (by omega), isFirst]
      rcases roundAt_inside found with
        ⟨_, rounded⟩ | ⟨_, digits, within, rounded⟩ | ⟨_, digits, _, rounded⟩
      · rw [rounded]
        exact ⟨first, keptFirst, notZero⟩
      · have keptNotZero : (string.digits.take count).head? ≠ some 0 := by
          rw [keptFirst]
          exact fun isZero => notZero (Option.some.inj isZero)
        have leadingNotZero := increment_leading keptNotZero within
        have sameLength := (increment_within within).1
        rw [rounded]
        cases digits with
        | nil =>
            rw [keptLength, List.length_nil] at sameLength
            omega
        | cons leading rest =>
            refine ⟨leading, rfl, ?_⟩
            rintro rfl
            exact leadingNotZero rfl
      · rw [rounded]
        exact ⟨1, rfl, Nat.one_ne_zero⟩

/-! ## Rounding -/

/-- Rounding keeps decimal digits and goes to the nearest multiple, the upper
one of two. The point moves by one place with a carry out of the leading digit,
which leaves a one in front of zeros, and else it stays. -/
theorem rounding_goes_to_nearest_multiple
    (proper : string.Proper) (keep : Int) :
    (string.roundAt keep).Proper ∧
      (∀ result,
        IsNearestMultiple ((10 : Rat) ^ (string.point - keep)) string.value
            result ↔
          result = (string.roundAt keep).value) ∧
      ((string.roundAt keep).point = string.point ∨
        (string.roundAt keep).point = string.point + 1) ∧
      ((string.roundAt keep).point = string.point + 1 ↔
        string.CarriesOut keep) ∧
      ((string.roundAt keep).point = string.point + 1 ↔
        (string.roundAt keep).value = (10 : Rat) ^ string.point) ∧
      (string.CarriesOut keep →
        (string.roundAt keep).digits = 1 :: List.replicate keep.toNat 0) ∧
      (∀ first, string.digits.head? = some first → first ≠ 0 → 1 ≤ keep →
        ∃ leading, (string.roundAt keep).digits.head? = some leading ∧
          leading ≠ 0) := by
  have unitPositive : (0 : Rat) < 10 ^ (string.point - keep) :=
    zpow_pos (by norm_num) _
  have isNearest :=
    isNearestMultiple_nearestMultiple (q := string.value) unitPositive
  refine ⟨proper_roundAt proper keep, ?_, ?_, point_roundAt_iff, ?_, ?_, ?_⟩
  · intro result
    rw [value_roundAt proper]
    constructor
    · intro isResult
      exact isNearest.eq isResult
    · rintro rfl
      exact isNearest
  · by_cases carriesOut : string.CarriesOut keep
    · exact .inr (point_roundAt_iff.mpr carriesOut)
    · exact .inl (point_roundAt carriesOut)
  · exact point_roundAt_iff.trans (value_roundAt_eq_pow_iff proper).symm
  · intro carriesOut
    rw [roundAt_of_carriesOut carriesOut]
  · intro first isFirst notZero someDigits
    exact leading_roundAt isFirst notZero someDigits

/-- Nines with a five behind them, and a five in front of which nothing is
kept. -/
theorem rounding_of_nines :
    let nines : DigitString := ⟨[9, 9, 9, 5], 1⟩
    let five : DigitString := ⟨[5], 0⟩
    nines.Proper ∧ five.Proper ∧
      nines.roundAt 3 = ⟨[1, 0, 0, 0], 2⟩ ∧
      IsNearestMultiple ((10 : Rat) ^ (1 - 3 : Int)) nines.value
        (nines.roundAt 3).value ∧
      (nines.roundAt 3).point = nines.point + 1 ∧
      five.roundAt 0 = ⟨[1], 1⟩ ∧
      IsNearestMultiple ((10 : Rat) ^ (0 - 0 : Int)) five.value
        (five.roundAt 0).value := by
  intro nines five
  have ninesProper : nines.Proper := by
    unfold Proper
    decide
  have fiveProper : five.Proper := by
    unfold Proper
    decide
  obtain ⟨-, ninesNearest, -, moved, -⟩ :=
    rounding_goes_to_nearest_multiple ninesProper 3
  obtain ⟨-, fiveNearest, -⟩ := rounding_goes_to_nearest_multiple fiveProper 0
  have carriesOut : nines.CarriesOut 3 :=
    ⟨by decide, ⟨5, rfl, by decide⟩, by decide⟩
  exact ⟨ninesProper, fiveProper, by decide, (ninesNearest _).mpr rfl,
    moved.mpr carriesOut, by decide, (fiveNearest _).mpr rfl⟩

end DigitString

end Phrasebook
