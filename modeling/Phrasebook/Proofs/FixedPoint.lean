import Phrasebook.Proofs.Grouping
import Phrasebook.Proofs.Notations
import Phrasebook.Proofs.Specifiers

/-!
# Fixed point

The text of a number in fixed point is plain notation of its fifteen significant
digits, rounded at the last place, and with grouped thousands it is the same text
with commas.
-/

namespace Phrasebook

/-! ## Plain texts -/

section Plain

variable {q : Rat} {places text : List Char}

theorem IsPlain.exists_cons (plain : IsPlain q places text) :
    ∃ c rest, text = c :: rest ∧ c.isDigit := by
  have isText := plain.isText
  cases isWhole : Nat.toDigits 10 ⌊q⌋₊ with
  | nil =>
      exact absurd isWhole Nat.toDigits_ne_nil
  | cons c rest =>
      have isMember : c ∈ Nat.toDigits 10 ⌊q⌋₊ := by
        rw [isWhole]
        exact List.mem_cons_self
      rw [isWhole] at isText
      exact ⟨c, _, isText,
        Nat.isDigit_of_mem_toDigits (by decide) (by decide) isMember⟩

/-- A sign in front of a text that is not zero is read as one. -/
theorem IsPlain.decimalValue?_signed
    (plain : IsPlain q places text) (negative : Bool) :
    decimalValue? ((if negative ∧ q ≠ 0 then ['-'] else []) ++ text) =
      some (if negative then -q else q) := by
  obtain ⟨c, rest, isText, isDigit⟩ := plain.exists_cons
  have unsigned : decimalValue? text = some q := by
    rw [isText, decimalValue?_of_isDigit isDigit, ← isText, plain.denotes]
  by_cases isNegative : negative ∧ q ≠ 0
  · rw [if_pos isNegative, if_pos isNegative.1, List.singleton_append,
      decimalValue?_minus, plain.denotes]
    rfl
  · rw [if_neg isNegative, List.nil_append, unsigned]
    by_cases hasSign : negative
    · have isZero : q = 0 := by
        by_contra notZero
        exact isNegative ⟨hasSign, notZero⟩
      rw [if_pos hasSign, isZero, neg_zero]
    · rw [if_neg hasSign]

/-- A plain text has digits and a point. -/
theorem IsPlain.notMem
    (plain : IsPlain q places text) {c : Char} (notDigit : ¬ c.isDigit)
    (notPoint : c ≠ '.') :
    c ∉ text := by
  rw [plain.isText, List.mem_append, not_or]
  constructor
  · intro isMember
    exact notDigit
      (Nat.isDigit_of_mem_toDigits (by decide) (by decide) isMember)
  · unfold DigitString.withPoint
    split
    · exact List.not_mem_nil
    · rw [List.mem_cons, not_or]
      exact ⟨notPoint, fun isMember => notDigit (plain.areDigits c isMember)⟩

/-- Grouping a plain text puts commas between the groups of its whole part. -/
theorem IsPlain.exists_grouping
    (plain : IsPlain q places text) {sign : List Char}
    (isSign : sign = [] ∨ sign = ['-']) :
    ∃ first others, IsGrouping (Nat.toDigits 10 ⌊q⌋₊) first others ∧
      groupThousands (sign ++ text) =
        sign ++ [','].intercalate (first :: others) ++
          DigitString.withPoint places := by
  have areDigits : ∀ c ∈ Nat.toDigits 10 ⌊q⌋₊, c.isDigit := by
    intro c isMember
    exact Nat.isDigit_of_mem_toDigits (by decide) (by decide) isMember
  have stops : ∀ c ∈ (DigitString.withPoint places).head?, c = '.' := by
    intro c isHead
    unfold DigitString.withPoint at isHead
    split at isHead
    · cases isHead
    · cases isHead
      rfl
  obtain ⟨first, others, isGrouping, isGrouped⟩ :=
    Phrasebook.exists_grouping (Nat.toDigits_ne_nil (n := ⌊q⌋₊) (b := 10))
  refine ⟨first, others, isGrouping, ?_⟩
  rw [plain.isText, ← List.append_assoc,
    groupThousands_eq isSign Nat.toDigits_ne_nil areDigits stops, isGrouped]

end Plain

/-! ## Numbers in fixed point -/

def shownFixed (x : Binary64) (places : Nat) : Rat :=
  nearestMultiple ((10 : Rat) ^ (-(places : Int))) (DigitString.ofNumber x).value

theorem fixedPoint_isPlain (x : Binary64) (count : Nat) :
    ∃ places text, places.length = count ∧
      IsPlain (shownFixed x count) places text ∧
      fixedPoint x count =
        (if x.isBelowZero ∧ shownFixed x count ≠ 0 then ['-'] else []) ++
          text := by
  have normal := DigitString.normal_ofNumber x
  unfold fixedPoint shownFixed
  dsimp only
  generalize DigitString.ofNumber x = string at normal ⊢
  have isValue :=
    DigitString.value_roundAt normal.proper (string.point + count)
  have rounded := DigitString.normal_roundAt normal (string.point + count)
  rw [sub_add_cancel_left] at isValue
  have plain := (rounded.plainDigits fun _ isBehind =>
    string.digitAt_roundAt_place count isBehind).isPlain
  rw [← DigitString.fixed_eq] at plain
  rw [rounded.signed_eq, ← isValue]
  refine ⟨_, _, ?_, plain, rfl⟩
  simp [digitText]

theorem fixedPoint_denotes (x : Binary64) (places : Nat) :
    decimalValue? (fixedPoint x places) =
        some (if x.isBelowZero then -shownFixed x places
          else shownFixed x places) ∧
      ',' ∉ fixedPoint x places := by
  obtain ⟨digits, text, _, plain, isText⟩ := fixedPoint_isPlain x places
  rw [isText]
  refine ⟨plain.decimalValue?_signed _, ?_⟩
  rw [List.mem_append, not_or]
  refine ⟨?_, plain.notMem (by decide) (by decide)⟩
  split <;> decide

theorem isBelowZero_iff
    {x : Binary64} {value : Rat} (isFinite : x.finiteValue? = some value) :
    x.isBelowZero ↔ value < 0 := by
  unfold Binary64.isBelowZero
  rw [isFinite]
  simp

theorem Binary64.isFinite_of_value
    {x : Binary64} {value : Rat} (isFinite : x.finiteValue? = some value) :
    x.isFinite := by
  unfold Binary64.isFinite
  rw [isFinite]
  rfl

/-- Fixed point shows the fifteen significant digits of a number rounded to a
multiple of the unit of the last place, and a sign unless that is zero. -/
theorem fixed_point_rounds_significant_digits
    {x : Binary64} {value : Rat} {digits : List Char}
    (isFinite : x.finiteValue? = some value)
    (isPrecision : Specifier.IsPrecision digits) :
    let count := Specifier.precisionOr 2 digits
    let rounded := nearestMultiple ((10 : Rat) ^ (-(count : Int)))
      (significantDecimal 15 |value|)
    let sign := if value < 0 ∧ rounded ≠ 0 then ['-'] else []
    ∃ places text first others,
      places.length = count ∧
      IsPlain rounded places text ∧
      IsGrouping (Nat.toDigits 10 ⌊rounded⌋₊) first others ∧
      (∀ letter ∈ ['F', 'f'],
        formatNumber x (String.ofList (letter :: digits)) =
          .ok (String.ofList (sign ++ text))) ∧
      ∀ letter ∈ ['N', 'n'],
        formatNumber x (String.ofList (letter :: digits)) =
          .ok (String.ofList (sign ++ [','].intercalate (first :: others) ++
            DigitString.withPoint places)) := by
  intro count rounded sign
  obtain ⟨precision, isUsual, formatted⟩ :=
    Specifier.formatNumber_of_isPrecision
      (Binary64.isFinite_of_value isFinite) isPrecision
  obtain ⟨places, text, isLength, plain, isText⟩ := fixedPoint_isPlain x count
  have isShown : shownFixed x count = rounded := by
    unfold shownFixed
    rw [DigitString.value_ofNumber isFinite]
  rw [isShown] at plain isText
  simp only [isBelowZero_iff isFinite] at isText
  have isSign : sign = [] ∨ sign = ['-'] := by
    unfold sign
    split
    · exact .inr rfl
    · exact .inl rfl
  obtain ⟨first, others, isGrouping, isGrouped⟩ := plain.exists_grouping isSign
  have isCount : count = precision.getD 2 := (isUsual 2).symm
  refine ⟨places, text, first, others, isLength, plain, isGrouping, ?_, ?_⟩
  · intro letter isLetter
    have isFixed :
        formatFinite x letter precision = .ok (fixedPoint x count) := by
      rw [isCount]
      rcases List.mem_pair.mp isLetter with rfl | rfl
      · rfl
      · rfl
    rw [formatted, isFixed, ← isText]
    rfl
  · intro letter isLetter
    have isGroupedFixed :
        formatFinite x letter precision =
          .ok (groupThousands (fixedPoint x count)) := by
      rw [isCount]
      rcases List.mem_pair.mp isLetter with rfl | rfl
      · rfl
      · rfl
    rw [formatted, isGroupedFixed, isText, isGrouped]
    rfl

/-- A number just below a tie is a tie in fifteen digits. It carries through all
of them into a new group. -/
theorem fixed_point_carries_into_new_group :
    let x : Binary64 := ⟨0xC12E847FFD70A3D7⟩
    x.finiteValue? = some (-(8589934549050327 / 8589934592)) ∧
      Specifier.IsPrecision ['2'] ∧
      formatNumber x "N2" = .ok "-1,000,000.00" ∧
      ∃ places text first others,
        places.length = 2 ∧
        IsPlain 1000000 places text ∧
        IsGrouping (Nat.toDigits 10 ⌊(1000000 : Rat)⌋₊) first others ∧
        formatNumber x "F2" = .ok (String.ofList (['-'] ++ text)) ∧
        formatNumber x "N2" =
          .ok (String.ofList (['-'] ++ [','].intercalate (first :: others) ++
            DigitString.withPoint places)) := by
  intro x
  have isFinite :
      x.finiteValue? = some (-(8589934549050327 / 8589934592)) := by
    decide +kernel
  have isPrecision : Specifier.IsPrecision ['2'] :=
    ⟨List.forall_mem_singleton.mpr rfl, by decide⟩
  have isRounded :
      nearestMultiple ((10 : Rat) ^ (-(2 : Nat) : Int))
        (significantDecimal 15 |-(8589934549050327 / 8589934592)|) =
          1000000 := by
    decide +kernel
  have isNegative :
      -(8589934549050327 / 8589934592 : Rat) < 0 ∧ (1000000 : Rat) ≠ 0 := by
    decide +kernel
  have count : Specifier.precisionOr 2 ['2'] = 2 := by
    decide
  obtain ⟨places, text, first, others, isLength, plain, isGrouping, fixed,
    grouped⟩ := fixed_point_rounds_significant_digits isFinite isPrecision
  rw [count] at isLength
  rw [count, isRounded] at plain isGrouping
  have shown := fixed 'F' List.mem_cons_self
  have shownGroups := grouped 'N' List.mem_cons_self
  rw [count, isRounded, if_pos isNegative] at shown shownGroups
  exact ⟨isFinite, isPrecision, by decide +kernel, places, text, first, others,
    isLength, plain, isGrouping, shown, shownGroups⟩

end Phrasebook
