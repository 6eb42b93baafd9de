import Phrasebook.Proofs.FixedPoint

/-!
# Scientific notation

A number is written with one digit in front of the point, after its fifteen
significant digits were rounded to as many as are shown. A carry makes the
exponent one larger and leaves the digits a one in front of zeros, so the text
denotes what was rounded in any case.
-/

namespace Phrasebook

theorem exponentForm_append
    (sign mantissa : List Char) (exponent : Int) (letter : Char) (width : Nat) :
    exponentForm (sign ++ mantissa) exponent letter width =
      sign ++ exponentForm mantissa exponent letter width := by
  rw [exponentForm_eq, exponentForm_eq, List.append_assoc]

theorem eq_replicate_of_ofDigits_eq_zero
    {digits : List Nat} (isZero : ofDigits 10 digits = 0) :
    digits = List.replicate digits.length 0 := by
  induction digits with
  | nil =>
      rfl
  | cons digit rest inductionHypothesis =>
      rw [ofDigits_cons, Nat.add_eq_zero_iff, Nat.mul_eq_zero] at isZero
      have powerPositive : 10 ^ rest.length ≠ 0 :=
        (Nat.pow_pos (by decide)).ne'
      rw [isZero.1.resolve_right powerPositive, List.length_cons,
        List.replicate_succ, ← inductionHypothesis isZero.2]

/-- All digits of zero are zeros, and so is its exponent. -/
theorem ScientificDigits.text_of_zero
    {first : Nat} {places : List Nat}
    (scientific : ScientificDigits 0 first places) {mark letter : Char}
    (isMark : mark = if letter.isUpper then 'E' else 'e') :
    exponentForm (digitText [first] ++
          DigitString.withPoint (digitText places))
        (Int.log 10 (0 : Rat)) letter 3 =
      '0' :: DigitString.withPoint (List.replicate places.length '0') ++
        [mark, '+', '0', '0', '0'] := by
  have denotes := scientific.denotes
  have powerPositive :
      (10 : Rat) ^ (Int.log 10 (0 : Rat) - (places.length : Int)) ≠ 0 :=
    (zpow_pos (by norm_num) _).ne'
  have noDigits := (mul_eq_zero.mp denotes).resolve_right powerPositive
  have zeros := eq_replicate_of_ofDigits_eq_zero (by exact_mod_cast noDigits)
  rw [List.length_cons, List.replicate_succ, List.cons.injEq] at zeros
  have isPlaces :
      digitText places = List.replicate places.length '0' := by
    rw [zeros.2]
    simp [digitText]
  rw [exponentForm_eq, ← isMark, isPlaces, zeros.1, Int.log_zero_right]
  rfl

/-! ## Numbers rounded to digits -/

section Rounded

open DigitString

variable {x : Binary64} {value rounded : Rat} {count : Nat}

theorem value_rounded
    (isFinite : x.finiteValue? = some value) (count : Nat) :
    ((ofNumber x).roundAt count).value =
      roundedDecimal count (significantDecimal 15 |value|) := by
  rw [(normal_ofNumber x).value_roundAt, value_ofNumber isFinite]

/-- A number that is not zero keeps its sign, because its first digit is
kept. -/
theorem signed_rounded
    (isFinite : x.finiteValue? = some value) (someDigits : 0 < count)
    (text : List Char) :
    ((ofNumber x).roundAt count).signed x.isBelowZero text =
      (if value < 0 then ['-'] else []) ++ text := by
  have normal := normal_roundAt (normal_ofNumber x) count
  have isSign :
      (x.isBelowZero ∧ ((ofNumber x).roundAt count).value ≠ 0) ↔ value < 0 := by
    rw [isBelowZero_iff isFinite, value_rounded isFinite, Ne,
      roundedDecimal_eq_zero_iff someDigits]
    exact and_iff_left_of_imp fun isNegative => isNegative.ne
  rw [normal.signed_eq]
  simp only [isSign]

theorem exists_scientificDigits
    (isFinite : x.finiteValue? = some value)
    (isRounded :
      rounded = roundedDecimal (count + 1) (significantDecimal 15 |value|))
    (letter : Char) :
    ∃ first places, places.length = count ∧
      ScientificDigits rounded first places ∧
      scientificNotation x count letter =
        (if value < 0 then ['-'] else []) ++
          exponentForm (digitText [first] ++ withPoint (digitText places))
            (Int.log 10 rounded) letter 3 := by
  have normal := normal_roundAt (normal_ofNumber x) (count + 1 : Nat)
  have scientific := normal.scientificDigits fun _ isBehind =>
    digitAt_roundAt (Nat.succ_pos count) (by exact_mod_cast isBehind)
  have exponent := normal.exponent_eq_log
  rw [value_rounded isFinite, ← isRounded] at scientific exponent
  refine ⟨_, _, length_shownDigits, scientific, ?_⟩
  unfold scientificNotation
  dsimp only
  rw [← Nat.cast_succ, signed_rounded isFinite (Nat.succ_pos count),
    exponentForm_append, exponent]
  rfl

end Rounded

/-- Scientific notation shows the fifteen significant digits of a number rounded
to one digit and the places, and zero as zeros. -/
theorem scientific_notation_rounds_significant_digits
    {x : Binary64} {value : Rat} {letter : Char} {digits : List Char}
    (isFinite : x.finiteValue? = some value)
    (isPrecision : Specifier.IsPrecision digits)
    (isLetter : letter ∈ ['E', 'e']) :
    let count := Specifier.precisionOr 6 digits
    let rounded := roundedDecimal (count + 1) (significantDecimal 15 |value|)
    let sign := if value < 0 then ['-'] else []
    ∃ first places text,
      places.length = count ∧
      IsScientific rounded letter 3 first places text ∧
      (first = '0' ↔ value = 0) ∧
      (value = 0 →
        text = '0' :: DigitString.withPoint (List.replicate count '0') ++
          [letter, '+', '0', '0', '0']) ∧
      formatNumber x (String.ofList (letter :: digits)) =
        .ok (String.ofList (sign ++ text)) := by
  intro count rounded sign
  obtain ⟨precision, isUsual, formatted⟩ :=
    Specifier.formatNumber_of_isPrecision
      (Binary64.isFinite_of_value isFinite) isPrecision
  have isCount : count = precision.getD 6 := (isUsual 6).symm
  have isMark : letter = if letter.isUpper then 'E' else 'e' := by
    rcases List.mem_pair.mp isLetter with rfl | rfl
    · rfl
    · rfl
  have isNotation :
      formatFinite x letter precision =
        .ok (scientificNotation x count letter) := by
    rw [isCount]
    rcases List.mem_pair.mp isLetter with rfl | rfl
    · rfl
    · rfl
  have isZero : rounded = 0 ↔ value = 0 :=
    roundedDecimal_eq_zero_iff (Nat.succ_pos count)
  have isRounded :
      rounded = roundedDecimal (count + 1) (significantDecimal 15 |value|) :=
    rfl
  clear_value rounded
  obtain ⟨first, places, isLength, scientific, isText⟩ :=
    exists_scientificDigits isFinite isRounded letter
  have written := scientific.isScientific isMark 3
  refine ⟨_, _, _, ?_, written, written.leading.trans isZero, ?_, ?_⟩
  · unfold digitText
    rw [List.length_map, isLength]
  · intro valueZero
    have roundedZero := isZero.mpr valueZero
    subst roundedZero
    rw [scientific.text_of_zero isMark, isLength]
  · rw [formatted, isNotation, isText]
    rfl

/-- A tie in fifteen digits carries out of the leading digit, and the exponent
is that of the rounded number. -/
theorem scientific_notation_carries_into_exponent :
    let x : Binary64 := ⟨0xC023FD70A3D70A3D⟩
    x.finiteValue? = some (-(5626684784446013 / 562949953421312)) ∧
      Specifier.IsPrecision ['2'] ∧
      'e' ∈ ['E', 'e'] ∧
      formatNumber x "e2" = .ok "-1.00e+001" ∧
      ∃ first places text,
        places.length = 2 ∧
        IsScientific 10 'e' 3 first places text ∧
        first ≠ '0' ∧
        formatNumber x "e2" = .ok (String.ofList (['-'] ++ text)) := by
  intro x
  have isFinite :
      x.finiteValue? = some (-(5626684784446013 / 562949953421312)) := by
    decide +kernel
  have isPrecision : Specifier.IsPrecision ['2'] :=
    ⟨List.forall_mem_singleton.mpr rfl, by decide⟩
  have isLetter : 'e' ∈ ['E', 'e'] := by
    decide
  have isRounded :
      roundedDecimal (2 + 1)
        (significantDecimal 15 |-(5626684784446013 / 562949953421312)|) =
          10 := by
    decide +kernel
  have isNegative : -(5626684784446013 / 562949953421312 : Rat) < 0 := by
    decide +kernel
  have count : Specifier.precisionOr 6 ['2'] = 2 := by
    decide
  obtain ⟨first, places, text, isLength, written, leading, _, formatted⟩ :=
    scientific_notation_rounds_significant_digits isFinite isPrecision isLetter
  rw [count] at isLength
  rw [count, isRounded] at written
  rw [if_pos isNegative] at formatted
  exact ⟨isFinite, isPrecision, isLetter, by decide +kernel, first, places,
    text, isLength, written, fun isZero => isNegative.ne (leading.mp isZero),
    formatted⟩

end Phrasebook
