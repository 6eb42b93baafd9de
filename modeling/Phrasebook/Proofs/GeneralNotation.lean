import Phrasebook.Proofs.ScientificNotation

/-!
# General notation

A number is written with a given number of significant digits, in scientific
notation when its exponent after rounding is small or does not leave room for
the point, and in plain notation otherwise. Zeros at the end of the places are
left out in either notation.
-/

namespace Phrasebook

section General

open DigitString

variable {x : Binary64} {value rounded : Rat} {count : Nat}

/-- Behind the first digit stand the places that are not dropped. -/
theorem exists_scientificDigits_general
    (isFinite : x.finiteValue? = some value) (someDigits : 0 < count)
    (isRounded :
      rounded = roundedDecimal count (significantDecimal 15 |value|))
    (isFar : Int.log 10 rounded < -5 ∨ count ≤ Int.log 10 rounded)
    (letter : Char) :
    ∃ first places, (digitText places).getLast? ≠ some '0' ∧
      ScientificDigits rounded first places ∧
      generalNotation x count letter =
        (if value < 0 then ['-'] else []) ++
          exponentForm (digitText [first] ++ withPoint (digitText places))
            (Int.log 10 rounded) letter 2 := by
  have normal := normal_roundAt (normal_ofNumber x) count
  have exponent := normal.exponent_eq_log
  have zeros (index : Int) (isBehind : ((count - 1 : Nat) : Int) + 1 ≤ index) :
      ((ofNumber x).roundAt count).digitAt index = 0 :=
    digitAt_roundAt someDigits (by omega)
  have scientific := normal.scientificDigits zeros
  rw [value_rounded isFinite, ← isRounded] at scientific exponent
  refine ⟨_, _, getLast?_digitText_rdropWhile (shownDigits_lt normal.proper),
    scientific.trimmed, ?_⟩
  unfold generalNotation
  dsimp only
  rw [exponent, if_pos isFar, signed_rounded isFinite someDigits,
    exponentForm_append, mantissa_eq,
    trimFraction_withPoint (List.cons_ne_nil _ _) scientific.areDigits]

/-- There are as many digits behind the point as the exponent leaves over. -/
theorem exists_plainDigits_general
    (isFinite : x.finiteValue? = some value) (someDigits : 0 < count)
    (isRounded :
      rounded = roundedDecimal count (significantDecimal 15 |value|))
    (isNear : ¬ (Int.log 10 rounded < -5 ∨ count ≤ Int.log 10 rounded))
    (letter : Char) :
    ∃ whole places, (digitText places).getLast? ≠ some '0' ∧
      PlainDigits rounded whole places ∧
      generalNotation x count letter =
        (if value < 0 then ['-'] else []) ++
          (digitText whole ++ withPoint (digitText places)) := by
  have normal := normal_roundAt (normal_ofNumber x) count
  have exponent := normal.exponent_eq_log
  rw [value_rounded isFinite, ← isRounded] at exponent
  have zeros (index : Int)
      (isBehind :
        ((ofNumber x).roundAt count).point +
          ((count - 1 - Int.log 10 rounded).toNat : Int) ≤ index) :
      ((ofNumber x).roundAt count).digitAt index = 0 := by
    by_cases isZero : ((ofNumber x).roundAt count).isZero
    · exact digitAt_of_isZero isZero index
    · unfold DigitString.exponent at exponent
      rw [if_neg isZero] at exponent
      exact digitAt_roundAt someDigits (by omega)
  have plain := normal.plainDigits zeros
  rw [value_rounded isFinite, ← isRounded] at plain
  refine ⟨_, _, getLast?_digitText_rdropWhile (shownDigits_lt normal.proper),
    plain.trimmed, ?_⟩
  unfold generalNotation
  dsimp only
  rw [exponent, if_neg isNear, signed_rounded isFinite someDigits, fixed_eq,
    trimFraction_withPoint plain.someWhole plain.areDigits]

end General

theorem IsScientific.mark_mem
    {q : Rat} {mark first : Char} {width : Nat} {places text : List Char}
    (scientific : IsScientific q mark width first places text) :
    mark ∈ text := by
  rw [scientific.isText]
  exact List.mem_append_right _ List.mem_cons_self

/-- General notation shows the fifteen significant digits of a number rounded to
`count` of them. The exponent after rounding decides which notation it is, and
the places of neither end in a zero. -/
theorem general_notation_rounds_significant_digits
    {x : Binary64} {value : Rat} {letter : Char} {digits : List Char}
    (isFinite : x.finiteValue? = some value)
    (isPrecision : Specifier.IsPrecision digits)
    (someDigits : 0 < Specifier.precisionOr 0 digits)
    (isLetter : letter ∈ ['G', 'g']) :
    let count := Specifier.precisionOr 0 digits
    let rounded := roundedDecimal count (significantDecimal 15 |value|)
    let exponent := Int.log 10 rounded
    let mark := if letter = 'G' then 'E' else 'e'
    let sign := if value < 0 then ['-'] else []
    ∃ places text,
      places.getLast? ≠ some '0' ∧
      (mark ∈ text ↔ exponent < -5 ∨ count ≤ exponent) ∧
      (exponent < -5 ∨ count ≤ exponent →
        ∃ first, first ≠ '0' ∧
          IsScientific rounded mark 2 first places text) ∧
      (¬ (exponent < -5 ∨ count ≤ exponent) →
        IsPlain rounded places text) ∧
      formatNumber x (String.ofList (letter :: digits)) =
        .ok (String.ofList (sign ++ text)) := by
  intro count rounded exponent mark sign
  obtain ⟨precision, isUsual, formatted⟩ :=
    Specifier.formatNumber_of_isPrecision
      (Binary64.isFinite_of_value isFinite) isPrecision
  have isCount : count = precision.getD 0 := (isUsual 0).symm
  have isMark : mark = if letter.isUpper then 'E' else 'e' := by
    rcases List.mem_pair.mp isLetter with rfl | rfl
    · rfl
    · rfl
  have isNotation :
      formatFinite x letter precision =
        .ok (generalNotation x count letter) := by
    have notDefault : precision.getD 0 ≠ 0 := by
      rw [← isCount]
      exact someDigits.ne'
    have general :
        formatFinite x letter precision =
          .ok (if precision.getD 0 = 0 then x.defaultText.toList
            else generalNotation x (precision.getD 0) letter) := by
      rcases List.mem_pair.mp isLetter with rfl | rfl
      · rfl
      · rfl
    rw [general, if_neg notDefault, isCount]
  have isRounded :
      rounded = roundedDecimal count (significantDecimal 15 |value|) :=
    rfl
  by_cases isFar : exponent < -5 ∨ count ≤ exponent
  · obtain ⟨first, places, notTrailing, scientific, isText⟩ :=
      exists_scientificDigits_general isFinite someDigits isRounded isFar letter
    have written := scientific.isScientific isMark 2
    refine ⟨_, _, notTrailing, iff_of_true written.mark_mem isFar, ?_,
      fun isNear => absurd isFar isNear, ?_⟩
    · intro _
      refine ⟨_, ?_, written⟩
      rw [Ne, written.leading]
      intro isZero
      have exponentZero : exponent = 0 := by
        unfold exponent
        rw [isZero, Int.log_zero_right]
      omega
    · rw [formatted, isNotation, isText]
      rfl
  · obtain ⟨whole, places, notTrailing, plain, isText⟩ :=
      exists_plainDigits_general isFinite someDigits isRounded isFar letter
    have written := plain.isPlain
    have noMark : mark ∉ digitText whole ++
        DigitString.withPoint (digitText places) := by
      unfold mark
      split
      · exact written.notMem (by decide) (by decide)
      · exact written.notMem (by decide) (by decide)
    refine ⟨_, _, notTrailing, iff_of_false noMark isFar,
      fun far => absurd far isFar, fun _ => written, ?_⟩
    rw [formatted, isNotation, isText]
    rfl

/-- Three digits leave room for the point in front of rounding and none behind
it. -/
theorem general_notation_switches_after_rounding :
    let x : Binary64 := ⟨0xC08F3C0000000000⟩
    x.finiteValue? = some (-(1999 / 2)) ∧
      Specifier.IsPrecision ['3'] ∧
      0 < Specifier.precisionOr 0 ['3'] ∧
      'G' ∈ ['G', 'g'] ∧
      formatNumber x "G3" = .ok "-1E+03" ∧
      ∃ first places text,
        places.getLast? ≠ some '0' ∧
        first ≠ '0' ∧
        IsScientific 1000 'E' 2 first places text ∧
        formatNumber x "G3" = .ok (String.ofList (['-'] ++ text)) := by
  intro x
  have isFinite : x.finiteValue? = some (-(1999 / 2)) := by
    decide +kernel
  have isPrecision : Specifier.IsPrecision ['3'] :=
    ⟨List.forall_mem_singleton.mpr rfl, by decide⟩
  have someDigits : 0 < Specifier.precisionOr 0 ['3'] := by
    decide
  have isLetter : 'G' ∈ ['G', 'g'] :=
    List.mem_cons_self
  have isRounded :
      roundedDecimal 3 (significantDecimal 15 |-(1999 / 2)|) = 1000 := by
    decide +kernel
  have isFar : Int.log 10 (1000 : Rat) < -5 ∨ 3 ≤ Int.log 10 (1000 : Rat) := by
    decide +kernel
  have isNegative : -(1999 / 2 : Rat) < 0 := by
    decide +kernel
  have count : Specifier.precisionOr 0 ['3'] = 3 := by
    decide
  obtain ⟨places, text, notTrailing, _, scientific, _, formatted⟩ :=
    general_notation_rounds_significant_digits isFinite isPrecision someDigits
      isLetter
  rw [count, isRounded] at scientific
  rw [if_pos isNegative] at formatted
  obtain ⟨first, notZero, written⟩ := scientific isFar
  exact ⟨isFinite, isPrecision, someDigits, isLetter, by decide +kernel, first,
    places, text, notTrailing, notZero, written, formatted⟩

end Phrasebook
