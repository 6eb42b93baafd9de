import Phrasebook.Proofs.FixedPoint

/-!
# Integer notations

Decimal and hexadecimal integers are padded with zeros and lose nothing: a text
reads back as the integer it was written from. So no two numbers have the same
text under one specifier.
-/

namespace Phrasebook

/-! ## Reading integers -/

def readInteger? : List Char → Option Int
  | '-' :: digits => (readDigits? digits).map fun (n : Nat) => -(n : Int)
  | digits => (readDigits? digits).map fun (n : Nat) => (n : Int)

def hexadecimalDigit? (c : Char) : Option Nat :=
  if c.isDigit then some (c.toNat - '0'.toNat)
  else if 'a' ≤ c ∧ c ≤ 'f' then some (c.toNat - 'a'.toNat + 10)
  else if 'A' ≤ c ∧ c ≤ 'F' then some (c.toNat - 'A'.toNat + 10)
  else none

def readHexadecimal? (text : List Char) : Option Nat :=
  if text = [] then none
  else (text.mapM hexadecimalDigit?).map (ofDigits 16)

theorem hexadecimalDigit?_digitChar
    {digit : Nat} (isSmall : digit < 16) :
    hexadecimalDigit? digit.digitChar = some digit ∧
      hexadecimalDigit? digit.digitChar.toUpper = some digit := by
  decide +revert

theorem mapM_map_eq_some
    {digits : List Nat} {write : Nat → Char} {read : Char → Option Nat}
    (readsBack : ∀ digit ∈ digits, read (write digit) = some digit) :
    (digits.map write).mapM read = some digits := by
  induction digits with
  | nil =>
      rfl
  | cons digit digits inductionHypothesis =>
      rw [List.forall_mem_cons] at readsBack
      rw [List.map_cons, List.mapM_cons, readsBack.1,
        inductionHypothesis readsBack.2]
      rfl

theorem readHexadecimal?_map
    {digits : List Nat} {write : Nat → Char} (someDigits : digits ≠ [])
    (readsBack : ∀ digit ∈ digits,
      hexadecimalDigit? (write digit) = some digit) :
    readHexadecimal? (digits.map write) = some (ofDigits 16 digits) := by
  unfold readHexadecimal?
  rw [if_neg (by simpa using someDigits), mapM_map_eq_some readsBack]
  rfl

/-! ## Writing integers -/

theorem paddedInteger_eq (n : Int) (width : Nat) :
    paddedInteger n width =
      (if n < 0 then ['-'] else []) ++
        (Nat.toDigits 10 n.natAbs).leftpad width '0' := by
  unfold paddedInteger
  rw [numeral_eq_leftpad (by decide)]
  split <;> rfl

theorem readInteger?_paddedInteger (n : Int) (width : Nat) :
    readInteger? (paddedInteger n width) = some n := by
  have isRead := readDigits?_numeral width n.natAbs
  unfold paddedInteger
  dsimp only
  by_cases isNegative : n < 0
  · rw [if_pos isNegative]
    change (readDigits? (numeral 10 width n.natAbs)).map
      (fun (count : Nat) => -(count : Int)) = some n
    rw [isRead, Option.map_some, Int.ofNat_natAbs_of_nonpos isNegative.le,
      neg_neg]
  · rw [if_neg isNegative]
    have areDigits := (readDigits?_eq_some_iff.mp isRead).2.1
    unfold readInteger?
    split
    · rename_i digits isMinus
      rw [isMinus] at areDigits
      have isDigit := areDigits '-' List.mem_cons_self
      cases isDigit
    · rw [isRead, Option.map_some,
        Int.natAbs_of_nonneg (Int.not_lt.mp isNegative)]

theorem paddedInteger_injective (width : Nat) :
    Function.Injective fun n : Int => paddedInteger n width := by
  intro n m sameText
  have isRead := congrArg readInteger? sameText
  rw [readInteger?_paddedInteger, readInteger?_paddedInteger] at isRead
  exact Option.some.inj isRead

theorem hexadecimal_eq (n width : Nat) (letter : Char) :
    hexadecimal n width letter =
      ((Nat.toDigits 16 n).leftpad width '0').map
        (if letter.isUpper then Char.toUpper else id) := by
  unfold hexadecimal
  rw [numeral_eq_leftpad (by decide)]
  by_cases isUpper : letter.isUpper
  · rw [if_pos isUpper, if_pos isUpper]
  · rw [if_neg isUpper, if_neg isUpper, List.map_id]

theorem readHexadecimal?_hexadecimal (n width : Nat) (letter : Char) :
    readHexadecimal? (hexadecimal n width letter) = some n := by
  have counted := digitCount_pos 16 n
  have isNumber := ofDigits_digitsOf_max (by decide : 2 ≤ 16) width n
  have areDigits :
      ∀ digit ∈ digitsOf 16 (max width (digitCount 16 n)) n, digit < 16 :=
    digitsOf_lt (by decide)
  have isLength := length_digitsOf 16 (max width (digitCount 16 n)) n
  unfold hexadecimal numeral digitText
  generalize digitsOf 16 (max width (digitCount 16 n)) n = digits at *
  have someDigits : digits ≠ [] := by
    rintro rfl
    rw [List.length_nil] at isLength
    omega
  rw [← isNumber]
  split
  · rw [List.map_map]
    exact readHexadecimal?_map someDigits fun digit isMember =>
      (hexadecimalDigit?_digitChar (areDigits digit isMember)).2
  · exact readHexadecimal?_map someDigits fun digit isMember =>
      (hexadecimalDigit?_digitChar (areDigits digit isMember)).1

theorem hexadecimal_injective (width : Nat) (letter : Char) :
    Function.Injective fun n : Nat => hexadecimal n width letter := by
  intro n m sameText
  have isRead := congrArg readHexadecimal? sameText
  rw [readHexadecimal?_hexadecimal, readHexadecimal?_hexadecimal] at isRead
  exact Option.some.inj isRead

/-! ## Numbers that are integers -/

section Formatting

variable {x : Binary64} {value : Rat} {letter : Char} {digits : List Char}

theorem formatNumber_decimal
    (isFinite : x.finiteValue? = some value)
    (isPrecision : Specifier.IsPrecision digits)
    (isLetter : letter ∈ ['D', 'd']) :
    formatNumber x (String.ofList (letter :: digits)) =
      match x.toInt64? with
      | none => .error (.notIntegral letter x)
      | some n => .ok (String.ofList
          (paddedInteger n (Specifier.precisionOr 0 digits))) := by
  obtain ⟨precision, isUsual, formatted⟩ :=
    Specifier.formatNumber_of_isPrecision
      (Binary64.isFinite_of_value isFinite) isPrecision
  have isNotation :
      formatFinite x letter precision =
        match x.toInt64? with
        | none => .error (.notIntegral letter x)
        | some n => .ok (paddedInteger n (precision.getD 0)) := by
    rcases List.mem_pair.mp isLetter with rfl | rfl
    · rfl
    · rfl
  rw [formatted, isNotation, ← isUsual 0]
  cases x.toInt64? <;> rfl

theorem formatNumber_hexadecimal
    (isFinite : x.finiteValue? = some value)
    (isPrecision : Specifier.IsPrecision digits)
    (isLetter : letter ∈ ['X', 'x']) :
    formatNumber x (String.ofList (letter :: digits)) =
      match x.toInt64? with
      | none => .error (.notIntegral letter x)
      | some n =>
          if n < 0 then .error .negativeHexadecimal
          else .ok (String.ofList
            (hexadecimal n.toNat (Specifier.precisionOr 0 digits) letter)) := by
  obtain ⟨precision, isUsual, formatted⟩ :=
    Specifier.formatNumber_of_isPrecision
      (Binary64.isFinite_of_value isFinite) isPrecision
  have isNotation :
      formatFinite x letter precision =
        match x.toInt64? with
        | none => .error (.notIntegral letter x)
        | some n =>
            if n < 0 then .error .negativeHexadecimal
            else .ok (hexadecimal n.toNat (precision.getD 0) letter) := by
    rcases List.mem_pair.mp isLetter with rfl | rfl
    · rfl
    · rfl
  rw [formatted, isNotation, ← isUsual 0]
  cases x.toInt64? with
  | none =>
      rfl
  | some n =>
      dsimp only
      split <;> rfl

/-- A text is written for an integer of sixty-four bits and for nothing else. -/
theorem formatNumber_decimal_eq_ok_iff
    (isFinite : x.finiteValue? = some value)
    (isPrecision : Specifier.IsPrecision digits)
    (isLetter : letter ∈ ['D', 'd']) (text : List Char) :
    formatNumber x (String.ofList (letter :: digits)) =
        .ok (String.ofList text) ↔
      ∃ n : Int, value = n ∧ -2 ^ 63 ≤ n ∧ n < 2 ^ 63 ∧
        text = paddedInteger n (Specifier.precisionOr 0 digits) := by
  rw [formatNumber_decimal isFinite isPrecision isLetter]
  constructor
  · intro formatted
    split at formatted
    · cases formatted
    · rename_i n isInteger
      obtain ⟨isValue, lower, upper⟩ :=
        Specifier.toInt64?_eq_some_iff.mp isInteger
      rw [isFinite] at isValue
      have sameText := String.ofList_injective (Except.ok.inj formatted)
      exact ⟨n, Option.some.inj isValue, lower, upper, sameText.symm⟩
  · rintro ⟨n, isValue, lower, upper, rfl⟩
    have isInteger : x.toInt64? = some n :=
      Specifier.toInt64?_eq_some_iff.mpr
        ⟨isFinite.trans (congrArg some isValue), lower, upper⟩
    rw [isInteger]

theorem formatNumber_hexadecimal_eq_ok_iff
    (isFinite : x.finiteValue? = some value)
    (isPrecision : Specifier.IsPrecision digits)
    (isLetter : letter ∈ ['X', 'x']) (text : List Char) :
    formatNumber x (String.ofList (letter :: digits)) =
        .ok (String.ofList text) ↔
      ∃ n : Nat, value = n ∧ n < 2 ^ 63 ∧
        text = hexadecimal n (Specifier.precisionOr 0 digits) letter := by
  rw [formatNumber_hexadecimal isFinite isPrecision isLetter]
  constructor
  · intro formatted
    split at formatted
    · cases formatted
    · rename_i n isInteger
      obtain ⟨isValue, _, upper⟩ :=
        Specifier.toInt64?_eq_some_iff.mp isInteger
      rw [isFinite] at isValue
      split at formatted
      · cases formatted
      · rename_i notNegative
        obtain ⟨count, rfl⟩ :=
          Int.eq_ofNat_of_zero_le (Int.not_lt.mp notNegative)
        have sameText := String.ofList_injective (Except.ok.inj formatted)
        exact ⟨count, Option.some.inj isValue, by omega, sameText.symm⟩
  · rintro ⟨n, isValue, upper, rfl⟩
    have isInteger : x.toInt64? = some (n : Int) :=
      Specifier.toInt64?_eq_some_iff.mpr
        ⟨isFinite.trans (congrArg some isValue), by omega, by omega⟩
    rw [isInteger]
    dsimp only
    rw [if_neg (by omega), Int.toNat_natCast]

theorem exists_formatNumber_decimal_iff
    (isFinite : x.finiteValue? = some value)
    (isPrecision : Specifier.IsPrecision digits)
    (isLetter : letter ∈ ['D', 'd']) :
    (∃ text, formatNumber x (String.ofList (letter :: digits)) = .ok text) ↔
      ∃ n : Int, value = n ∧ -2 ^ 63 ≤ n ∧ n < 2 ^ 63 := by
  have described :=
    formatNumber_decimal_eq_ok_iff isFinite isPrecision isLetter
  constructor
  · rintro ⟨text, formatted⟩
    rw [← String.ofList_toList (s := text)] at formatted
    obtain ⟨n, isValue, lower, upper, -⟩ := (described _).mp formatted
    exact ⟨n, isValue, lower, upper⟩
  · rintro ⟨n, isValue, lower, upper⟩
    exact ⟨_, (described _).mpr ⟨n, isValue, lower, upper, rfl⟩⟩

theorem exists_formatNumber_hexadecimal_iff
    (isFinite : x.finiteValue? = some value)
    (isPrecision : Specifier.IsPrecision digits)
    (isLetter : letter ∈ ['X', 'x']) :
    (∃ text, formatNumber x (String.ofList (letter :: digits)) = .ok text) ↔
      ∃ n : Int, value = n ∧ 0 ≤ n ∧ n < 2 ^ 63 := by
  have described :=
    formatNumber_hexadecimal_eq_ok_iff isFinite isPrecision isLetter
  constructor
  · rintro ⟨text, formatted⟩
    rw [← String.ofList_toList (s := text)] at formatted
    obtain ⟨n, isValue, upper, -⟩ := (described _).mp formatted
    exact ⟨n, isValue, by omega, by omega⟩
  · rintro ⟨n, isValue, lower, upper⟩
    obtain ⟨count, rfl⟩ := Int.eq_ofNat_of_zero_le lower
    exact ⟨_, (described _).mpr ⟨count, isValue, by omega, rfl⟩⟩

/-- Different values have different decimal texts under one specifier. -/
theorem decimal_value_unique
    {y : Binary64} {other : Rat} {text : List Char}
    (isFinite : x.finiteValue? = some value)
    (isOther : y.finiteValue? = some other)
    (isPrecision : Specifier.IsPrecision digits)
    (isLetter : letter ∈ ['D', 'd'])
    (formatted : formatNumber x (String.ofList (letter :: digits)) =
      .ok (String.ofList text))
    (formattedOther : formatNumber y (String.ofList (letter :: digits)) =
      .ok (String.ofList text)) :
    value = other := by
  obtain ⟨n, rfl, -, -, isText⟩ :=
    (formatNumber_decimal_eq_ok_iff isFinite isPrecision isLetter text).mp
      formatted
  obtain ⟨m, rfl, -, -, isTextOther⟩ :=
    (formatNumber_decimal_eq_ok_iff isOther isPrecision isLetter text).mp
      formattedOther
  have sameInteger := paddedInteger_injective _ (isText.symm.trans isTextOther)
  rw [sameInteger]

/-- Different values have different hexadecimal texts under one specifier. -/
theorem hexadecimal_value_unique
    {y : Binary64} {other : Rat} {text : List Char}
    (isFinite : x.finiteValue? = some value)
    (isOther : y.finiteValue? = some other)
    (isPrecision : Specifier.IsPrecision digits)
    (isLetter : letter ∈ ['X', 'x'])
    (formatted : formatNumber x (String.ofList (letter :: digits)) =
      .ok (String.ofList text))
    (formattedOther : formatNumber y (String.ofList (letter :: digits)) =
      .ok (String.ofList text)) :
    value = other := by
  obtain ⟨n, rfl, -, isText⟩ :=
    (formatNumber_hexadecimal_eq_ok_iff isFinite isPrecision isLetter
      text).mp formatted
  obtain ⟨m, rfl, -, isTextOther⟩ :=
    (formatNumber_hexadecimal_eq_ok_iff isOther isPrecision isLetter
      text).mp formattedOther
  have sameNumber := hexadecimal_injective _ letter
    (isText.symm.trans isTextOther)
  rw [sameNumber]

end Formatting

/-- Each notation is written for the integers in its range and for nothing else.
It reads back as what was written, so two numbers with one text are equal. -/
theorem integer_notations_are_lossless
    {x : Binary64} {value : Rat} {digits : List Char}
    (isFinite : x.finiteValue? = some value)
    (isPrecision : Specifier.IsPrecision digits) :
    let width := Specifier.precisionOr 0 digits
    (∀ letter ∈ ['D', 'd'],
      ((∃ text, formatNumber x (String.ofList (letter :: digits)) = .ok text) ↔
        ∃ n : Int, value = n ∧ -2 ^ 63 ≤ n ∧ n < 2 ^ 63) ∧
      ∀ text,
        formatNumber x (String.ofList (letter :: digits)) =
            .ok (String.ofList text) →
          ∃ n : Int, value = n ∧ readInteger? text = some n ∧
            text = (if n < 0 then ['-'] else []) ++
              (Nat.toDigits 10 n.natAbs).leftpad width '0') ∧
    (∀ letter ∈ ['X', 'x'],
      ((∃ text, formatNumber x (String.ofList (letter :: digits)) = .ok text) ↔
        ∃ n : Int, value = n ∧ 0 ≤ n ∧ n < 2 ^ 63) ∧
      ∀ text,
        formatNumber x (String.ofList (letter :: digits)) =
            .ok (String.ofList text) →
          ∃ n : Nat, value = n ∧ readHexadecimal? text = some n ∧
            text = ((Nat.toDigits 16 n).leftpad width '0').map
              (if letter.isUpper then Char.toUpper else id)) ∧
    ∀ letter ∈ ['D', 'd', 'X', 'x'], ∀ y other text,
      y.finiteValue? = some other →
      formatNumber x (String.ofList (letter :: digits)) = .ok text →
      formatNumber y (String.ofList (letter :: digits)) = .ok text →
      value = other := by
  intro width
  refine ⟨?_, ?_, ?_⟩
  · intro letter isLetter
    refine ⟨exists_formatNumber_decimal_iff isFinite isPrecision isLetter, ?_⟩
    intro text formatted
    obtain ⟨n, isValue, -, -, rfl⟩ :=
      (formatNumber_decimal_eq_ok_iff isFinite isPrecision isLetter text).mp
        formatted
    exact ⟨n, isValue, readInteger?_paddedInteger n _, paddedInteger_eq n _⟩
  · intro letter isLetter
    refine
      ⟨exists_formatNumber_hexadecimal_iff isFinite isPrecision isLetter, ?_⟩
    intro text formatted
    obtain ⟨n, isValue, -, rfl⟩ :=
      (formatNumber_hexadecimal_eq_ok_iff isFinite isPrecision isLetter
        text).mp formatted
    exact ⟨n, isValue, readHexadecimal?_hexadecimal n _ letter,
      hexadecimal_eq n _ letter⟩
  · intro letter isLetter y other text isOther formatted formattedOther
    rw [← String.ofList_toList (s := text)] at formatted formattedOther
    have isEither : letter ∈ ['D', 'd'] ∨ letter ∈ ['X', 'x'] :=
      List.mem_append.mp isLetter
    rcases isEither with isDecimal | isHexadecimal
    · exact decimal_value_unique isFinite isOther isPrecision isDecimal
        formatted formattedOther
    · exact hexadecimal_value_unique isFinite isOther isPrecision
        isHexadecimal formatted formattedOther

/-- The least integer has no absolute value among the integers of sixty-four
bits. It is padded with zeros behind its sign, and has no hexadecimal text. -/
theorem least_integer_is_padded_behind_sign :
    let least : Binary64 := ⟨0xC3E0000000000000⟩
    least.finiteValue? = some (-9223372036854775808) ∧
      Specifier.IsPrecision ['2', '2'] ∧
      formatNumber least "D22" = .ok "-0009223372036854775808" ∧
      readInteger? "-0009223372036854775808".toList =
        some (-9223372036854775808) ∧
      ¬∃ text, formatNumber least "X22" = .ok text := by
  intro least
  have isFinite : least.finiteValue? = some (-9223372036854775808) := by
    decide +kernel
  have isPrecision : Specifier.IsPrecision ['2', '2'] :=
    ⟨List.forall_mem_cons.mpr ⟨rfl, List.forall_mem_singleton.mpr rfl⟩,
      by decide⟩
  have formatted :
      formatNumber least "D22" = .ok "-0009223372036854775808" := by
    decide +kernel
  obtain ⟨decimal, hexadecimal, -⟩ :=
    integer_notations_are_lossless isFinite isPrecision
  obtain ⟨n, isValue, isRead, -⟩ :=
    (decimal 'D' (by decide)).2 "-0009223372036854775808".toList formatted
  have isLeast : n = -9223372036854775808 := by
    exact_mod_cast isValue.symm
  have isRefused : ¬∃ text, formatNumber least "X22" = .ok text := by
    intro isWritten
    obtain ⟨count, isCount, isNatural, -⟩ :=
      (hexadecimal 'X' (by decide)).1.mp isWritten
    have isNegative : count = -9223372036854775808 := by
      exact_mod_cast isCount.symm
    omega
  exact ⟨isFinite, isPrecision, formatted, isLeast ▸ isRead, isRefused⟩

end Phrasebook
