import Mathlib.Data.List.DropRight
import Phrasebook.Number.Specifier
import Phrasebook.Proofs.SignificantDigits

/-!
# Notations of numbers

What it is to write a number in plain and in scientific notation, and which
digits do so. Digit strings are written in both notations, and trailing zeros
behind the point may be dropped.
-/

namespace Phrasebook

/-! ## Numerals -/

section Numerals

variable {base : Nat}

theorem leftpad_concat (width : Nat) (c pad : Char) (text : List Char) :
    (text ++ [c]).leftpad (width + 1) pad = text.leftpad width pad ++ [c] := by
  simp [List.leftpad]

/-- The last digit is split off the digits and off the padded text. -/
theorem digitText_digitsOf
    (notUnary : 2 ≤ base) {width n : Nat} (someDigits : 0 < width)
    (fits : n < base ^ width) :
    digitText (digitsOf base width n) =
      (Nat.toDigits base n).leftpad width '0' := by
  induction width generalizing n with
  | zero =>
      exact absurd someDigits (Nat.lt_irrefl 0)
  | succ width inductionHypothesis =>
      have split :
          digitText (digitsOf base (width + 1) n) =
            digitText (digitsOf base width (n / base)) ++
              [(n % base).digitChar] := by
        simp [digitText, digitsOf]
      rw [split]
      by_cases isLast : width = 0
      · subst isLast
        have isDigit : n < base := by
          simpa using fits
        rw [Nat.toDigits_of_lt_base isDigit, Nat.mod_eq_of_lt isDigit]
        rfl
      · have shorter : n / base < base ^ width := by
          rw [Nat.div_lt_iff_lt_mul (by omega), ← Nat.pow_succ]
          exact fits
        rw [inductionHypothesis (Nat.pos_of_ne_zero isLast) shorter]
        by_cases isDigit : n < base
        · obtain ⟨places, rfl⟩ := Nat.exists_eq_succ_of_ne_zero isLast
          rw [Nat.div_eq_of_lt isDigit, Nat.toDigits_of_lt_base isDigit,
            Nat.mod_eq_of_lt isDigit, Nat.toDigits_zero]
          simp [List.leftpad, List.replicate_succ']
        · rw [Nat.toDigits_of_base_le (by omega) (not_lt.mp isDigit),
            leftpad_concat]

theorem length_toDigits (notUnary : 2 ≤ base) (n : Nat) :
    (Nat.toDigits base n).length = digitCount base n := by
  have counted := digitCount_pos base n
  have below := lt_pow_digitCount notUnary n
  have written : 0 < (Nat.toDigits base n).length :=
    Nat.length_toDigits_pos
  refine le_antisymm ((Nat.length_toDigits_le_iff notUnary counted).mpr below) ?_
  exact digitCount_le_of_lt notUnary written
    ((Nat.length_toDigits_le_iff notUnary written).mp le_rfl)

/-- The digits of a numeral are enough for its number. -/
theorem lt_pow_max_digitCount (notUnary : 2 ≤ base) (width n : Nat) :
    n < base ^ max width (digitCount base n) :=
  (lt_pow_digitCount notUnary n).trans_le
    (Nat.pow_le_pow_right (by omega) (Nat.le_max_right _ _))

theorem ofDigits_digitsOf_max (notUnary : 2 ≤ base) (width n : Nat) :
    ofDigits base (digitsOf base (max width (digitCount base n)) n) = n := by
  rw [ofDigits_digitsOf,
    Nat.mod_eq_of_lt (lt_pow_max_digitCount notUnary width n)]

theorem numeral_eq_leftpad (notUnary : 2 ≤ base) (width n : Nat) :
    numeral base width n = (Nat.toDigits base n).leftpad width '0' := by
  have counted := digitCount_pos base n
  unfold numeral
  rw [digitText_digitsOf notUnary (by omega)
    (lt_pow_max_digitCount notUnary width n)]
  unfold List.leftpad
  rw [length_toDigits notUnary]
  congr 2
  omega

end Numerals

/-- Digits without a zero in front are those of the number they denote. -/
theorem digitText_eq_toDigits
    {first : Nat} {rest : List Nat} (notZero : first ≠ 0)
    (areDigits : ∀ digit ∈ first :: rest, digit < 10) :
    digitText (first :: rest) =
      Nat.toDigits 10 (ofDigits 10 (first :: rest)) := by
  induction rest using List.reverseRecOn with
  | nil =>
      have isDigit := areDigits first List.mem_cons_self
      have isFirst : ofDigits 10 [first] = first := by
        simp [ofDigits]
      rw [isFirst, Nat.toDigits_of_lt_base isDigit]
      rfl
  | append_singleton rest last inductionHypothesis =>
      rw [← List.cons_append, List.forall_mem_append] at areDigits
      have isDigit := areDigits.2 last (List.mem_singleton.mpr rfl)
      have isAbove := (pow_le_ofDigits_iff
        (List.forall_mem_cons.mp areDigits.1).2).mpr notZero
      have positive : 0 < ofDigits 10 (first :: rest) :=
        (Nat.pow_pos (by decide)).trans_le isAbove
      have isLast : ofDigits 10 [last] = last := by
        simp [ofDigits]
      have together := Nat.toDigits_append_toDigits (b := 10) (by decide)
        positive isDigit
      rw [Nat.toDigits_of_lt_base isDigit] at together
      rw [← List.cons_append, ofDigits_append, isLast, List.length_singleton,
        Nat.pow_one, Nat.mul_comm, ← together,
        ← inductionHypothesis areDigits.1]
      simp [digitText]

/-! ## Reading back -/

theorem readDigits?_numeral (width n : Nat) :
    readDigits? (numeral 10 width n) = some n := by
  have counted := digitCount_pos 10 n
  have areDigits :
      ∀ digit ∈ digitsOf 10 (max width (digitCount 10 n)) n, digit < 10 :=
    digitsOf_lt (by decide)
  refine readDigits?_eq_some_iff.mpr
    ⟨?_, isDigit_of_mem_digitText areDigits, ?_⟩
  · intro isEmpty
    have noDigits := congrArg List.length isEmpty
    simp [numeral, digitText] at noDigits
    omega
  · unfold numeral
    rw [map_digitValue_digitText areDigits,
      ofDigits_digitsOf_max (by decide)]

def exponentText (mark : Char) (width : Nat) (exponent : Int) : List Char :=
  mark :: (if exponent < 0 then '-' else '+') ::
    (Nat.toDigits 10 exponent.natAbs).leftpad width '0'

theorem exponentForm_eq
    (mantissa : List Char) (exponent : Int) (letter : Char) (width : Nat) :
    exponentForm mantissa exponent letter width =
      mantissa ++
        exponentText (if letter.isUpper then 'E' else 'e') width exponent := by
  unfold exponentForm exponentText
  rw [numeral_eq_leftpad (by decide)]

theorem readExponent?_exponentText
    {mark : Char} (isMark : mark = 'e' ∨ mark = 'E') (width : Nat)
    (exponent : Int) :
    readExponent? (exponentText mark width exponent) = some exponent := by
  unfold exponentText readExponent?
  dsimp only
  rw [if_pos isMark, ← numeral_eq_leftpad (by decide)]
  by_cases isNegative : exponent < 0
  · rw [if_pos isNegative]
    simp [spanSign, readDigits?_numeral, abs_of_neg isNegative]
  · rw [if_neg isNegative]
    simp [spanSign, readDigits?_numeral, abs_of_nonneg (not_lt.mp isNegative)]

/-- What is read as an exponent does not begin with a digit or a point. -/
theorem head_of_readExponent?
    {c : Char} {rest : List Char} {exponent : Int}
    (isRead : readExponent? (c :: rest) = some exponent) :
    ¬ c.isDigit ∧ c ≠ '.' := by
  by_cases isMark : c = 'e' ∨ c = 'E'
  · rcases isMark with rfl | rfl <;> decide
  · unfold readExponent? at isRead
    dsimp only at isRead
    rw [if_neg isMark] at isRead
    cases isRead

section Magnitude

open DigitString

variable {whole places : List Nat} {rest : List Char} {exponent : Int}

/-- Digits around a point denote a number, shifted by the exponent that ends the
text. -/
theorem magnitude?_digits_append
    (someWhole : whole ≠ []) (areDigits : ∀ digit ∈ whole ++ places, digit < 10)
    (isRead : readExponent? rest = some exponent) :
    magnitude?
        (digitText whole ++ withPoint (digitText places) ++ rest) =
      some ((ofDigits 10 (whole ++ places) : Rat) *
        (10 : Rat) ^ (exponent - places.length)) := by
  rw [List.forall_mem_append] at areDigits
  have stops : StopsDigits rest := by
    intro c isHead
    cases rest with
    | nil =>
        cases isHead
    | cons first rest =>
        cases isHead
        exact (head_of_readExponent? isRead).1
  have stopsAtPoint : StopsDigits (withPoint (digitText places) ++ rest) := by
    unfold withPoint
    split
    · exact stops
    · intro c isHead
      cases isHead
      decide
  have spanWhole :=
    spanDigits_append (isDigit_of_mem_digitText areDigits.1) stopsAtPoint
  have spanPlaces :=
    spanDigits_append (isDigit_of_mem_digitText areDigits.2) stops
  rw [map_digitValue_digitText areDigits.1] at spanWhole
  rw [map_digitValue_digitText areDigits.2] at spanPlaces
  unfold magnitude?
  rw [List.append_assoc, spanWhole]
  dsimp only
  cases places with
  | nil =>
      have noPoint : withPoint (digitText []) ++ rest = rest :=
        rfl
      rw [noPoint]
      split
      · exact absurd rfl (head_of_readExponent? isRead).2
      · simp [someWhole, isRead]
  | cons digit places =>
      have pointed :
          withPoint (digitText (digit :: places)) ++ rest =
            '.' :: (digitText (digit :: places) ++ rest) :=
        rfl
      simp [pointed, spanPlaces, someWhole, isRead]

end Magnitude

/-! ## Notations -/

/-- Plain notation: the whole part of a number without zeros in front, and the
places behind a point. -/
structure IsPlain (q : Rat) (places text : List Char) : Prop where
  areDigits : ∀ c ∈ places, c.isDigit
  isText : text = Nat.toDigits 10 ⌊q⌋₊ ++ DigitString.withPoint places
  denotes : magnitude? text = some q

/-- Scientific notation: one digit, which is zero only for zero, the places
behind a point, and the exponent of the number in `width` digits at least. -/
structure IsScientific (q : Rat) (mark : Char) (width : Nat) (first : Char)
    (places text : List Char) : Prop where
  isDigit : first.isDigit
  leading : first = '0' ↔ q = 0
  areDigits : ∀ c ∈ places, c.isDigit
  isText :
    text = first :: DigitString.withPoint places ++
      exponentText mark width (Int.log 10 q)
  denotes : magnitude? text = some q

/-- Digits around a point that make up a number, without zeros in front. -/
structure PlainDigits (q : Rat) (whole places : List Nat) : Prop where
  areDigits : ∀ digit ∈ whole ++ places, digit < 10
  canonical : whole = [0] ∨ ∃ first rest, whole = first :: rest ∧ first ≠ 0
  denotes :
    (ofDigits 10 (whole ++ places) : Rat) *
      (10 : Rat) ^ (-(places.length : Int)) = q

/-- One digit and the places behind it that make up a number together with its
exponent. -/
structure ScientificDigits (q : Rat) (first : Nat) (places : List Nat) :
    Prop where
  areDigits : ∀ digit ∈ first :: places, digit < 10
  leading : first = 0 ↔ q = 0
  denotes :
    (ofDigits 10 (first :: places) : Rat) *
      (10 : Rat) ^ (Int.log 10 q - places.length) = q

section Notations

open DigitString

variable {q : Rat} {first : Nat} {whole places : List Nat}

theorem PlainDigits.someWhole (plain : PlainDigits q whole places) :
    whole ≠ [] := by
  rcases plain.canonical with rfl | ⟨first, rest, rfl, _⟩
  · exact List.cons_ne_nil _ _
  · exact List.cons_ne_nil _ _

/-- The places make up less than one, so the digits before the point are the
whole part. -/
theorem PlainDigits.floor_eq (plain : PlainDigits q whole places) :
    ⌊q⌋₊ = ofDigits 10 whole := by
  have below := ofDigits_lt (List.forall_mem_append.mp plain.areDigits).2
  have ratBelow :
      (ofDigits 10 places : Rat) < 10 ^ places.length := by
    exact_mod_cast below
  have powerPositive : (0 : Rat) < 10 ^ places.length := by
    positivity
  have isSum :
      q = ofDigits 10 whole + ofDigits 10 places / 10 ^ places.length := by
    rw [← plain.denotes, ofDigits_append, zpow_neg, zpow_natCast]
    push_cast
    field_simp
  have restBelow :
      (ofDigits 10 places : Rat) / 10 ^ places.length < 1 :=
    (div_lt_one powerPositive).mpr ratBelow
  have restPositive : (0 : Rat) ≤ ofDigits 10 places / 10 ^ places.length := by
    positivity
  rw [isSum, Nat.floor_eq_iff (by positivity)]
  constructor <;> linarith

theorem PlainDigits.isPlain (plain : PlainDigits q whole places) :
    IsPlain q (digitText places)
      (digitText whole ++ withPoint (digitText places)) := by
  have parts := List.forall_mem_append.mp plain.areDigits
  have isWhole : digitText whole = Nat.toDigits 10 ⌊q⌋₊ := by
    rw [plain.floor_eq]
    rcases plain.canonical with rfl | ⟨first, rest, rfl, notZero⟩
    · rfl
    · exact digitText_eq_toDigits notZero parts.1
  refine ⟨isDigit_of_mem_digitText parts.2, by rw [isWhole], ?_⟩
  have noExponent : readExponent? [] = some 0 :=
    rfl
  have isRead :=
    magnitude?_digits_append plain.someWhole plain.areDigits noExponent
  rw [List.append_nil, zero_sub, plain.denotes] at isRead
  exact isRead

theorem ScientificDigits.isScientific
    (scientific : ScientificDigits q first places) {mark letter : Char}
    (isMark : mark = if letter.isUpper then 'E' else 'e') (width : Nat) :
    IsScientific q mark width first.digitChar (digitText places)
      (exponentForm (digitText [first] ++ withPoint (digitText places))
        (Int.log 10 q) letter width) := by
  have parts := List.forall_mem_cons.mp scientific.areDigits
  have isFirst := isDigit_digitChar parts.1
  have knownMark : mark = 'e' ∨ mark = 'E' := by
    rw [isMark]
    split
    · exact .inr rfl
    · exact .inl rfl
  have isRead := magnitude?_digits_append (List.cons_ne_nil first [])
    scientific.areDigits
    (readExponent?_exponentText knownMark width (Int.log 10 q))
  rw [exponentForm_eq, ← isMark]
  refine ⟨isFirst.1, ?_, isDigit_of_mem_digitText parts.2, rfl, ?_⟩
  · rw [← scientific.leading]
    constructor
    · intro isZero
      have value := isFirst.2
      rw [isZero] at value
      exact value.symm
    · rintro rfl
      rfl
  · rw [isRead]
    exact congrArg some scientific.denotes

end Notations

/-! ## Trailing zeros -/

/-- What is dropped at the end of a text stops at a character that is kept. -/
theorem rdropWhile_append_cons
    {item : Type} {dropped : item → Bool} {kept : item}
    (isKept : dropped kept = false) (front rest : List item) :
    (front ++ kept :: rest).rdropWhile dropped =
      front ++ kept :: rest.rdropWhile dropped := by
  induction rest using List.reverseRecOn with
  | nil =>
      have notDropped : ¬ dropped kept = true := by
        rw [isKept]
        exact Bool.false_ne_true
      rw [List.rdropWhile_concat_neg dropped front kept notDropped,
        List.rdropWhile_nil]
  | append_singleton rest last inductionHypothesis =>
      rw [← List.cons_append, ← List.append_assoc, List.rdropWhile_concat,
        List.rdropWhile_concat, inductionHypothesis]
      split
      · rfl
      · simp

theorem digitChar_beq_zero {digit : Nat} (isDigit : digit < 10) :
    (digit.digitChar == '0') = (digit == 0) := by
  decide +revert

theorem rdropWhile_digitText
    {digits : List Nat} (areDigits : ∀ digit ∈ digits, digit < 10) :
    (digitText digits).rdropWhile (· == '0') =
      digitText (digits.rdropWhile (· == 0)) := by
  induction digits using List.reverseRecOn with
  | nil =>
      rfl
  | append_singleton digits last inductionHypothesis =>
      rw [List.forall_mem_append] at areDigits
      have isDigit := areDigits.2 last (List.mem_singleton.mpr rfl)
      have split :
          digitText (digits ++ [last]) = digitText digits ++ [last.digitChar] := by
        simp [digitText]
      rw [split, List.rdropWhile_concat, List.rdropWhile_concat,
        digitChar_beq_zero isDigit, inductionHypothesis areDigits.1]
      by_cases isLast : last == 0
      · rw [if_pos isLast, if_pos isLast]
      · rw [if_neg isLast, if_neg isLast, split]

section Trailing

open DigitString

variable {q : Rat} {first : Nat} {whole places : List Nat}

theorem rdropWhile_lt
    (whole places : List Nat)
    (areDigits : ∀ digit ∈ whole ++ places, digit < 10) :
    ∀ digit ∈ whole ++ places.rdropWhile (· == 0), digit < 10 := by
  rw [List.forall_mem_append] at areDigits ⊢
  refine ⟨areDigits.1, ?_⟩
  intro digit isMember
  exact areDigits.2 digit ((List.rdropWhile_prefix _ _).subset isMember)

/-- Zeros behind the point do not change the number. -/
theorem ofDigits_rdropWhile (whole places : List Nat) (exponent : Int) :
    (ofDigits 10 (whole ++ places.rdropWhile (· == 0)) : Rat) *
        (10 : Rat) ^ (exponent - (places.rdropWhile (· == 0)).length) =
      (ofDigits 10 (whole ++ places) : Rat) *
        (10 : Rat) ^ (exponent - places.length) := by
  induction places using List.reverseRecOn with
  | nil =>
      rfl
  | append_singleton places last inductionHypothesis =>
      rw [List.rdropWhile_concat]
      by_cases isZero : last == 0
      · have lastZero : ofDigits 10 [last] = 0 := by
          rw [eq_of_beq isZero]
          rfl
        have place :
            exponent - (places.length : Int) =
              1 + (exponent - ((places ++ [last]).length : Int)) := by
          rw [List.length_append, List.length_singleton]
          push_cast
          ring
        rw [if_pos isZero, inductionHypothesis, ← List.append_assoc,
          ofDigits_append (whole ++ places), lastZero, place,
          zpow_add₀ (by norm_num), zpow_one, List.length_singleton,
          Nat.pow_one]
        push_cast
        ring
      · rw [if_neg isZero]

theorem getLast?_digitText_rdropWhile
    (areDigits : ∀ digit ∈ places, digit < 10) :
    (digitText (places.rdropWhile (· == 0))).getLast? ≠ some '0' := by
  rw [← rdropWhile_digitText areDigits]
  by_cases isEmpty : (digitText places).rdropWhile (· == '0') = []
  · rw [isEmpty]
    exact nofun
  · rw [List.getLast?_eq_some_getLast isEmpty]
    intro isZero
    have notZero := List.rdropWhile_last_not _ _ isEmpty
    rw [Option.some.inj isZero] at notZero
    exact notZero rfl

theorem point_notMem_digitText
    (areDigits : ∀ digit ∈ places, digit < 10) :
    '.' ∉ digitText places := by
  intro isMember
  have isDigit := isDigit_of_mem_digitText areDigits '.' isMember
  cases isDigit

theorem rdropWhile_point
    (areDigits : ∀ digit ∈ places, digit < 10) (front : List Char)
    (someDigits : places ≠ []) :
    (front ++ digitText places).rdropWhile (· == '.') =
      front ++ digitText places := by
  rw [List.rdropWhile_eq_self_iff]
  intro notEmpty
  have someText : digitText places ≠ [] := by
    simpa [digitText] using someDigits
  rw [List.getLast_append_of_ne_nil _ someText]
  intro isPoint
  have isMember := List.getLast_mem someText
  rw [eq_of_beq isPoint] at isMember
  exact point_notMem_digitText areDigits isMember

/-- A point is dropped when no place is left behind it. -/
theorem rdropWhile_point_withPoint
    (someWhole : whole ≠ [])
    (areDigits : ∀ digit ∈ whole ++ places, digit < 10) :
    (digitText whole ++ '.' :: digitText places).rdropWhile (· == '.') =
      digitText whole ++ withPoint (digitText places) := by
  have parts := List.forall_mem_append.mp areDigits
  by_cases isEmpty : places = []
  · subst isEmpty
    have stays := rdropWhile_point parts.1 [] someWhole
    rw [List.nil_append] at stays
    have noPlaces : withPoint (digitText []) = [] :=
      rfl
    rw [noPlaces, List.append_nil]
    exact (List.rdropWhile_concat_pos _ _ _ rfl).trans stays
  · have stays :=
      rdropWhile_point parts.2 (digitText whole ++ ['.']) isEmpty
    have pointed : withPoint (digitText places) = '.' :: digitText places :=
      if_neg (by simpa [digitText] using isEmpty)
    rw [List.append_assoc, List.singleton_append] at stays
    rw [pointed, stays]

theorem trimFraction_withPoint
    (someWhole : whole ≠ [])
    (areDigits : ∀ digit ∈ whole ++ places, digit < 10) :
    trimFraction (digitText whole ++ withPoint (digitText places)) =
      digitText whole ++ withPoint (digitText (places.rdropWhile (· == 0))) := by
  have parts := List.forall_mem_append.mp areDigits
  by_cases isEmpty : places = []
  · subst isEmpty
    have noPlaces : withPoint (digitText []) = [] :=
      rfl
    unfold trimFraction
    rw [List.rdropWhile_nil, noPlaces, List.append_nil,
      if_neg (point_notMem_digitText parts.1)]
  · have pointed : withPoint (digitText places) = '.' :: digitText places :=
      if_neg (by simpa [digitText] using isEmpty)
    rw [← rdropWhile_point_withPoint someWhole (rdropWhile_lt _ _ areDigits),
      ← rdropWhile_digitText parts.2, ← rdropWhile_append_cons (by decide),
      ← pointed]
    unfold trimFraction
    rw [if_pos (by simp [pointed])]
    rfl

theorem PlainDigits.trimmed (plain : PlainDigits q whole places) :
    PlainDigits q whole (places.rdropWhile (· == 0)) where
  areDigits := rdropWhile_lt whole places plain.areDigits
  canonical := plain.canonical
  denotes := by
    have dropped := ofDigits_rdropWhile whole places 0
    rw [zero_sub, zero_sub, plain.denotes] at dropped
    exact dropped

theorem ScientificDigits.trimmed
    (scientific : ScientificDigits q first places) :
    ScientificDigits q first (places.rdropWhile (· == 0)) where
  areDigits := rdropWhile_lt [first] places scientific.areDigits
  leading := scientific.leading
  denotes := by
    have dropped := ofDigits_rdropWhile [first] places (Int.log 10 q)
    exact dropped.trans scientific.denotes

end Trailing

/-! ## Digit strings that are written -/

namespace DigitString

variable {string : DigitString} {count : Nat}

def wholeDigits (string : DigitString) : List Nat :=
  if string.point ≤ 0 ∨ string.isZero then [0]
  else string.shownDigits 0 string.point.toNat

theorem fixed_eq (string : DigitString) (count : Nat) :
    string.fixed count =
      digitText string.wholeDigits ++
        withPoint (digitText (string.shownDigits string.point count)) := by
  unfold fixed wholeDigits
  split <;> rfl

theorem mantissa_eq (string : DigitString) (count : Nat) :
    string.mantissa count =
      digitText [string.digitAt 0] ++
        withPoint (digitText (string.shownDigits 1 count)) :=
  rfl

/-- The digits around the point make up the number when only zeros are left
behind the last place. -/
theorem value_of_fixedDigits
    (zeros : ∀ index : Int, string.point + count ≤ index →
      string.digitAt index = 0) :
    (ofDigits 10 (string.wholeDigits ++
          string.shownDigits string.point count) : Rat) *
        (10 : Rat) ^ (-(count : Int)) =
      string.value := by
  unfold wholeDigits
  by_cases isShort : string.point ≤ 0 ∨ string.isZero
  · rw [if_pos isShort, List.singleton_append, ofDigits_cons, Nat.zero_mul,
      Nat.zero_add]
    by_cases isZero : string.isZero
    · rw [shownDigits_of_isZero isZero, ofDigits_replicate_zero,
        value_of_isZero isZero]
      simp
    · have isBefore : string.point ≤ 0 := isShort.resolve_right isZero
      have denotes := ofDigits_shownDigits_of_zeros isBefore zeros
      rw [sub_add_cancel_left] at denotes
      exact denotes
  · rw [if_neg isShort]
    rw [not_or] at isShort
    have isPoint : (string.point.toNat : Int) = string.point := by
      omega
    have behind :
        ∀ index : Int, 0 + ((string.point.toNat + count : Nat) : Int) ≤ index →
          string.digitAt index = 0 := by
      intro index isBehind
      exact zeros index (by omega)
    have together :=
      string.shownDigits_append 0 string.point.toNat count
    have denotes := ofDigits_shownDigits_of_zeros le_rfl behind
    rw [zero_add, isPoint] at together
    rw [together, ← denotes]
    congr 2
    omega

theorem Normal.wholeDigits_canonical (normal : string.Normal) :
    string.wholeDigits = [0] ∨
      ∃ first rest, string.wholeDigits = first :: rest ∧ first ≠ 0 := by
  unfold wholeDigits
  by_cases isShort : string.point ≤ 0 ∨ string.isZero
  · rw [if_pos isShort]
    exact .inl rfl
  · rw [if_neg isShort]
    rw [not_or] at isShort
    obtain ⟨places, isPlaces⟩ : ∃ places, string.point.toNat = 1 + places :=
      ⟨string.point.toNat - 1, by omega⟩
    right
    rw [isPlaces, ← shownDigits_append]
    refine ⟨string.digitAt 0, _, rfl, ?_⟩
    rw [Ne, normal.digitAt_zero, ← normal.isZero_iff]
    exact isShort.2

theorem Normal.plainDigits
    (normal : string.Normal)
    (zeros : ∀ index : Int, string.point + count ≤ index →
      string.digitAt index = 0) :
    PlainDigits string.value string.wholeDigits
      (string.shownDigits string.point count) where
  areDigits := by
    rw [List.forall_mem_append]
    refine ⟨?_, shownDigits_lt normal.proper⟩
    unfold wholeDigits
    split
    · simp
    · exact shownDigits_lt normal.proper
  canonical := normal.wholeDigits_canonical
  denotes := by
    rw [length_shownDigits]
    exact value_of_fixedDigits zeros

/-- The digits around the point and the exponent make up the number when only
zeros are left behind the last place. -/
theorem Normal.scientificDigits
    (normal : string.Normal)
    (zeros : ∀ index : Int, (count : Int) + 1 ≤ index →
      string.digitAt index = 0) :
    ScientificDigits string.value (string.digitAt 0)
      (string.shownDigits 1 count) where
  areDigits := by
    rw [List.forall_mem_cons]
    exact ⟨digitAt_lt normal.proper 0, shownDigits_lt normal.proper⟩
  leading := normal.digitAt_zero
  denotes := by
    have together :
        string.digitAt 0 :: string.shownDigits 1 count =
          string.shownDigits 0 (1 + count) :=
      string.shownDigits_append 0 1 count
    rw [together, ← normal.exponent_eq_log, length_shownDigits]
    unfold exponent
    by_cases isZero : string.isZero
    · rw [shownDigits_of_isZero isZero, ofDigits_replicate_zero,
        value_of_isZero isZero]
      simp
    · have behind :
          ∀ index : Int, 0 + ((1 + count : Nat) : Int) ≤ index →
            string.digitAt index = 0 := by
        intro index isBehind
        exact zeros index (by omega)
      rw [if_neg isZero, ← ofDigits_shownDigits_of_zeros le_rfl behind]
      congr 2
      omega

/-- The sign of a number that was not rounded to zero. -/
theorem Normal.signed_eq
    (normal : string.Normal) (negative : Bool) (text : List Char) :
    string.signed negative text =
      (if negative ∧ string.value ≠ 0 then ['-'] else []) ++ text := by
  have isZero := normal.isZero_iff
  unfold signed
  by_cases isValue : string.value = 0
  · rw [if_neg (by simp [isZero.mpr isValue]), if_neg (by simp [isValue])]
    rfl
  · have notZero : string.isZero = false := by
      rwa [← Bool.not_eq_true, isZero]
    simp only [notZero, isValue, not_false_eq_true, ne_eq, and_true]
    split <;> rfl

end DigitString

end Phrasebook
