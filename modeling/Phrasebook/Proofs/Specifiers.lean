import Mathlib
import Phrasebook.Expression
import Phrasebook.Proofs.Numerals

/-!
# Accepted specifiers

Which specifiers apply to a number. `Specifier.Documented` is the reading of the
notation: a letter and digits. What is accepted is a little more, since a plus
sign may stand in front of the digits and a number that is not finite takes any
letter.
-/

namespace Phrasebook

namespace Specifier

/-- A precision: any number of digits, up to the largest one. -/
structure IsPrecision (digits : List Char) : Prop where
  areDigits : ∀ c ∈ digits, c.isDigit
  inRange : ofDigits 10 (digits.map digitValue) ≤ maxPrecision

inductive Reads : List Char → Prop
  | unsigned {digits : List Char} :
      IsPrecision digits →
      Reads digits
  | plus {digits : List Char} :
      digits ≠ [] →
      IsPrecision digits →
      Reads ('+' :: digits)

def letters : List Char :=
  ['F', 'f', 'N', 'n', 'D', 'd', 'P', 'p', 'E', 'e', 'X', 'x', 'G', 'g']

/-- The notations of integers need an integer of sixty-four bits, and
hexadecimal digits need one that is not negative. -/
structure Suits (x : Binary64) (letter : Char) : Prop where
  integral :
    letter ∈ ['D', 'd', 'X', 'x'] →
      ∃ n : Int, x.finiteValue? = some (n : Rat) ∧ -2 ^ 63 ≤ n ∧ n < 2 ^ 63 ∧
        (letter ∈ ['X', 'x'] → 0 ≤ n)

def Documented (x : Binary64) (specifier : String) : Prop :=
  specifier = "" ∨
    ∃ letter digits, specifier.toList = letter :: digits ∧
      letter ∈ letters ∧ IsPrecision digits ∧
      (x.isFinite → Suits x letter)

def Accepted (x : Binary64) (specifier : String) : Prop :=
  specifier = "" ∨
    ∃ letter digits, specifier.toList = letter :: digits ∧ Reads digits ∧
      (x.isFinite → letter ∈ letters ∧ Suits x letter)

/-- Where a specifier may be accepted that is not described: a plus sign behind
the letter, or the letter of no notation for a number that is not finite. -/
def IsLenient (x : Binary64) (specifier : String) : Prop :=
  specifier.toList[1]? = some '+' ∨
    ¬ x.isFinite ∧ ∃ letter, specifier.toList[0]? = some letter ∧
      letter ∉ letters

/-! ## Letters -/

theorem toNat_toUpper (c : Char) :
    c.toUpper.toNat =
      if 97 ≤ c.toNat ∧ c.toNat ≤ 122 then c.toNat - 32 else c.toNat := by
  unfold Char.toUpper
  by_cases isLower : 97 ≤ c.toNat ∧ c.toNat ≤ 122
  · have bounds : 'a'.val ≤ c.val ∧ c.val ≤ 'z'.val := isLower
    rw [if_pos isLower, dif_pos bounds]
    change (c.val + ('A'.val - 'a'.val)).toNat = c.toNat - 32
    have shift : ('A'.val - 'a'.val).toNat = 4294967264 := by decide
    rw [UInt32.toNat_add, shift, Char.toNat_val]
    omega
  · have bounds : ¬ ('a'.val ≤ c.val ∧ c.val ≤ 'z'.val) := isLower
    rw [if_neg isLower, dif_neg bounds]

theorem toNat_toLower (c : Char) :
    c.toLower.toNat =
      if 65 ≤ c.toNat ∧ c.toNat ≤ 90 then c.toNat + 32 else c.toNat := by
  unfold Char.toLower
  by_cases isUpper : 65 ≤ c.toNat ∧ c.toNat ≤ 90
  · have bounds : 'A'.val ≤ c.val ∧ c.val ≤ 'Z'.val := isUpper
    rw [if_pos isUpper, dif_pos bounds]
    change (c.val + ('a'.val - 'A'.val)).toNat = c.toNat + 32
    have shift : ('a'.val - 'A'.val).toNat = 32 := by decide
    rw [UInt32.toNat_add, shift, Char.toNat_val]
    omega
  · have bounds : ¬ ('A'.val ≤ c.val ∧ c.val ≤ 'Z'.val) := isUpper
    rw [if_neg isUpper, dif_neg bounds]

theorem toUpper_eq_iff
    {letter upper : Char} (isUpper : upper.isUpper) :
    letter.toUpper = upper ↔ letter = upper ∨ letter = upper.toLower := by
  have bounds : 65 ≤ upper.toNat ∧ upper.toNat ≤ 90 := by
    simpa [Char.isUpper, UInt32.le_iff_toNat_le] using isUpper
  rw [← Char.toNat_inj, ← Char.toNat_inj, ← Char.toNat_inj, toNat_toUpper,
    toNat_toLower, if_pos bounds]
  split <;> omega

theorem mem_letters_iff
    {letter : Char} :
    letter ∈ letters ↔
      letter.toUpper ∈ ['F', 'N', 'D', 'P', 'E', 'X', 'G'] := by
  simp [letters, toUpper_eq_iff, or_assoc]

theorem mem_integer_letters_iff
    {letter : Char} :
    letter ∈ ['D', 'd', 'X', 'x'] ↔
      letter.toUpper = 'D' ∨ letter.toUpper = 'X' := by
  simp [toUpper_eq_iff, or_assoc]

theorem mem_hexadecimal_letters_iff
    {letter : Char} :
    letter ∈ ['X', 'x'] ↔ letter.toUpper = 'X' := by
  simp [toUpper_eq_iff]

/-! ## Precisions -/

theorem readSize?_of_isPrecision
    {text digits : List Char} (notEmpty : digits ≠ [])
    (isPrecision : IsPrecision digits)
    (isText : text = digits ∨ text = '+' :: digits) :
    readSize? (String.ofList text) =
      some (ofDigits 10 (digits.map digitValue)) := by
  have small : maxPrecision < UInt64.size := by decide
  have bounded := Nat.lt_of_le_of_lt isPrecision.inRange small
  have readsDigits := readDigits?_eq_some_iff.mpr
    ⟨notEmpty, isPrecision.areDigits, rfl⟩
  exact readSize?_eq_some_iff.mpr ⟨bounded, digits, isText, readsDigits⟩

theorem readPrecision_of_isPrecision
    {text digits : List Char} (notEmpty : digits ≠ [])
    (isPrecision : IsPrecision digits)
    (isText : text = digits ∨ text = '+' :: digits) :
    readPrecision text =
      .ok (some (ofDigits 10 (digits.map digitValue))) := by
  have someText : text ≠ [] := by
    rcases isText with rfl | rfl
    · exact notEmpty
    · exact List.cons_ne_nil _ _
  unfold readPrecision
  rw [if_neg someText]
  dsimp only
  rw [readSize?_of_isPrecision notEmpty isPrecision isText]
  exact if_neg (Nat.not_lt.mpr isPrecision.inRange)

theorem readPrecision_isOk_iff
    {digits : List Char} :
    (∃ precision, readPrecision digits = .ok precision) ↔ Reads digits := by
  by_cases isEmpty : digits = []
  · have noDigits : IsPrecision [] := ⟨by simp, Nat.zero_le _⟩
    rw [isEmpty]
    exact ⟨fun _ => .unsigned noDigits, fun _ => ⟨none, rfl⟩⟩
  · constructor
    · rintro ⟨precision, isRead⟩
      unfold readPrecision at isRead
      rw [if_neg isEmpty] at isRead
      dsimp only at isRead
      split at isRead
      · cases isRead
      · rename_i n isSize
        obtain ⟨_, body, isText, readsBody⟩ := readSize?_eq_some_iff.mp isSize
        obtain ⟨notEmpty, areDigits, isValue⟩ :=
          readDigits?_eq_some_iff.mp readsBody
        split at isRead
        · cases isRead
        · rename_i notTooLarge
          have isPrecision : IsPrecision body :=
            ⟨areDigits, isValue ▸ Nat.not_lt.mp notTooLarge⟩
          rcases isText with rfl | rfl
          · exact .unsigned isPrecision
          · exact .plus notEmpty isPrecision
    · intro reads
      cases reads with
      | unsigned isPrecision =>
          exact ⟨_, readPrecision_of_isPrecision isEmpty isPrecision (.inl rfl)⟩
      | plus notEmpty isPrecision =>
          exact ⟨_, readPrecision_of_isPrecision notEmpty isPrecision (.inr rfl)⟩

/-- The precision that digits ask for, where no digits ask for the usual one. -/
def precisionOr (usual : Nat) (digits : List Char) : Nat :=
  if digits = [] then usual else ofDigits 10 (digits.map digitValue)

theorem exists_readPrecision
    {digits : List Char} (isPrecision : IsPrecision digits) :
    ∃ precision, readPrecision digits = .ok precision ∧
      ∀ usual, precision.getD usual = precisionOr usual digits := by
  unfold precisionOr
  by_cases isEmpty : digits = []
  · subst isEmpty
    exact ⟨none, rfl, fun _ => rfl⟩
  · refine ⟨some (ofDigits 10 (digits.map digitValue)),
      readPrecision_of_isPrecision isEmpty isPrecision (.inl rfl), ?_⟩
    intro usual
    rw [if_neg isEmpty]
    rfl

/-! ## Integers -/

theorem toInt64?_eq_some_iff
    {x : Binary64} {n : Int} :
    x.toInt64? = some n ↔
      x.finiteValue? = some (n : Rat) ∧ -2 ^ 63 ≤ n ∧ n < 2 ^ 63 := by
  have signBit : (Binary64.signBit : Int) = 2 ^ 63 := rfl
  unfold Binary64.toInt64?
  cases x.finiteValue? with
  | none =>
      simp
  | some value =>
      dsimp only
      rw [signBit, Option.some_inj]
      constructor
      · intro isInteger
        split at isInteger
        · rename_i bounds
          cases isInteger
          have isWhole := (Rat.den_eq_one_iff value).mp bounds.1
          exact ⟨isWhole.symm, bounds.2⟩
        · cases isInteger
      · rintro ⟨rfl, bounds⟩
        rw [Rat.num_intCast, if_pos ⟨Rat.den_intCast n, bounds⟩]

theorem suits_of_not_integer
    {x : Binary64} {letter : Char} (notDecimal : letter.toUpper ≠ 'D')
    (notHexadecimal : letter.toUpper ≠ 'X') :
    Suits x letter where
  integral := by
    intro isInteger
    rcases mem_integer_letters_iff.mp isInteger with isDecimal | isHexadecimal
    · exact absurd isDecimal notDecimal
    · exact absurd isHexadecimal notHexadecimal

theorem suits_decimal_iff
    {x : Binary64} {letter : Char} (isDecimal : letter.toUpper = 'D') :
    Suits x letter ↔ ∃ n, x.toInt64? = some n := by
  have isInteger := mem_integer_letters_iff.mpr (.inl isDecimal)
  constructor
  · rintro ⟨integral⟩
    obtain ⟨n, isValue, lower, upper, _⟩ := integral isInteger
    exact ⟨n, toInt64?_eq_some_iff.mpr ⟨isValue, lower, upper⟩⟩
  · rintro ⟨n, isInt64⟩
    obtain ⟨isValue, lower, upper⟩ := toInt64?_eq_some_iff.mp isInt64
    refine ⟨fun _ => ⟨n, isValue, lower, upper, ?_⟩⟩
    intro isHexadecimal
    rw [mem_hexadecimal_letters_iff, isDecimal] at isHexadecimal
    cases isHexadecimal

theorem suits_hexadecimal_iff
    {x : Binary64} {letter : Char} (isHexadecimal : letter.toUpper = 'X') :
    Suits x letter ↔ ∃ n, x.toInt64? = some n ∧ 0 ≤ n := by
  have isInteger := mem_integer_letters_iff.mpr (.inr isHexadecimal)
  constructor
  · rintro ⟨integral⟩
    obtain ⟨n, isValue, lower, upper, notNegative⟩ := integral isInteger
    exact ⟨n, toInt64?_eq_some_iff.mpr ⟨isValue, lower, upper⟩,
      notNegative (mem_hexadecimal_letters_iff.mpr isHexadecimal)⟩
  · rintro ⟨n, isInt64, notNegative⟩
    obtain ⟨isValue, lower, upper⟩ := toInt64?_eq_some_iff.mp isInt64
    exact ⟨fun _ => ⟨n, isValue, lower, upper, fun _ => notNegative⟩⟩

/-! ## Formatting -/

/-- The cases are the notations. Those of texts with a point never fail. -/
theorem formatFinite_isOk_iff
    (x : Binary64) (letter : Char) (precision : Option Nat) :
    (∃ text, formatFinite x letter precision = .ok text) ↔
      letter ∈ letters ∧ Suits x letter := by
  have always (text : List Char) (known : letter ∈ letters)
      (notDecimal : letter.toUpper ≠ 'D') (notHexadecimal : letter.toUpper ≠ 'X') :
      (∃ other, (Except.ok text : Except SpecifierFault (List Char)) =
          .ok other) ↔
        letter ∈ letters ∧ Suits x letter :=
    ⟨fun _ => ⟨known, suits_of_not_integer notDecimal notHexadecimal⟩,
      fun _ => ⟨text, rfl⟩⟩
  unfold formatFinite
  split
  case h_6 isDecimal =>
      have known : letter ∈ letters := by
        rw [mem_letters_iff, isDecimal]
        decide
      rw [suits_decimal_iff isDecimal, and_iff_right known]
      cases x.toInt64? <;> simp
  case h_7 isHexadecimal =>
      have known : letter ∈ letters := by
        rw [mem_letters_iff, isHexadecimal]
        decide
      rw [suits_hexadecimal_iff isHexadecimal, and_iff_right known]
      cases x.toInt64? with
      | none =>
          simp
      | some n =>
          by_cases isNegative : n < 0
          · simp [isNegative, Int.not_le.mpr isNegative]
          · simp [isNegative, Int.not_lt.mp isNegative]
  case h_8 =>
      have unknown : letter ∉ letters := by
        rw [mem_letters_iff]
        simp_all
      simp [unknown]
  all_goals
    rename_i isLetter
    have known : letter ∈ letters := by
      rw [mem_letters_iff, isLetter]
      decide
    have notDecimal : letter.toUpper ≠ 'D' := by
      rw [isLetter]
      decide
    have notHexadecimal : letter.toUpper ≠ 'X' := by
      rw [isLetter]
      decide
    exact always _ known notDecimal notHexadecimal

/-- A letter and a precision write a finite number. -/
theorem formatNumber_of_isPrecision
    {x : Binary64} {digits : List Char} (isFinite : x.isFinite)
    (isPrecision : IsPrecision digits) :
    ∃ precision : Option Nat,
      (∀ usual, precision.getD usual = precisionOr usual digits) ∧
      ∀ letter, formatNumber x (String.ofList (letter :: digits)) =
        (formatFinite x letter precision).map String.ofList := by
  obtain ⟨precision, isRead, isUsual⟩ := exists_readPrecision isPrecision
  refine ⟨precision, isUsual, ?_⟩
  intro letter
  unfold formatNumber
  rw [String.toList_ofList]
  dsimp only
  rw [isRead]
  dsimp only
  rw [if_pos isFinite]

theorem formatNumber_isOk_iff
    {x : Binary64} {specifier : String} :
    (∃ text, formatNumber x specifier = .ok text) ↔ Accepted x specifier := by
  unfold formatNumber Accepted
  cases isText : specifier.toList with
  | nil =>
      have isEmpty : specifier = "" := String.toList_eq_nil_iff.mp isText
      exact ⟨fun _ => .inl isEmpty, fun _ => ⟨_, rfl⟩⟩
  | cons letter digits =>
      have notEmpty : specifier ≠ "" := by
        rintro rfl
        cases isText
      have parts (motive : Char → List Char → Prop) :
          (∃ c rest, letter :: digits = c :: rest ∧ motive c rest) ↔
            motive letter digits :=
        ⟨fun ⟨_, _, same, holds⟩ => by cases same; exact holds,
          fun holds => ⟨_, _, rfl, holds⟩⟩
      rw [or_iff_right notEmpty, parts, ← readPrecision_isOk_iff]
      dsimp only
      cases readPrecision digits with
      | error fault =>
          simp
      | ok precision =>
          dsimp only
          by_cases isFinite : x.isFinite
          · rw [if_pos isFinite, ← formatFinite_isOk_iff x letter precision]
            cases formatFinite x letter precision <;> simp [Except.map, isFinite]
          · rw [if_neg isFinite]
            simp [isFinite]

/-- Elsewhere nothing is accepted but what is described. -/
theorem accepted_iff_documented
    {x : Binary64} {specifier : String} (strict : ¬ IsLenient x specifier) :
    Accepted x specifier ↔ Documented x specifier := by
  obtain ⟨unsigned, known⟩ := not_or.mp strict
  unfold Accepted Documented
  refine or_congr_right (exists_congr fun letter => exists_congr fun digits =>
    and_congr_right fun isText => ?_)
  rw [isText] at unsigned known
  have reads : Reads digits ↔ IsPrecision digits := by
    constructor
    · intro isRead
      cases isRead with
      | unsigned isPrecision =>
          exact isPrecision
      | plus notEmpty isPrecision =>
          exact absurd rfl unsigned
    · exact .unsigned
  rw [reads]
  by_cases isFinite : x.isFinite
  · simp only [isFinite, true_imp_iff]
    exact and_left_comm
  · have isLetter : letter ∈ letters := by
      by_contra notLetter
      exact known ⟨isFinite, letter, rfl, notLetter⟩
    simp [isFinite, isLetter]

end Specifier

/-! ## Expressions -/

namespace Expression

variable {expression : Expression} {table : Table} {context : Context}
  {expand : String → String → Run String} {x : Binary64} {specifier : String}

theorem outcome_render_number
    (evaluated : (expression.evaluate table context expand).outcome =
      .ok (.number x))
    (specified : expression.specifier = some specifier) :
    (expression.render table context expand).outcome =
      (formatNumber x specifier).mapError fun fault =>
        .raised (.invalidFormat specifier fault) expression.span := by
  unfold render
  rw [Run.bind_eq, Run.andThen]
  rw [evaluated]
  unfold write
  rw [specified]
  cases isFormatted : formatNumber x specifier <;>
    simp [isFormatted, Expression.fail, Run.fail, Except.mapError]

end Expression

namespace Specifier

/-- Where nothing is lenient, the specifiers of a number that are accepted are
those that are described. Every specifier is accepted or refused as a whole, and
what is refused fails the expression with the specifier it has. -/
theorem accepted_or_invalid (x : Binary64) (specifier : String) :
    ((∃ text, formatNumber x specifier = .ok text) ↔ Accepted x specifier) ∧
    (¬ IsLenient x specifier →
      ((∃ text, formatNumber x specifier = .ok text) ↔
        Documented x specifier)) ∧
    ∀ (expression : Expression) table context expand,
      expression.specifier = some specifier →
      (expression.evaluate table context expand).outcome = .ok (.number x) →
      (∃ text, formatNumber x specifier = .ok text ∧
        (expression.render table context expand).outcome = .ok text) ∨
      ¬ Accepted x specifier ∧
        ∃ fault, (expression.render table context expand).outcome =
          .error (.raised (.invalidFormat specifier fault) expression.span) := by
  refine ⟨formatNumber_isOk_iff, ?_, ?_⟩
  · intro strict
    rw [formatNumber_isOk_iff, accepted_iff_documented strict]
  · intro expression table context expand specified evaluated
    rw [Expression.outcome_render_number evaluated specified,
      ← formatNumber_isOk_iff]
    cases formatNumber x specifier with
    | ok text =>
        exact .inl ⟨text, rfl, rfl⟩
    | error fault =>
        exact .inr ⟨by simp, fault, rfl⟩

/-- An integer has the notation of integers, and a half does not. -/
theorem integer_is_accepted_and_fraction_is_invalid :
    let whole := Binary64.ofInt 42
    let half : Binary64 := ⟨0x3FE0000000000000⟩
    let expression : Expression := ⟨"0", none, some "d4", .entry, ⟨0, 6⟩⟩
    let context : Context := { args := [.number half] }
    ¬ IsLenient whole "d4" ∧ Documented whole "d4" ∧
      (∃ text, formatNumber whole "d4" = .ok text) ∧
      ∃ fault,
        (expression.render {} context fun _ _ => pure "").outcome =
          .error (.raised (.invalidFormat "d4" fault) ⟨0, 6⟩) := by
  intro whole half expression context
  have isWhole : whole.finiteValue? = some ((42 : Int) : Rat) := by
    decide +kernel
  have isHalf : formatNumber half "d4" = .error (.notIntegral 'd' half) := by
    decide +kernel
  have suits : Suits whole 'd' :=
    ⟨fun _ => ⟨42, isWhole, by decide, by decide, by decide⟩⟩
  have isPrecision : IsPrecision ['4'] :=
    ⟨List.forall_mem_singleton.mpr rfl, by decide⟩
  have documented : Documented whole "d4" :=
    .inr ⟨'d', ['4'], rfl, by decide, isPrecision, fun _ => suits⟩
  have isFinite : whole.isFinite := by
    rw [Binary64.isFinite, isWhole]
    rfl
  have strict : ¬ IsLenient whole "d4" := by
    rintro (isPlus | ⟨notFinite, _⟩)
    · exact absurd isPlus (by decide)
    · exact notFinite isFinite
  have accepted := ((accepted_or_invalid whole "d4").2.1 strict).mpr documented
  refine ⟨strict, documented, accepted, ?_⟩
  have rendered := (accepted_or_invalid half "d4").2.2 expression {} context
    (fun _ _ => pure "") rfl (by cbv)
  rcases rendered with ⟨text, formatted, _⟩ | ⟨_, fails⟩
  · rw [isHalf] at formatted
    cases formatted
  · exact fails

/-- A plus sign and an unknown letter that are taken. -/
theorem plus_sign_and_unknown_letter_are_accepted :
    (formatNumber (.ofInt 3) "F+2" = .ok "3.00" ∧
        ¬ Documented (.ofInt 3) "F+2") ∧
      formatNumber (.infinity false) "Q" = .ok "inf" ∧
        ¬ Documented (.infinity false) "Q" := by
  have formatted : formatNumber (.ofInt 3) "F+2" = .ok "3.00" := by
    decide +kernel
  have printed : formatNumber (.infinity false) "Q" = .ok "inf" := by
    decide +kernel
  refine ⟨⟨formatted, ?_⟩, printed, ?_⟩
  · rintro (isEmpty | ⟨letter, digits, isText, _, isPrecision, _⟩)
    · exact absurd isEmpty (by decide)
    · cases isText
      have isDigit := isPrecision.areDigits '+' List.mem_cons_self
      cases isDigit
  · rintro (isEmpty | ⟨letter, digits, isText, known, _⟩)
    · exact absurd isEmpty (by decide)
    · cases isText
      exact absurd known (by decide)

end Specifier

end Phrasebook
