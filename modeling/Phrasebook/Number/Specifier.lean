import Phrasebook.Number.DigitString
import Phrasebook.Number.Reading
import Phrasebook.Number.Shortest

/-!
# Number specifiers

A specifier is a letter and an optional precision, as in `F2`. It selects how
a number is written, independently of any region:

* `F` is fixed point, `N` the same with grouped thousands and `P` a percentage;
* `E` is scientific notation and `G` the shorter of both for a number of
  significant digits;
* `D` is a padded integer and `X` a padded hexadecimal one.

Letters may be of either case, which shows in the exponent mark and in the
hexadecimal digits.
-/

namespace Phrasebook

inductive SpecifierFault where
  | precisionNotNumber (digits : String)
  | precisionTooLarge (precision : Nat)
  | notIntegral (letter : Char) (number : Binary64)
  | negativeHexadecimal
  | unknownLetter (letter : Char)
  deriving DecidableEq

def maxPrecision : Nat := 99

def SpecifierFault.message : SpecifierFault → String
  | precisionNotNumber digits => s!"precision '{digits}' is not a number"
  | precisionTooLarge precision =>
      s!"precision {precision} exceeds {maxPrecision}"
  | notIntegral letter number =>
      let text := number.plainText
      s!"'{letter}' format needs an integral value, got {text}"
  | negativeHexadecimal => "hexadecimal format needs a non-negative value"
  | unknownLetter letter => s!"unsupported format specifier '{letter}'"

/-! ## Pieces of the notations -/

/-- Puts a comma between groups of three digits, counted from the right. -/
def groupDigits : List Char → List Char
  | [] => []
  | digit :: rest =>
      if rest ≠ [] ∧ rest.length % 3 = 0 then
        digit :: ',' :: groupDigits rest
      else
        digit :: groupDigits rest

/-- Without its commas the grouped text is what was grouped. -/
theorem filter_groupDigits {digits : List Char}
    (withoutCommas : ',' ∉ digits) :
    (groupDigits digits).filter (fun c => c != ',') = digits := by
  induction digits with
  | nil => rfl
  | cons digit rest inductionHypothesis =>
      rw [List.mem_cons, not_or] at withoutCommas
      have grouped := inductionHypothesis withoutCommas.2
      have notComma : digit ≠ ',' := Ne.symm withoutCommas.1
      unfold groupDigits
      split <;> simp [notComma, grouped]

/-- Groups the digits before the point and leaves the sign and the places
alone. -/
def groupThousands (text : List Char) : List Char :=
  let (sign, rest) :=
    match text with
    | '-' :: rest => (['-'], rest)
    | rest => ([], rest)
  sign ++ groupDigits (rest.takeWhile (· ≠ '.')) ++
    rest.dropWhile (· ≠ '.')

/-- Removes a character from the end of a text as often as it stands there. -/
def dropTrailing (c : Char) (text : List Char) : List Char :=
  (text.reverse.dropWhile (· == c)).reverse

/-- Removes trailing zeros after a point, and a point that ends the text. -/
def trimFraction (text : List Char) : List Char :=
  if '.' ∈ text then dropTrailing '.' (dropTrailing '0' text) else text

/-- A mantissa followed by the exponent mark, a sign and the exponent in
`width` digits at least. -/
def exponentForm (mantissa : List Char) (exponent : Int) (letter : Char)
    (width : Nat) : List Char :=
  let mark := if letter.isUpper then 'E' else 'e'
  let sign := if exponent < 0 then '-' else '+'
  mantissa ++ mark :: sign :: numeral 10 width exponent.natAbs

/-! ## The notations -/

/-- Whether a number is negative; neither zero is. -/
def Binary64.isBelowZero (x : Binary64) : Bool :=
  match x.finiteValue? with
  | some value => decide (value < 0)
  | none => false

/-- Fixed point: the fifteen significant digits of a number rounded to
`places` digits after the point. -/
def fixedPoint (x : Binary64) (places : Nat) : List Char :=
  let string := DigitString.ofNumber x
  let rounded := string.roundAt (string.point + places)
  rounded.signed x.isBelowZero (rounded.fixed places)

def scientificNotation (x : Binary64) (places : Nat) (letter : Char) :
    List Char :=
  let rounded := (DigitString.ofNumber x).roundAt (places + 1)
  exponentForm (rounded.signed x.isBelowZero (rounded.mantissa places))
    rounded.exponent letter 3

/-- General notation of `count` significant digits: scientific when the
exponent is below `-5` or takes more than `count` digits, positional otherwise,
and without trailing zeros in either case. -/
def generalNotation (x : Binary64) (count : Nat) (letter : Char) : List Char :=
  let rounded := (DigitString.ofNumber x).roundAt count
  let exponent := rounded.exponent
  if exponent < -5 ∨ count ≤ exponent then
    exponentForm
      (rounded.signed x.isBelowZero
        (trimFraction (rounded.mantissa (count - 1))))
      exponent letter 2
  else
    rounded.signed x.isBelowZero
      (trimFraction (rounded.fixed (count - 1 - exponent).toNat))

/-- The integer that a finite number is, if it is one of sixty-four bits. -/
def Binary64.toInt64? (x : Binary64) : Option Int :=
  match x.finiteValue? with
  | some value =>
      if value.den = 1 ∧ -Binary64.signBit ≤ value.num ∧
          value.num < Binary64.signBit then
        some value.num
      else
        none
  | none => none

def paddedInteger (n : Int) (width : Nat) : List Char :=
  let digits := numeral 10 width n.natAbs
  if n < 0 then '-' :: digits else digits

def hexadecimal (n width : Nat) (letter : Char) : List Char :=
  let digits := numeral 16 width n
  if letter.isUpper then digits.map Char.toUpper else digits

/-! ## Specifiers -/

/-- The precision behind a specifier's letter. It reads as a 64-bit number
before it is compared with the limit. -/
def readPrecision (digits : List Char) :
    Except SpecifierFault (Option Nat) :=
  if digits = [] then
    .ok none
  else
    let text := String.ofList digits
    match readSize? text with
    | none => .error (.precisionNotNumber text)
    | some precision =>
        if maxPrecision < precision then
          .error (.precisionTooLarge precision)
        else
          .ok (some precision)

def formatFinite (x : Binary64) (letter : Char) (precision : Option Nat) :
    Except SpecifierFault (List Char) :=
  match letter.toUpper with
  | 'F' => .ok (fixedPoint x (precision.getD 2))
  | 'N' => .ok (groupThousands (fixedPoint x (precision.getD 2)))
  | 'P' =>
      let percentage := fixedPoint x.timesHundred (precision.getD 2)
      .ok (groupThousands percentage ++ [' ', '%'])
  | 'E' => .ok (scientificNotation x (precision.getD 6) letter)
  | 'G' =>
      let count := precision.getD 0
      .ok (if count = 0 then x.defaultText.toList
        else generalNotation x count letter)
  | 'D' =>
      match x.toInt64? with
      | none => .error (.notIntegral letter x)
      | some n => .ok (paddedInteger n (precision.getD 0))
  | 'X' =>
      match x.toInt64? with
      | none => .error (.notIntegral letter x)
      | some n =>
          if n < 0 then .error .negativeHexadecimal
          else .ok (hexadecimal n.toNat (precision.getD 0) letter)
  | _ => .error (.unknownLetter letter)

/-- Writes a number as a specifier says. An empty specifier is the default
text; so is any letter for a number that is not finite, once the precision has
been read. -/
def formatNumber (x : Binary64) (specifier : String) :
    Except SpecifierFault String :=
  match specifier.toList with
  | [] => .ok x.defaultText
  | letter :: digits =>
      match readPrecision digits with
      | .error fault => .error fault
      | .ok precision =>
          if x.isFinite then
            (formatFinite x letter precision).map String.ofList
          else
            .ok x.defaultText

end Phrasebook
