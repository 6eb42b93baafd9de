import Phrasebook.Number.Binary64

/-!
# Digit strings

Decimal digits with a place for the point, the form in which numbers are
rounded to a requested precision. A number is first reduced to fifteen
significant digits, ties to even, and then rounded on those digits, ties away
from zero. The second step works on the digits alone, so that `2.5` without
places is `3` and `0.125` with two places is `0.13`.
-/

namespace Phrasebook

/-- The number `0.d₀d₁d₂… * 10 ^ point`, given by its digits. -/
structure DigitString where
  digits : List Nat
  point : Int
  deriving DecidableEq

namespace DigitString

def value (string : DigitString) : Rat :=
  (ofDigits 10 string.digits : Rat) *
    (10 : Rat) ^ (string.point - string.digits.length)

/-! ## Significant digits -/

/-- The `count` significant digits nearest to a non-negative number, ties to
the even digit. All digits of zero are zero. -/
def ofRat (count : Nat) (q : Rat) : DigitString :=
  if q ≤ 0 then
    ⟨List.replicate count 0, 1⟩
  else
    let lead := leadingExponent 10 q
    let coefficient := roundHalfEven (q / (10 : Rat) ^ (lead + 1 - count))
    if digitCount 10 coefficient ≤ count then
      ⟨digitsOf 10 count coefficient, lead + 1⟩
    else
      ⟨1 :: List.replicate (count - 1) 0, lead + 2⟩

/-- The fifteen significant digits of the absolute value of a number. A number
that is not finite has none. -/
def ofNumber (x : Binary64) : DigitString :=
  match x.meaning with
  | .finite _ significand exponent =>
      ofRat 15 (Binary64.scaled significand exponent)
  | _ => ⟨[], 1⟩

/-! ## Rounding -/

/-- Adds one to the last digit. The first component tells whether a one is
carried out of the leading digit. -/
def increment : List Nat → Bool × List Nat
  | [] => (true, [])
  | digit :: rest =>
      match increment rest with
      | (false, rest) => (false, digit :: rest)
      | (true, rest) =>
          if digit = 9 then (true, 0 :: rest) else (false, (digit + 1) :: rest)

/-- Keeps the first `keep` digits and rounds half away from zero. There is
nothing to round past the last digit, and nothing is left before the place in
front of the first one. -/
def roundAt (string : DigitString) (keep : Int) : DigitString :=
  if keep < 0 then
    { string with digits := string.digits.map fun _ => 0 }
  else
    match string.digits[keep.toNat]? with
    | none => string
    | some next =>
        let kept := string.digits.take keep.toNat
        if next < 5 then
          { string with digits := kept }
        else
          match increment kept with
          | (false, digits) => { string with digits := digits }
          | (true, digits) => ⟨1 :: digits, string.point + 1⟩

/-! ## Texts -/

/-- The digit at an index, with zeros before the first and after the last. -/
def digitAt (string : DigitString) (index : Int) : Nat :=
  if index < 0 then 0 else string.digits.getD index.toNat 0

def isZero (string : DigitString) : Bool :=
  string.digits.all fun digit => digit == 0

/-- The exponent of the leading digit in scientific notation. -/
def exponent (string : DigitString) : Int :=
  if string.isZero then 0 else string.point - 1

def digitsFrom (string : DigitString) (start : Int) (count : Nat) :
    List Char :=
  digitText ((List.range count).map fun (i : Nat) =>
    string.digitAt (start + i))

/-- A point in front of digits, and nothing in front of no digits. -/
def withPoint (places : List Char) : List Char :=
  if places = [] then [] else '.' :: places

/-- Positional notation with exactly `places` digits after the point. -/
def fixed (string : DigitString) (places : Nat) : List Char :=
  let whole :=
    if string.point ≤ 0 ∨ string.isZero then ['0']
    else string.digitsFrom 0 string.point.toNat
  whole ++ withPoint (string.digitsFrom string.point places)

def mantissa (string : DigitString) (places : Nat) : List Char :=
  string.digitsFrom 0 1 ++ withPoint (string.digitsFrom 1 places)

/-- Puts a minus sign in front of the text of a negative number, unless all its
digits were rounded away. -/
def signed (string : DigitString) (negative : Bool) (text : List Char) :
    List Char :=
  if negative ∧ string.isZero = false then '-' :: text else text

end DigitString

end Phrasebook
