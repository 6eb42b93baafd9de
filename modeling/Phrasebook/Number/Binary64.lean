import Phrasebook.Number.Positional

/-!
# Binary64 numbers

A binary64 number is its 64-bit word. `Binary64.meaning` decodes a word into
the exact number it stands for, and `Binary64.ofRat` is the rounding of exact
numbers to words, to the nearest and with ties to the even significand. No
arithmetic of the machine is used, so every result is exact by definition.
-/

namespace Phrasebook

/-- A binary64 number, given by its word: a sign bit, eleven exponent bits and
fifty-two fraction bits. -/
structure Binary64 where
  word : UInt64
  deriving DecidableEq, Inhabited

namespace Binary64

/-! ## Decoding -/

/-- What a word stands for. A finite number is
`± significand * 2 ^ exponent`. -/
inductive Meaning where
  | nan
  | infinite (negative : Bool)
  | finite (negative : Bool) (significand : Nat) (exponent : Int)
  deriving DecidableEq

/-- The weight of the sign bit, the sixty-third power of two. -/
abbrev signBit : Nat := 0x8000000000000000

/-- The weight of the lowest exponent bit, the fifty-second power of two. It is
also the leading bit of a normal significand, which is not written down. -/
abbrev hiddenBit : Nat := 0x10000000000000

def isNegative (x : Binary64) : Bool :=
  decide (signBit ≤ x.word.toNat)

def biasedExponent (x : Binary64) : Nat :=
  x.word.toNat / hiddenBit % 2048

def fraction (x : Binary64) : Nat :=
  x.word.toNat % hiddenBit

/-- The number a word stands for. The least exponent field holds the subnormal
numbers, the greatest one the infinities and the NaNs. -/
def meaning (x : Binary64) : Meaning :=
  if x.biasedExponent = 2047 then
    if x.fraction = 0 then .infinite x.isNegative else .nan
  else if x.biasedExponent = 0 then
    .finite x.isNegative x.fraction (-1074)
  else
    .finite x.isNegative (hiddenBit + x.fraction)
      ((x.biasedExponent : Int) - 1075)

/-- The exact absolute value `significand * 2 ^ exponent`. -/
def scaled (significand : Nat) (exponent : Int) : Rat :=
  (significand : Rat) * (2 : Rat) ^ exponent

def finiteValue? (x : Binary64) : Option Rat :=
  match x.meaning with
  | .finite negative significand exponent =>
      some (if negative then -scaled significand exponent
        else scaled significand exponent)
  | _ => none

def isFinite (x : Binary64) : Bool :=
  x.finiteValue?.isSome

/-- Whether a number is one, the only number that counts as singular. -/
def isOne (x : Binary64) : Bool :=
  decide (x.finiteValue? = some 1)

def isNaN (x : Binary64) : Bool :=
  decide (x.meaning = .nan)

/-! ## Rounding exact numbers -/

/-- The word of a sign and of the sixty-three bits below it. -/
def ofFields (negative : Bool) (magnitude : Nat) : Binary64 :=
  ⟨UInt64.ofNat (if negative then signBit + magnitude else magnitude)⟩

/-- The sixty-three bits of infinity; the bits of a larger finite number would
follow those of a smaller one up to here. -/
def infinityFields : Nat := 2047 * hiddenBit

def nan : Binary64 := ofFields false (infinityFields + hiddenBit / 2)

def infinity (negative : Bool) : Binary64 := ofFields negative infinityFields

def zero (negative : Bool) : Binary64 := ofFields negative 0

/-- The number nearest to `± magnitude`, ties to the even significand. A
significand that rounds up to the next power of two carries into the exponent
field, which is the same sum; whatever passes the largest finite number is
infinite. -/
def ofRat (negative : Bool) (magnitude : Rat) : Binary64 :=
  if magnitude ≤ 0 then
    zero negative
  else
    let exponent := max (leadingExponent 2 magnitude - 52) (-1074)
    let significand := roundHalfEven (magnitude / (2 : Rat) ^ exponent)
    let fields := (exponent + 1074).toNat * hiddenBit + significand
    ofFields negative (min fields infinityFields)

/-- The number nearest to an integer; zero is positive. -/
def ofInt (n : Int) : Binary64 :=
  ofRat (decide (n < 0)) n.natAbs

/-- The number nearest to `± coefficient * 10 ^ exponent`. Exponents far outside
the range are answered without the power, which would be too long to write
down. -/
def ofDecimal (negative : Bool) (coefficient : Nat) (exponent : Int) :
    Binary64 :=
  if coefficient = 0 then
    zero negative
  else
    let lead := (digitCount 10 coefficient : Int) + exponent
    if lead < -400 then
      zero negative
    else if 400 < lead then
      infinity negative
    else
      ofRat negative ((coefficient : Rat) * (10 : Rat) ^ exponent)

/-- A binary32 word, widened: eight exponent bits and twenty-three fraction
bits, every value of which is a binary64 number. -/
def ofBinary32 (word : UInt32) : Binary64 :=
  let negative := decide (0x80000000 ≤ word.toNat)
  let biased : Nat := word.toNat / 0x800000 % 256
  let fraction : Nat := word.toNat % 0x800000
  if biased = 255 then
    if fraction = 0 then infinity negative else nan
  else if biased = 0 then
    ofRat negative (scaled fraction (-149))
  else
    ofRat negative (scaled (0x800000 + fraction) ((biased : Int) - 150))

/-- The product with one hundred, rounded once. -/
def timesHundred (x : Binary64) : Binary64 :=
  match x.meaning with
  | .finite negative significand exponent =>
      ofRat negative (scaled significand exponent * 100)
  | _ => x

end Binary64

end Phrasebook
