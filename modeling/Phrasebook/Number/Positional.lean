/-!
# Positional numerals

Digit lists of natural numbers in any base, most significant digit first, and
the place of the leading digit of a positive rational number. Everything here
is exact; rounding to a whole number is `roundHalfEven`.
-/

namespace Phrasebook

/-! ## Digits of a natural number -/

def digitCountWithin (base : Nat) : Nat → Nat → Nat
  | 0, _ => 1
  | fuel + 1, n =>
      if n < base then 1 else digitCountWithin base fuel (n / base) + 1

/-- The number of digits of `n`, where zero has one digit. A number has no more
digits in a larger base than it has bits, which bounds the divisions. -/
def digitCount (base n : Nat) : Nat :=
  digitCountWithin base (n.log2 + 1) n

/-- The lowest `width` digits of `n`, padded with zeros on the left. -/
def digitsOf (base : Nat) : Nat → Nat → List Nat
  | 0, _ => []
  | width + 1, n => digitsOf base width (n / base) ++ [n % base]

def ofDigits (base : Nat) (digits : List Nat) : Nat :=
  digits.foldl (fun n digit => n * base + digit) 0

@[simp] theorem length_digitsOf (base width n : Nat) :
    (digitsOf base width n).length = width := by
  induction width generalizing n with
  | zero => rfl
  | succ width ih => simp [digitsOf, ih]

/-- The characters of a digit list, with `a` to `f` for ten to fifteen. -/
def digitText (digits : List Nat) : List Char :=
  digits.map Nat.digitChar

def numeral (base width n : Nat) : List Char :=
  digitText (digitsOf base (max width (digitCount base n)) n)

/-! ## Size of a rational number -/

/-- The largest `x` with `base ^ x ≤ q`, for a positive `q`. Below one it is
read off the reciprocal, whose whole part has as many digits as places are
skipped. -/
def leadingExponent (base : Nat) (q : Rat) : Int :=
  if 1 ≤ q then
    (digitCount base q.floor.toNat : Int) - 1
  else
    -(digitCount base (q⁻¹.ceil.toNat - 1) : Int)

/-- The natural number nearest to a non-negative `q`; a half goes to the even
neighbour. -/
def roundHalfEven (q : Rat) : Nat :=
  let whole := q.floor.toNat
  let rest := q - whole
  if rest < 1 / 2 ∨ rest = 1 / 2 ∧ whole % 2 = 0 then whole else whole + 1

end Phrasebook
