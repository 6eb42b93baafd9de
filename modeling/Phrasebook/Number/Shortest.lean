import Phrasebook.Number.Binary64

/-!
# Shortest decimals

The plain text of a number has the fewest digits that read back as the same
number. The reals that round to a finite number form an interval around it;
grids of one, two, … significant digits are tried in turn, and on each grid the
two neighbours of the exact value. The first grid with a neighbour inside the
interval gives the digits.
-/

namespace Phrasebook

/-- The number `coefficient * 10 ^ exponent`. -/
structure Decimal where
  coefficient : Nat
  exponent : Int
  deriving DecidableEq

namespace Decimal

def value (decimal : Decimal) : Rat :=
  (decimal.coefficient : Rat) * (10 : Rat) ^ decimal.exponent

/-- Removes trailing zeros from the coefficient, `fuel` at most. -/
def reduce : Nat → Decimal → Decimal
  | 0, decimal => decimal
  | fuel + 1, decimal =>
      if decimal.coefficient ≠ 0 ∧ decimal.coefficient % 10 = 0 then
        reduce fuel ⟨decimal.coefficient / 10, decimal.exponent + 1⟩
      else
        decimal

end Decimal

/-- The reals that round to one finite number. The ends belong to the interval
when the significand is even, because ties go to the even significand. -/
structure RoundingInterval where
  lower : Rat
  upper : Rat
  closed : Bool

namespace RoundingInterval

/-- The interval of `significand * 2 ^ exponent`. Below a power of two the
numbers lie twice as close. -/
def of (significand : Nat) (exponent : Int) : RoundingInterval where
  lower :=
    if significand = Binary64.hiddenBit ∧ -1074 < exponent then
      Binary64.scaled (4 * significand - 1) (exponent - 2)
    else
      Binary64.scaled (4 * significand - 2) (exponent - 2)
  upper := Binary64.scaled (4 * significand + 2) (exponent - 2)
  closed := decide (significand % 2 = 0)

def contains (interval : RoundingInterval) (q : Rat) : Bool :=
  if interval.closed then
    decide (interval.lower ≤ q ∧ q ≤ interval.upper)
  else
    decide (interval.lower < q ∧ q < interval.upper)

end RoundingInterval

/-- The neighbour of `value` on the grid of multiples of `10 ^ exponent` that
lies in the interval. Of two such neighbours the nearer one is taken, and of
two equally near ones the upper. -/
def gridNeighbour? (interval : RoundingInterval) (value : Rat)
    (exponent : Int) : Option Decimal :=
  let step := (10 : Rat) ^ exponent
  let below := (value / step).floor.toNat
  let lower : Rat := below * step
  let upper : Rat := (below + 1 : Nat) * step
  if interval.contains lower ∧
      (interval.contains upper = false ∨ value - lower < upper - value) then
    some ⟨below, exponent⟩
  else if interval.contains upper then
    some ⟨below + 1, exponent⟩
  else
    none

/-- Tries ever finer grids, `grids` of them, starting at the grid of
`10 ^ exponent`. -/
def firstNeighbour? (interval : RoundingInterval) (value : Rat) :
    Nat → Int → Option Decimal
  | 0, _ => none
  | grids + 1, exponent =>
      match gridNeighbour? interval value exponent with
      | some decimal => some decimal
      | none => firstNeighbour? interval value grids (exponent - 1)

/-- The shortest decimal that reads back as `significand * 2 ^ exponent`.
Seventeen significant digits always suffice. -/
def shortestDecimal (significand : Nat) (exponent : Int) : Decimal :=
  if significand = 0 then
    ⟨0, 0⟩
  else
    let value := Binary64.scaled significand exponent
    let found :=
      firstNeighbour? (.of significand exponent) value 17
        (leadingExponent 10 value)
    (found.getD ⟨0, 0⟩).reduce 17

/-! ## Texts -/

/-- The digits of a decimal without an exponent, with `places` digits after the
point at least. -/
def Decimal.positional (decimal : Decimal) (places : Nat) : List Char :=
  let digits := numeral 10 0 decimal.coefficient
  let point := (digits.length : Int) + decimal.exponent
  let whole :=
    if point ≤ 0 then ['0']
    else digits.take point.toNat ++
      List.replicate (point - digits.length).toNat '0'
  let rest :=
    List.replicate (-point).toNat '0' ++ digits.drop point.toNat
  let rest := rest ++ List.replicate (places - rest.length) '0'
  if rest = [] then whole else whole ++ '.' :: rest

/-- The digits of a decimal in the form `d.ddde±x`, without a point after a
single digit and without a plus sign. -/
def Decimal.scientific (decimal : Decimal) : List Char :=
  let digits := numeral 10 0 decimal.coefficient
  let exponent := decimal.exponent + digits.length - 1
  let mantissa :=
    match digits with
    | first :: second :: rest => first :: '.' :: second :: rest
    | _ => digits
  mantissa ++ 'e' :: (toString exponent).toList

namespace Binary64

def withSign (negative : Bool) (text : List Char) : String :=
  String.ofList (if negative then '-' :: text else text)

/-- The plain text of a number: its shortest digits, never with an exponent. -/
def plainText (x : Binary64) : String :=
  match x.meaning with
  | .nan => "NaN"
  | .infinite negative => withSign negative ['i', 'n', 'f']
  | .finite negative significand exponent =>
      withSign negative ((shortestDecimal significand exponent).positional 0)

/-- The default text of a number: the plain text, except that no zero has a
sign. -/
def defaultText (x : Binary64) : String :=
  if x.finiteValue? = some 0 then "0" else x.plainText

/-- The diagnostic text of a number: one place after the point at least, and an
exponent below `10 ^ -4` and from `10 ^ 16` on. -/
def debugText (x : Binary64) : String :=
  match x.meaning with
  | .finite negative significand exponent =>
      let value := scaled significand exponent
      let decimal := shortestDecimal significand exponent
      let least := (10 : Rat) ^ (-4 : Int)
      let limit := (10 : Rat) ^ (16 : Int)
      if value = 0 ∨ least ≤ value ∧ value < limit then
        withSign negative (decimal.positional 1)
      else
        withSign negative decimal.scientific
  | _ => x.plainText

end Binary64

end Phrasebook
