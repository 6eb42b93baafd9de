import Phrasebook.Number.Reading
import Phrasebook.Toml.Strings

/-!
# TOML numbers

Integers of sixty-four bits in four bases and binary64 numbers. A single
underscore may stand between two digits.
-/

namespace Phrasebook

namespace Toml

/-- Digits with single underscores between them: at least one digit, and the
values of all of them. -/
def readRun (digit? : Char → Option Nat) : TomlReader (List Nat)
  | [] => none
  | c :: rest =>
      match digit? c with
      | none => none
      | some digit =>
          let consDigit := Option.map fun (found : List Nat × List Char) =>
            (digit :: found.1, found.2)
          match rest with
          | [] => some ([digit], [])
          | '_' :: rest => consDigit (readRun digit? rest)
          | next :: others =>
              if (digit? next).isSome then
                consDigit (readRun digit? (next :: others))
              else
                some ([digit], next :: others)

def digitBelow? (base : Nat) (c : Char) : Option Nat :=
  (hexDigit? c).filter fun digit => digit < base

/-- A run of decimal digits without leading zeros. A zero stands alone. -/
def readWholeRun : TomlReader (List Nat)
  | '0' :: rest => some ([0], rest)
  | text => readRun decimalDigit? text

def integerOf? (n : Int) : Option Toml :=
  if -0x8000000000000000 ≤ n ∧ n < 0x8000000000000000 then
    some (.integer n)
  else
    none

/-- An integer in a base other than ten, behind the mark of the base. -/
def readBasedInteger (base : Nat) : TomlReader Toml := fun text =>
  match readRun (digitBelow? base) text with
  | some (digits, rest) =>
      (integerOf? (ofDigits base digits)).map fun value => (value, rest)
  | none => none

def readPlaces : TomlReader (List Nat)
  | '.' :: rest => readRun decimalDigit? rest
  | rest => some ([], rest)

def readExponent : TomlReader Int
  | [] => some (0, [])
  | c :: rest =>
      if c = 'e' ∨ c = 'E' then
        let signed := spanSign rest
        match readRun decimalDigit? signed.2 with
        | some (digits, rest) =>
            let n : Int := ofDigits 10 digits
            some (if signed.1 then -n else n, rest)
        | none => none
      else
        some (0, c :: rest)

/-- A finite decimal number. One that is too large to be positive is refused,
while one too far below zero becomes negative infinity. -/
def floatOf? (negative : Bool) (digits : List Nat) (exponent : Int) :
    Option Toml :=
  let x := Binary64.ofDecimal negative (ofDigits 10 digits) exponent
  if x = Binary64.infinity false then none else some (.float x)

/-- A decimal number behind its sign: an integer, or, with places or an
exponent, a binary64 number. -/
def readDecimal (negative : Bool) : TomlReader Toml := fun text => do
  let (whole, afterWhole) ← readWholeRun text
  let (places, afterPlaces) ← readPlaces afterWhole
  let (exponent, rest) ← readExponent afterPlaces
  if rest.length = afterWhole.length then
    let n : Int := ofDigits 10 whole
    let value ← integerOf? (if negative then -n else n)
    some (value, rest)
  else
    let value ← floatOf? negative (whole ++ places)
      (exponent - places.length)
    some (value, rest)

/-- A number. Only decimal numbers and the two names take a sign. -/
def readNumber : TomlReader Toml
  | '0' :: 'x' :: rest => readBasedInteger 16 rest
  | '0' :: 'o' :: rest => readBasedInteger 8 rest
  | '0' :: 'b' :: rest => readBasedInteger 2 rest
  | text =>
      let signed := spanSign text
      match signed.2 with
      | 'i' :: 'n' :: 'f' :: rest =>
          some (.float (Binary64.infinity signed.1), rest)
      | 'n' :: 'a' :: 'n' :: rest => some (.float Binary64.nan, rest)
      | digits => readDecimal signed.1 digits

end Toml

end Phrasebook
