import Phrasebook.Number.Binary64

/-!
# Reading numerals

A numeral is an optional sign followed by `inf`, `infinity` or `nan` in any
case, or by digits with an optional point among or beside them and an optional
exponent. A text that is anything else is no number.
-/

namespace Phrasebook

def decimalDigit? (c : Char) : Option Nat :=
  if '0' ≤ c ∧ c ≤ '9' then some (c.toNat - '0'.toNat) else none

def spanDigits : List Char → List Nat × List Char
  | [] => ([], [])
  | c :: rest =>
      match decimalDigit? c with
      | some digit => (digit :: (spanDigits rest).1, (spanDigits rest).2)
      | none => ([], c :: rest)

/-- An optional sign at the front of a text: whether it is a minus, and the
text behind it. -/
def spanSign : List Char → Bool × List Char
  | '-' :: rest => (true, rest)
  | '+' :: rest => (false, rest)
  | text => (false, text)

/-- A natural number written with at least one digit and nothing else. -/
def readDigits? (text : List Char) : Option Nat :=
  match spanDigits text with
  | ([], _) => none
  | (digits, []) => some (ofDigits 10 digits)
  | _ => none

/-- A 64-bit unsigned integer: digits, behind a plus sign if there is one. -/
def readSize? (text : String) : Option Nat :=
  let digits :=
    match text.toList with
    | '+' :: rest => rest
    | other => other
  match readDigits? digits with
  | some n => if n < UInt64.size then some n else none
  | none => none

def readExponent? : List Char → Option Int
  | [] => some 0
  | c :: rest =>
      if c = 'e' ∨ c = 'E' then
        let (negative, digits) := spanSign rest
        (readDigits? digits).map fun n =>
          if negative then -(n : Int) else n
      else
        none

namespace Binary64

def ofDigitText? (negative : Bool) (text : List Char) : Option Binary64 :=
  let (whole, rest) := spanDigits text
  let (places, rest) :=
    match rest with
    | '.' :: rest => spanDigits rest
    | rest => ([], rest)
  if whole = [] ∧ places = [] then
    none
  else
    (readExponent? rest).map fun exponent =>
      ofDecimal negative (ofDigits 10 (whole ++ places))
        (exponent - places.length)

def ofText? (text : String) : Option Binary64 :=
  let (negative, body) := spanSign text.toList
  let name := String.ofList (body.map Char.toLower)
  if name = "inf" ∨ name = "infinity" then
    some (infinity negative)
  else if name = "nan" then
    some nan
  else
    ofDigitText? negative body

end Binary64

end Phrasebook
