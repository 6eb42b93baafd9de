import Phrasebook.Toml.Numbers

/-!
# TOML dates and times

A date, a time, or both with an optional offset. They are checked against the
calendar and kept in their canonical spelling.
-/

namespace Phrasebook

namespace Toml

/-- A number of exactly `count` digits, from `least` to `greatest`. -/
def readField (count least greatest : Nat) : TomlReader Nat := fun text =>
  let digits := (text.take count).filterMap decimalDigit?
  let n := ofDigits 10 digits
  if digits.length = count ∧ least ≤ n ∧ n ≤ greatest then
    some (n, text.drop count)
  else
    none

def skipMark? (mark : Char) : List Char → Option (List Char)
  | [] => none
  | c :: rest => if c = mark then some rest else none

def daysIn (year month : Nat) : Nat :=
  if month = 2 then
    if year % 4 = 0 ∧ (year % 100 ≠ 0 ∨ year % 400 = 0) then 29 else 28
  else if month = 4 ∨ month = 6 ∨ month = 9 ∨ month = 11 then
    30
  else
    31

def twoDigits (n : Nat) : List Char :=
  numeral 10 2 n

def readDate : TomlReader (List Char) := fun text => do
  let (year, text) ← readField 4 0 9999 text
  let text ← skipMark? '-' text
  let (month, text) ← readField 2 1 12 text
  let text ← skipMark? '-' text
  let (day, text) ← readField 2 1 (daysIn year month) text
  some (numeral 10 4 year ++ '-' :: twoDigits month ++ '-' :: twoDigits day,
    text)

/-- The places of a second: nine at most, without trailing zeros. -/
def readSecondPlaces : TomlReader (List Char)
  | '.' :: rest =>
      let found := spanDigits rest
      let places := (found.1.take 9).reverse.dropWhile (· == 0)
      if found.1 = [] then
        some ([], '.' :: rest)
      else if places = [] then
        some ([], found.2)
      else
        some ('.' :: digitText places.reverse, found.2)
  | rest => some ([], rest)

def readTime : TomlReader (List Char) := fun text => do
  let (hour, text) ← readField 2 0 23 text
  let text ← skipMark? ':' text
  let (minute, text) ← readField 2 0 59 text
  let text ← skipMark? ':' text
  let (second, text) ← readField 2 0 60 text
  let (places, text) ← readSecondPlaces text
  some (twoDigits hour ++ ':' :: twoDigits minute ++
    ':' :: twoDigits second ++ places, text)

/-- An offset from universal time, in its canonical spelling, if there is one.
No offset is negative zero. -/
def readOffset : TomlReader (List Char)
  | [] => some ([], [])
  | c :: rest =>
      if c = 'Z' ∨ c = 'z' then
        some (['Z'], rest)
      else if c = '+' ∨ c = '-' then do
        let (hour, text) ← readField 2 0 23 rest
        let text ← skipMark? ':' text
        let (minute, text) ← readField 2 0 59 text
        let sign := if hour = 0 ∧ minute = 0 then '+' else c
        some (sign :: twoDigits hour ++ ':' :: twoDigits minute, text)
      else
        some ([], c :: rest)

def readTimeOfDate : TomlReader (List Char)
  | [] => some ([], [])
  | c :: rest =>
      if c = 'T' ∨ c = 't' ∨ c = ' ' then
        match readTime rest with
        | some (time, rest) =>
            (readOffset rest).map fun found =>
              ('T' :: time ++ found.1, found.2)
        | none => some ([], c :: rest)
      else
        some ([], c :: rest)

def readDatetime : TomlReader Toml := fun text =>
  match readDate text with
  | some (date, rest) =>
      (readTimeOfDate rest).map fun found =>
        (.datetime (String.ofList (date ++ found.1)), found.2)
  | none =>
      (readTime text).map fun found =>
        (.datetime (String.ofList found.1), found.2)

end Toml

end Phrasebook
