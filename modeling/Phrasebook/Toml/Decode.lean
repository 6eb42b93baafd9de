import Phrasebook.Toml.Document

/-!
# Reading settings from TOML values

What a TOML value may stand for where a setting is expected. A group of settings
is normally a table, but may also be an array with the settings in their order.
A date in place of a table is a table without any of the expected settings.
-/

namespace Phrasebook

namespace Toml

def asText? : Toml → Option String
  | string text => some text
  | _ => none

def asFlag? : Toml → Option Bool
  | boolean isSet => some isSet
  | _ => none

/-- A size, which is an integer that is not negative. -/
def asSize? : Toml → Option Nat
  | integer n => if 0 ≤ n then some n.toNat else none
  | _ => none

def asElements? : Toml → Option (List Toml)
  | array elements => some elements
  | tables elements => some (elements.map (table .header))
  | _ => none

/-- The entry that a date amounts to where a table of texts is expected. -/
def datetimeKey : String := "$__toml_private_datetime"

def asTable? : Toml → Option Entries
  | table _ entries => some entries
  | datetime text => some [(datetimeKey, string text)]
  | _ => none

/-- A group of settings: a table, or an array of at least `least` values that
belong to the names in turn. -/
def asGroup? (names : List String) (least : Nat) (value : Toml) :
    Option Entries :=
  match value.asTable? with
  | some entries => some entries
  | none => do
      let elements ← value.asElements?
      if elements.length < least then none else some (names.zip elements)

/-- A setting of a group that may be missing but not of another kind. -/
def setting? {α : Type} (read? : Toml → Option α) (name : String)
    (entries : Entries) : Option (Option α) :=
  match Dictionary.lookup name entries with
  | none => some none
  | some value => (read? value).map some

end Toml

end Phrasebook
