import Phrasebook.Dictionary
import Phrasebook.Toml.Basic

/-!
# TOML tables

Keys and headers name places in a tree of tables. Tables on the way to a place
are made when they are missing. A place is filled once: neither a key nor a
header may come twice, tables in braces are closed, and dotted keys extend only
tables that dotted keys have made.
-/

namespace Phrasebook

namespace Toml

abbrev Entries := List (String × Toml)

/-- Goes down along keys and changes the entries of the table found there.
Missing tables are made with the given origin. The change is told the origin of
its table. Going through an array of tables leads to its last table. -/
def changeAt (made : TomlOrigin)
    (change : TomlOrigin → Entries → Option Entries) :
    List String → TomlOrigin → Entries → Option Entries
  | [], origin, entries => change origin entries
  | key :: path, _, entries =>
      match Dictionary.lookup key entries with
      | none => do
          let inner ← changeAt made change path made []
          some (entries ++ [(key, .table made inner)])
      | some (.table origin inner) =>
          if origin = .inline ∨ made = .dotted ∧ origin = .header then
            none
          else do
            let inner ← changeAt made change path origin inner
            some (Dictionary.replace key (.table origin inner) entries)
      | some (.tables elements) =>
          match elements.getLast? with
          | none => none
          | some last => do
              let last ← changeAt made change path .header last
              some (Dictionary.replace key
                (.tables (elements.dropLast ++ [last])) entries)
      | some _ => none

def addEntry (key : String) (value : Toml) (entries : Entries) :
    Option Entries :=
  match Dictionary.lookup key entries with
  | some _ => none
  | none => some (entries ++ [(key, value)])

/-- Adds the value of a key, whose last part is given apart. The table of a
dotted key must have been made by dotted keys. -/
def addDotted (path : List String) (key : String) (value : Toml)
    (entries : Entries) : Option Entries :=
  changeAt .dotted
    (fun origin entries =>
      if path ≠ [] ∧ origin ≠ .dotted then none
      else addEntry key value entries)
    path .header entries

def addUnder (header path : List String) (key : String) (value : Toml)
    (entries : Entries) : Option Entries :=
  changeAt .implied (fun _ entries => addDotted path key value entries)
    header .header entries

/-- Opens the table of a header. A table that was only implied by other headers
may still get its own. -/
def openTable (path : List String) (key : String) (entries : Entries) :
    Option Entries :=
  changeAt .implied
    (fun _ entries =>
      match Dictionary.lookup key entries with
      | none => some (entries ++ [(key, .table .header [])])
      | some (.table .implied inner) =>
          some (Dictionary.replace key (.table .header inner) entries)
      | some _ => none)
    path .header entries

def openElement (path : List String) (key : String) (entries : Entries) :
    Option Entries :=
  changeAt .implied
    (fun _ entries =>
      match Dictionary.lookup key entries with
      | none => some (entries ++ [(key, .tables [[]])])
      | some (.tables elements) =>
          some (Dictionary.replace key (.tables (elements ++ [[]])) entries)
      | some _ => none)
    path .header entries

end Toml

end Phrasebook
