/-!
# Dictionaries

A dictionary holds at most one value for a key, in the order in which the keys
were first inserted. Its two laws are that the keys stay distinct, which is part
of the type, and `Dictionary.get?_insert`, which says what a lookup finds after
an insertion.
-/

namespace Phrasebook

/-- Entries with keys of text, no two of which are the same. -/
structure Dictionary (α : Type) where
  entries : List (String × α) := []
  keysDistinct : (entries.map Prod.fst).Nodup := by exact List.nodup_nil

namespace Dictionary

variable {α : Type}

def lookup (key : String) : List (String × α) → Option α
  | [] => none
  | (other, value) :: rest =>
      if other = key then some value else lookup key rest

/-- Replaces the entry with a key, or appends one. -/
def replace (key : String) (value : α) :
    List (String × α) → List (String × α)
  | [] => [(key, value)]
  | (other, old) :: rest =>
      if other = key then (key, value) :: rest
      else (other, old) :: replace key value rest

/-- A replaced entry keeps the place of its key, and a new key comes last. -/
theorem keys_replace (key : String) (value : α)
    (entries : List (String × α)) :
    (replace key value entries).map Prod.fst =
      if key ∈ entries.map Prod.fst then entries.map Prod.fst
      else entries.map Prod.fst ++ [key] := by
  induction entries with
  | nil => rfl
  | cons entry rest inductionHypothesis =>
      obtain ⟨other, old⟩ := entry
      by_cases sameKey : other = key
      · simp [replace, sameKey]
      · by_cases keyInRest : key ∈ rest.map Prod.fst
        · rw [if_pos keyInRest] at inductionHypothesis
          have keyOld : key ∈ ((other, old) :: rest).map Prod.fst :=
            List.mem_cons_of_mem other keyInRest
          rw [if_pos keyOld]
          simp [replace, sameKey, inductionHypothesis]
        · rw [if_neg keyInRest] at inductionHypothesis
          have keyNew : key ∉ ((other, old) :: rest).map Prod.fst := by
            simpa [Ne.symm sameKey] using keyInRest
          rw [if_neg keyNew]
          simp [replace, sameKey, inductionHypothesis]

theorem keysDistinct_replace (key : String) (value : α)
    {entries : List (String × α)}
    (distinct : (entries.map Prod.fst).Nodup) :
    ((replace key value entries).map Prod.fst).Nodup := by
  rw [keys_replace]
  by_cases keyPresent : key ∈ entries.map Prod.fst
  · rwa [if_pos keyPresent]
  · rw [if_neg keyPresent, List.nodup_append]
    refine ⟨distinct, by simp, ?_⟩
    intro left leftMember right rightMember sameKeys
    rw [List.mem_singleton] at rightMember
    subst rightMember
    exact keyPresent (sameKeys ▸ leftMember)

def get? (dictionary : Dictionary α) (key : String) : Option α :=
  lookup key dictionary.entries

def contains (dictionary : Dictionary α) (key : String) : Bool :=
  (dictionary.get? key).isSome

/-- Adds a value under a key, in place of the one that was there. -/
def insert (dictionary : Dictionary α) (key : String) (value : α) :
    Dictionary α :=
  ⟨replace key value dictionary.entries,
    keysDistinct_replace key value dictionary.keysDistinct⟩

def size (dictionary : Dictionary α) : Nat :=
  dictionary.entries.length

/-- Inserts pairs from left to right, so that later ones win. -/
def ofPairs (pairs : List (String × α)) : Dictionary α :=
  pairs.foldl (fun dictionary pair => dictionary.insert pair.1 pair.2) {}

/-- The entries in the order of the code points of their keys. -/
def sortedEntries (dictionary : Dictionary α) : List (String × α) :=
  dictionary.entries.mergeSort fun left right => decide (left.1 ≤ right.1)

theorem lookup_replace (entries : List (String × α)) (key tested : String)
    (value : α) :
    lookup tested (replace key value entries) =
      if key = tested then some value else lookup tested entries := by
  induction entries with
  | nil => rfl
  | cons entry rest inductionHypothesis =>
      obtain ⟨other, old⟩ := entry
      by_cases sameKey : other = key
      · subst sameKey
        by_cases testedKey : other = tested <;>
          simp [replace, lookup, testedKey]
      · by_cases testedKey : other = tested
        · subst testedKey
          simp [replace, lookup, sameKey, Ne.symm sameKey]
        · simp [replace, lookup, sameKey, testedKey, inductionHypothesis]

/-- Looking up after an insertion finds the new value under its key and the old
values elsewhere. -/
@[simp]
theorem get?_insert (dictionary : Dictionary α) (key tested : String)
    (value : α) :
    (dictionary.insert key value).get? tested =
      if key = tested then some value else dictionary.get? tested :=
  lookup_replace dictionary.entries key tested value

end Dictionary

end Phrasebook
