import Mathlib.Data.List.Basic
import Phrasebook.Number.Reading

/-!
# Digits that are read

What stands at the front of a text as digits, and which texts are read as
natural numbers.
-/

namespace Phrasebook

def digitValue (c : Char) : Nat :=
  c.toNat - '0'.toNat

theorem decimalDigit?_of_isDigit
    {c : Char} (isDigit : c.isDigit) :
    decimalDigit? c = some (digitValue c) := by
  have bounds : '0' ≤ c ∧ c ≤ '9' := by
    simpa [Char.isDigit, Char.le_def] using isDigit
  exact if_pos bounds

theorem decimalDigit?_of_not_isDigit
    {c : Char} (notDigit : ¬ c.isDigit) :
    decimalDigit? c = none := by
  have outside : ¬ ('0' ≤ c ∧ c ≤ '9') := by
    simpa [Char.isDigit, Char.le_def] using notDigit
  exact if_neg outside

/-! ## Digits at the front -/

def StopsDigits (rest : List Char) : Prop :=
  ∀ c ∈ rest.head?, ¬ c.isDigit

theorem spanDigits_of_stopsDigits
    {rest : List Char} (stops : StopsDigits rest) :
    spanDigits rest = ([], rest) := by
  cases rest with
  | nil =>
      rfl
  | cons c rest =>
      have notDigit : ¬ c.isDigit := stops c rfl
      simp [spanDigits, decimalDigit?_of_not_isDigit notDigit]

theorem spanDigits_append
    {front rest : List Char} (areDigits : ∀ c ∈ front, c.isDigit)
    (stops : StopsDigits rest) :
    spanDigits (front ++ rest) = (front.map digitValue, rest) := by
  induction front with
  | nil =>
      exact spanDigits_of_stopsDigits stops
  | cons c front inductionHypothesis =>
      rw [List.forall_mem_cons] at areDigits
      have following := inductionHypothesis areDigits.2
      simp [spanDigits, decimalDigit?_of_isDigit areDigits.1, following]

/-- The text is the digits and what is behind them. -/
theorem exists_front_of_spanDigits (text : List Char) :
    ∃ front rest, text = front ++ rest ∧ (∀ c ∈ front, c.isDigit) ∧
      StopsDigits rest := by
  refine ⟨text.takeWhile Char.isDigit, text.dropWhile Char.isDigit,
    List.takeWhile_append_dropWhile.symm, ?_, ?_⟩
  · intro c isMember
    have allTaken := List.all_takeWhile (l := text) (p := Char.isDigit)
    exact List.all_eq_true.mp allTaken c isMember
  · intro c isHead
    have failing := List.head?_dropWhile_not Char.isDigit text
    rw [isHead] at failing
    simpa using failing

/-! ## Natural numbers -/

theorem readDigits?_eq_some_iff
    {text : List Char} {n : Nat} :
    readDigits? text = some n ↔
      text ≠ [] ∧ (∀ c ∈ text, c.isDigit) ∧
        n = ofDigits 10 (text.map digitValue) := by
  obtain ⟨front, rest, rfl, areDigits, stops⟩ :=
    exists_front_of_spanDigits text
  unfold readDigits?
  rw [spanDigits_append areDigits stops]
  cases front with
  | nil =>
      cases rest with
      | nil =>
          simp
      | cons c rest =>
          have notDigit : ¬ c.isDigit := stops c rfl
          simp [notDigit]
  | cons first front =>
      cases rest with
      | nil =>
          rw [List.append_nil]
          constructor
          · intro isRead
            cases isRead
            exact ⟨List.cons_ne_nil _ _, areDigits, rfl⟩
          · rintro ⟨_, _, rfl⟩
            rfl
      | cons c rest =>
          have notDigit : ¬ c.isDigit := stops c rfl
          constructor
          · intro isRead
            cases isRead
          · rintro ⟨_, allDigits, _⟩
            have isMember : c ∈ first :: front ++ c :: rest :=
              List.mem_append_right _ List.mem_cons_self
            exact absurd (allDigits c isMember) notDigit

/-! ## Sizes -/

theorem readSize?_plus (digits : List Char) :
    readSize? (String.ofList ('+' :: digits)) =
      (readDigits? digits).filter (· < UInt64.size) := by
  simp only [readSize?, String.toList_ofList]
  cases readDigits? digits <;> simp [Option.filter]

theorem readSize?_unsigned
    {digits : List Char} (unsigned : ∀ rest, digits ≠ '+' :: rest) :
    readSize? (String.ofList digits) =
      (readDigits? digits).filter (· < UInt64.size) := by
  unfold readSize?
  rw [String.toList_ofList]
  split
  · rename_i rest
    exact absurd rfl (unsigned rest)
  · dsimp only
    cases readDigits? digits <;> simp [Option.filter]

/-- A plus sign may stand in front of the digits of a size. -/
theorem readSize?_eq_some_iff
    {text : List Char} {n : Nat} :
    readSize? (String.ofList text) = some n ↔
      n < UInt64.size ∧
        ∃ digits, (text = digits ∨ text = '+' :: digits) ∧
          readDigits? digits = some n := by
  by_cases unsigned : ∀ rest, text ≠ '+' :: rest
  · rw [readSize?_unsigned unsigned, Option.filter_eq_some_iff]
    constructor
    · rintro ⟨isRead, isBounded⟩
      exact ⟨of_decide_eq_true isBounded, text, .inl rfl, isRead⟩
    · rintro ⟨isBounded, digits, isText | isText, isRead⟩
      · subst isText
        exact ⟨isRead, decide_eq_true isBounded⟩
      · exact absurd isText (unsigned digits)
  · push Not at unsigned
    obtain ⟨rest, rfl⟩ := unsigned
    rw [readSize?_plus, Option.filter_eq_some_iff]
    constructor
    · rintro ⟨isRead, isBounded⟩
      exact ⟨of_decide_eq_true isBounded, rest, .inr rfl, isRead⟩
    · rintro ⟨isBounded, digits, isText | isText, isRead⟩
      · have areDigits := (readDigits?_eq_some_iff.mp isRead).2.1
        rw [← isText] at areDigits
        have isDigit := areDigits '+' List.mem_cons_self
        cases isDigit
      · cases isText
        exact ⟨isRead, decide_eq_true isBounded⟩

/-! ## Digits that are written -/

section Written

variable {digits : List Nat}

theorem isDigit_digitChar
    {digit : Nat} (isSmall : digit < 10) :
    digit.digitChar.isDigit ∧ digitValue digit.digitChar = digit := by
  decide +revert

theorem isDigit_of_mem_digitText
    (areDigits : ∀ digit ∈ digits, digit < 10) :
    ∀ c ∈ digitText digits, c.isDigit := by
  intro c isMember
  obtain ⟨digit, isDigit, rfl⟩ := List.mem_map.mp isMember
  exact (isDigit_digitChar (areDigits digit isDigit)).1

theorem map_digitValue_digitText
    (areDigits : ∀ digit ∈ digits, digit < 10) :
    (digitText digits).map digitValue = digits := by
  have kept (digit : Nat) (isMember : digit ∈ digits) :
      (digitValue ∘ Nat.digitChar) digit = id digit :=
    (isDigit_digitChar (areDigits digit isMember)).2
  unfold digitText
  rw [List.map_map, List.map_congr_left kept, List.map_id]

end Written

/-! ## Decimal texts -/

/-- The number that digits around a point and an exponent denote. -/
def magnitude? (text : List Char) : Option Rat :=
  let (whole, rest) := spanDigits text
  let (places, rest) :=
    match rest with
    | '.' :: rest => spanDigits rest
    | rest => ([], rest)
  if whole = [] ∧ places = [] then
    none
  else
    (readExponent? rest).map fun (exponent : Int) =>
      (ofDigits 10 (whole ++ places) : Rat) *
        (10 : Rat) ^ (exponent - places.length)

/-- The number that a text denotes, with a sign if there is one. -/
def decimalValue? (text : List Char) : Option Rat :=
  let (negative, body) := spanSign text
  (magnitude? body).map fun magnitude =>
    if negative then -magnitude else magnitude

theorem decimalValue?_minus (text : List Char) :
    decimalValue? ('-' :: text) = (magnitude? text).map fun value => -value :=
  rfl

theorem decimalValue?_of_isDigit
    {c : Char} {rest : List Char} (isDigit : c.isDigit) :
    decimalValue? (c :: rest) = magnitude? (c :: rest) := by
  have unsigned : spanSign (c :: rest) = (false, c :: rest) := by
    unfold spanSign
    split
    · rename_i isMinus
      cases isMinus
      cases isDigit
    · rename_i isPlus
      cases isPlus
      cases isDigit
    · rfl
  unfold decimalValue?
  rw [unsigned]
  simp

end Phrasebook
