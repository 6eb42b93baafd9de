import Mathlib.Data.List.Forall2
import Phrasebook.ContextFile
import Phrasebook.Proofs.SlotHistories
import Phrasebook.TableFile

/-!
# What documents say

What a document says about a string table or a context is told here by the
forms of its values alone: what counts as a text, a group of settings or an
attribute, and what stands for a setting that is missing. Tables and contexts
are made of exactly those documents that say something, and as they say.
-/

namespace Phrasebook

variable {α β : Type}

/-- Something is found in exactly the sources that mean something, and it is
what they mean. -/
structure Reads {Source : Type} (read? : Source → Option α)
    (means : Source → α → Prop) : Prop where
  sound : ∀ {source value}, read? source = some value → means source value
  complete : ∀ {source value}, means source value →
    ∃ found, read? source = some found

section Readers

variable {Source Middle : Type} {read? : Source → Option α}
  {means : Source → α → Prop}

theorem Reads.of_iff
    (isRead : ∀ source value, read? source = some value ↔ means source value) :
    Reads read? means where
  sound := (isRead _ _).mp
  complete meant := ⟨_, (isRead _ _).mpr meant⟩

/-- What is read from what is known exactly. -/
theorem Reads.bind
    {first? : Source → Option Middle} {first : Source → Middle → Prop}
    {next? : Middle → Option α} {next : Middle → α → Prop}
    (isFirst : ∀ source middle,
      first? source = some middle ↔ first source middle)
    (reads : Reads next? next) :
    Reads (fun source => (first? source).bind next?)
      (fun source value => ∃ middle, first source middle ∧
        next middle value) where
  sound := by
    intro source value found
    obtain ⟨middle, isMiddle, isValue⟩ := Option.bind_eq_some_iff.mp found
    exact ⟨middle, (isFirst source middle).mp isMiddle, reads.sound isValue⟩
  complete := by
    rintro source value ⟨middle, isMiddle, isValue⟩
    obtain ⟨found, isFound⟩ := reads.complete isValue
    refine ⟨found, Option.bind_eq_some_iff.mpr ⟨middle, ?_, isFound⟩⟩
    exact (isFirst source middle).mpr isMiddle

theorem Reads.mapM (reads : Reads read? means) :
    Reads (List.mapM read?) (List.Forall₂ means) where
  sound := by
    intro sources
    induction sources with
    | nil =>
        intro values found
        cases found
        exact .nil
    | cons source rest inductionHypothesis =>
        intro values found
        rw [List.mapM_cons] at found
        obtain ⟨value, isValue, found⟩ := Option.bind_eq_some_iff.mp found
        obtain ⟨others, areOthers, found⟩ := Option.bind_eq_some_iff.mp found
        cases found
        exact .cons (reads.sound isValue) (inductionHypothesis areOthers)
  complete := by
    intro sources values meant
    induction meant with
    | nil =>
        exact ⟨[], rfl⟩
    | cons meant _ inductionHypothesis =>
        obtain ⟨value, isValue⟩ := reads.complete meant
        obtain ⟨others, areOthers⟩ := inductionHypothesis
        refine ⟨value :: others, ?_⟩
        rw [List.mapM_cons, isValue, areOthers]
        rfl

end Readers

/-! ## Dictionaries -/

namespace Dictionary

/-- A lookup finds the first pair with the key. -/
theorem lookup_eq_some_iff
    {key : String} {entries : List (String × α)} {value : α} :
    lookup key entries = some value ↔
      ∃ before after, entries = before ++ (key, value) :: after ∧
        key ∉ before.map Prod.fst := by
  induction entries with
  | nil =>
      simp [lookup]
  | cons entry rest inductionHypothesis =>
      obtain ⟨other, first⟩ := entry
      rw [lookup]
      by_cases isKey : other = key
      · subst isKey
        rw [if_pos rfl]
        constructor
        · rintro ⟨⟩
          exact ⟨[], rest, rfl, List.not_mem_nil⟩
        · rintro ⟨before, after, equality, notBefore⟩
          cases before with
          | nil =>
              cases equality
              rfl
          | cons pair others =>
              cases equality
              exact absurd List.mem_cons_self notBefore
      · rw [if_neg isKey, inductionHypothesis]
        constructor
        · rintro ⟨before, after, rfl, notBefore⟩
          refine ⟨(other, first) :: before, after, rfl, ?_⟩
          simpa [Ne.symm isKey] using notBefore
        · rintro ⟨before, after, equality, notBefore⟩
          cases before with
          | nil =>
              cases equality
              exact absurd rfl isKey
          | cons pair others =>
              cases equality
              exact ⟨others, after, rfl, fun member =>
                notBefore (List.mem_cons_of_mem _ member)⟩

theorem lookup_eq_none_iff
    {key : String} {entries : List (String × α)} :
    lookup key entries = none ↔ key ∉ entries.map Prod.fst := by
  induction entries with
  | nil =>
      simp [lookup]
  | cons entry rest inductionHypothesis =>
      obtain ⟨other, first⟩ := entry
      by_cases isKey : other = key
      · simp [lookup, isKey]
      · simp only [lookup, isKey, if_false, inductionHypothesis, List.map_cons,
          List.mem_cons, Ne.symm isKey, false_or]

/-- A dictionary holds the last value of each key in a list of pairs, and
nothing under other keys. -/
def Collects (dictionary : Dictionary α) (pairs : List (String × α)) : Prop :=
  ∀ key value, dictionary.get? key = some value ↔
    ∃ before after, pairs = before ++ (key, value) :: after ∧
      key ∉ after.map Prod.fst

theorem get?_ofPairs (pairs : List (String × α)) (key : String) :
    (ofPairs pairs).get? key = lookup key pairs.reverse := by
  induction pairs using List.reverseRecOn with
  | nil =>
      rfl
  | append_singleton others pair inductionHypothesis =>
      obtain ⟨last, value⟩ := pair
      have isInserted :
          ofPairs (others ++ [(last, value)]) =
            (ofPairs others).insert last value :=
        List.foldl_append
      rw [isInserted, get?_insert, List.reverse_append, inductionHypothesis]
      rfl

theorem ofPairs_collects (pairs : List (String × α)) :
    (ofPairs pairs).Collects pairs := by
  intro key value
  rw [get?_ofPairs, lookup_eq_some_iff]
  constructor
  · rintro ⟨before, after, equality, notBefore⟩
    refine ⟨after.reverse, before.reverse, ?_, ?_⟩
    · rw [← List.reverse_inj, equality]
      simp
    · rwa [List.map_reverse, List.mem_reverse]
  · rintro ⟨before, after, rfl, notAfter⟩
    refine ⟨after.reverse, before.reverse, by simp, ?_⟩
    rwa [List.map_reverse, List.mem_reverse]

end Dictionary

namespace Toml

/-! ## Forms of values -/

inductive HasElements : Toml → List Toml → Prop
  | array (elements : List Toml) :
      HasElements (.array elements) elements
  | tables (groups : List Entries) :
      HasElements (.tables groups) (groups.map (.table .header))

/-- The entries of a table. A date is a table that holds its text. -/
inductive HasEntries : Toml → Entries → Prop
  | table (origin : TomlOrigin) (entries : Entries) :
      HasEntries (.table origin entries) entries
  | datetime (text : String) :
      HasEntries (.datetime text)
        [("$__toml_private_datetime", .string text)]

/-- A group of settings: the entries of a table, or elements that belong to the
names in turn. There may be more elements than names, but not too few. -/
inductive IsGroup (names : List String) (least : Nat) : Toml → Entries → Prop
  | table {value : Toml} {entries : Entries} :
      HasEntries value entries →
      IsGroup names least value entries
  | array {value : Toml} {elements : List Toml} :
      HasElements value elements →
      least ≤ elements.length →
      IsGroup names least value (names.zip elements)

/-- What is set under a name: nothing where the name is missing, and else what
the first value under it means. -/
inductive Sets (means : Toml → α → Prop) (name : String) :
    Entries → Option α → Prop
  | nothing {entries : Entries} :
      name ∉ entries.map Prod.fst →
      Sets means name entries none
  | something {before after : Entries} {value : Toml} {meant : α} :
      name ∉ before.map Prod.fst →
      means value meant →
      Sets means name (before ++ (name, value) :: after) (some meant)

inductive IsDictionary (means : Toml → α → Prop) :
    Toml → Dictionary α → Prop
  | collected {value : Toml} {entries : Entries} {pairs : List (String × α)}
      {dictionary : Dictionary α} :
      HasEntries value entries →
      List.Forall₂
        (fun entry pair => pair.1 = entry.1 ∧ means entry.2 pair.2)
        entries pairs →
      dictionary.Collects pairs →
      IsDictionary means value dictionary

theorem asText?_eq_some_iff (value : Toml) (text : String) :
    value.asText? = some text ↔ value = .string text := by
  cases value <;> simp [asText?]

theorem asFlag?_eq_some_iff (value : Toml) (isSet : Bool) :
    value.asFlag? = some isSet ↔ value = .boolean isSet := by
  cases value <;> simp [asFlag?]

theorem asSize?_eq_some_iff (value : Toml) (size : Nat) :
    value.asSize? = some size ↔ value = .integer size := by
  cases value with
  | integer n =>
      simp only [asSize?, Option.ite_none_right_eq_some, Option.some.injEq,
        integer.injEq]
      omega
  | _ =>
      simp [asSize?]

theorem asElements?_eq_some_iff (value : Toml) (elements : List Toml) :
    value.asElements? = some elements ↔ HasElements value elements := by
  constructor
  · intro found
    cases value with
    | array | tables =>
        cases found
        constructor
    | _ =>
        cases found
  · rintro (_ | _) <;> rfl

theorem asTable?_eq_some_iff (value : Toml) (entries : Entries) :
    value.asTable? = some entries ↔ HasEntries value entries := by
  constructor
  · intro found
    cases value with
    | table | datetime =>
        cases found
        constructor
    | _ =>
        cases found
  · rintro (_ | _) <;> rfl

theorem HasElements.asTable?_eq_none
    {value : Toml} {elements : List Toml}
    (hasElements : HasElements value elements) :
    value.asTable? = none := by
  cases hasElements <;> rfl

/-- Nothing is both a table and an array, so that a group is read in one way. -/
theorem asGroup?_eq_some_iff
    (names : List String) (least : Nat) (value : Toml) (entries : Entries) :
    value.asGroup? names least = some entries ↔
      IsGroup names least value entries := by
  unfold asGroup?
  constructor
  · intro found
    cases isTable : value.asTable? with
    | some inner =>
        rw [isTable] at found
        cases found
        exact .table ((asTable?_eq_some_iff _ _).mp isTable)
    | none =>
        rw [isTable] at found
        obtain ⟨elements, areElements, found⟩ :=
          Option.bind_eq_some_iff.mp found
        split at found
        · cases found
        · rename_i enough
          cases found
          exact .array ((asElements?_eq_some_iff _ _).mp areElements)
            (Nat.not_lt.mp enough)
  · intro isGroup
    cases isGroup with
    | table hasEntries =>
        rw [(asTable?_eq_some_iff _ _).mpr hasEntries]
    | array hasElements enough =>
        rw [hasElements.asTable?_eq_none]
        dsimp only
        rw [(asElements?_eq_some_iff _ _).mpr hasElements]
        exact if_neg (Nat.not_lt.mpr enough)

theorem reads_setting
    {read? : Toml → Option α} {means : Toml → α → Prop}
    (reads : Reads read? means) (name : String) :
    Reads (setting? read? name) (Sets means name) where
  sound := by
    intro entries found isSet
    unfold setting? at isSet
    cases isEntry : Dictionary.lookup name entries with
    | none =>
        rw [isEntry] at isSet
        cases isSet
        exact .nothing (Dictionary.lookup_eq_none_iff.mp isEntry)
    | some value =>
        rw [isEntry] at isSet
        obtain ⟨meant, isMeant, rfl⟩ := Option.map_eq_some_iff.mp isSet
        obtain ⟨before, after, rfl, notBefore⟩ :=
          Dictionary.lookup_eq_some_iff.mp isEntry
        exact .something notBefore (reads.sound isMeant)
  complete := by
    rintro _ _ (missing | ⟨notBefore, meant⟩)
    · refine ⟨none, ?_⟩
      rw [setting?, Dictionary.lookup_eq_none_iff.mpr missing]
    · obtain ⟨found, isFound⟩ := reads.complete meant
      refine ⟨some found, ?_⟩
      rw [setting?, Dictionary.lookup_eq_some_iff.mpr ⟨_, _, rfl, notBefore⟩]
      exact congrArg (Option.map some) isFound

/-- A dictionary is read entry by entry, and later entries win. -/
theorem reads_dictionary
    {read? : Toml → Option α} {means : Toml → α → Prop}
    (reads : Reads read? means) :
    Reads
      (fun value => do
        let entries ← value.asTable?
        let pairs ← entries.mapM fun (name, value) =>
          (read? value).map fun meant => (name, meant)
        some (Dictionary.ofPairs pairs))
      (IsDictionary means) := by
  have readsPairs :
      Reads
        (fun entry : String × Toml =>
          (read? entry.2).map fun meant => (entry.1, meant))
        (fun entry pair => pair.1 = entry.1 ∧ means entry.2 pair.2) := by
    constructor
    · intro entry pair found
      obtain ⟨meant, isMeant, rfl⟩ := Option.map_eq_some_iff.mp found
      exact ⟨rfl, reads.sound isMeant⟩
    · rintro entry pair ⟨_, meant⟩
      obtain ⟨found, isFound⟩ := reads.complete meant
      exact ⟨_, Option.map_eq_some_iff.mpr ⟨found, isFound, rfl⟩⟩
  constructor
  · intro value dictionary found
    obtain ⟨entries, areEntries, found⟩ := Option.bind_eq_some_iff.mp found
    obtain ⟨pairs, arePairs, found⟩ := Option.bind_eq_some_iff.mp found
    cases found
    exact .collected ((asTable?_eq_some_iff _ _).mp areEntries)
      (readsPairs.mapM.sound arePairs) (Dictionary.ofPairs_collects pairs)
  · rintro value dictionary ⟨hasEntries, arePairs, _⟩
    obtain ⟨pairs, isFound⟩ := readsPairs.mapM.complete arePairs
    refine ⟨.ofPairs pairs, ?_⟩
    rw [(asTable?_eq_some_iff _ _).mpr hasEntries]
    exact congrArg (Option.bind · (some ∘ Dictionary.ofPairs)) isFound

/-! ## Values of a context -/

/-- A value that is neither a date, nor an array, nor a table. -/
inductive IsPlain : Toml → Value → Prop
  | flag (isSet : Bool) :
      IsPlain (.boolean isSet) (.flag isSet)
  | integer (n : Int) :
      IsPlain (.integer n) (.number (.ofInt n))
  | float (x : Binary64) :
      IsPlain (.float x) (.number x)
  | text (content : String) :
      IsPlain (.string content) (.text content)

inductive ArePlain : Toml → List Value → Prop
  | array {value : Toml} {elements : List Toml} {values : List Value} :
      HasElements value elements →
      List.Forall₂ IsPlain elements values →
      ArePlain value values

end Toml

/-- An attribute that shows its slots as they are. One without slots is written
as its flag. -/
def Attribute.ofSettings (slots : List Value) (enabled : Option Bool)
    (separator : String) : Attribute where
  slotCount := slots.length
  slot := fun index => slots[index]?
  rawSlot := fun index => slots[index]?
  enabled := enabled
  selfText := fun onOwner =>
    if slots = [] then
      flagText (enabled.getD true)
    else
      separator.intercalate (slots.map (Value.toText onOwner))
  debugText :=
    SlotAttribute.debugText
      { raw := slots
        effective := List.replicate slots.length none
        enabled := enabled
        separator := separator }

namespace Toml

/-- The settings of an attribute, which may all be missing. -/
inductive IsAttributeOf : Entries → Attribute → Prop
  | ofSettings {entries : Entries} {slots : Option (List Value)}
      {enabled : Option Bool} {separator : Option String} :
      Sets ArePlain "slots" entries slots →
      Sets (fun value isSet => value = .boolean isSet) "enabled" entries
        enabled →
      Sets (fun value text => value = .string text) "separator" entries
        separator →
      IsAttributeOf entries
        (.ofSettings (slots.getD []) enabled (separator.getD "/"))

inductive IsAttribute : Toml → Attribute → Prop
  | group {value : Toml} {entries : Entries} {attr : Attribute} :
      IsGroup ["slots", "enabled", "separator"] 3 value entries →
      IsAttributeOf entries attr →
      IsAttribute value attr

/-- What a field of a subject may be. An attribute that is written as an array
has exactly its three settings. -/
inductive IsField : Toml → Value → Prop
  | plain {value : Toml} {plain : Value} :
      IsPlain value plain →
      IsField value plain
  | table {value : Toml} {entries : Entries} {attr : Attribute} :
      HasEntries value entries →
      IsAttributeOf entries attr →
      IsField value (.attr attr)
  | array {value slots enabled separator : Toml} {attr : Attribute} :
      HasElements value [slots, enabled, separator] →
      IsAttributeOf
        [("slots", slots), ("enabled", enabled), ("separator", separator)]
        attr →
      IsField value (.attr attr)

theorem plainValueOf?_eq_some_iff (value : Toml) (plain : Value) :
    plainValueOf? value = some plain ↔ IsPlain value plain := by
  constructor
  · intro found
    cases value with
    | boolean | integer | float | string =>
        cases found
        constructor
    | _ =>
        cases found
  · rintro (_ | _ | _ | _) <;> rfl

theorem reads_plainValues : Reads plainValuesOf? ArePlain := by
  have reads :=
    (Reads.of_iff plainValueOf?_eq_some_iff).mapM.bind asElements?_eq_some_iff
  constructor
  · intro value values found
    obtain ⟨elements, hasElements, arePlain⟩ := reads.sound found
    exact .array hasElements arePlain
  · rintro value values ⟨hasElements, arePlain⟩
    exact reads.complete ⟨_, hasElements, arePlain⟩

theorem toAttribute_eq_ofSettings
    (slots : List Value) (enabled : Option Bool) (separator : String) :
    SlotAttribute.toAttribute
        { raw := slots
          effective := List.replicate slots.length none
          enabled := enabled
          separator := separator } =
      Attribute.ofSettings slots enabled separator := by
  let held : SlotAttribute :=
    ⟨slots, List.replicate slots.length none, enabled, separator⟩
  have sameSlots : held.slot = (slots[·]?) :=
    funext (SlotAttribute.slot_ofSlots slots)
  have sameText :
      held.selfText =
        (Attribute.ofSettings slots enabled separator).selfText := by
    funext onOwner
    rw [SlotAttribute.selfText, sameSlots,
      SlotAttribute.filterMap_range_getElem?]
    rfl
  change held.toAttribute = _
  rw [SlotAttribute.toAttribute, sameSlots, sameText]
  rfl

theorem adjustAll_settings
    (slots : List Value) (enabled : Option Bool) (separator : Option String) :
    (SlotAttribute.ofSlots slots).adjustAll
        ((enabled.map Adjustment.enabled).toList ++
          (separator.map Adjustment.separator).toList) =
      { raw := slots
        effective := List.replicate slots.length none
        enabled := enabled
        separator := separator.getD "/" } := by
  cases enabled <;> cases separator <;> rfl

theorem reads_attributeOfEntries : Reads attributeOfEntries? IsAttributeOf := by
  have readsSlots := reads_setting reads_plainValues "slots"
  have readsFlag := reads_setting (.of_iff asFlag?_eq_some_iff) "enabled"
  have readsText := reads_setting (.of_iff asText?_eq_some_iff) "separator"
  constructor
  · intro entries attr found
    obtain ⟨slots, areSlots, found⟩ := Option.bind_eq_some_iff.mp found
    obtain ⟨enabled, isFlag, found⟩ := Option.bind_eq_some_iff.mp found
    obtain ⟨separator, isText, found⟩ := Option.bind_eq_some_iff.mp found
    cases found
    rw [adjustAll_settings, toAttribute_eq_ofSettings]
    exact .ofSettings (readsSlots.sound areSlots) (readsFlag.sound isFlag)
      (readsText.sound isText)
  · rintro entries attr ⟨areSlots, isFlag, isText⟩
    obtain ⟨slots, areSlots⟩ := readsSlots.complete areSlots
    obtain ⟨enabled, isFlag⟩ := readsFlag.complete isFlag
    obtain ⟨separator, isText⟩ := readsText.complete isText
    unfold attributeOfEntries?
    rw [areSlots, isFlag, isText]
    exact ⟨_, rfl⟩

theorem reads_attribute : Reads attributeOf? IsAttribute := by
  have reads :=
    reads_attributeOfEntries.bind (asGroup?_eq_some_iff attributeNames 3)
  constructor
  · intro value attr found
    obtain ⟨entries, isGroup, isAttribute⟩ := reads.sound found
    exact .group isGroup isAttribute
  · rintro value attr ⟨isGroup, isAttribute⟩
    exact reads.complete ⟨_, isGroup, isAttribute⟩

theorem HasEntries.asElements?_eq_none
    {value : Toml} {entries : Entries}
    (hasEntries : HasEntries value entries) :
    value.asElements? = none := by
  cases hasEntries <;> rfl

/-- A group of settings is never a plain value. -/
theorem IsGroup.plainValueOf?_eq_none
    {names : List String} {least : Nat} {value : Toml} {entries : Entries}
    (isGroup : IsGroup names least value entries) :
    plainValueOf? value = none := by
  rcases isGroup with (_ | _) | ⟨_ | _⟩ <;> rfl

/-- A group that is not too long is read as an attribute. -/
theorem fieldOf?_of_isGroup
    {value : Toml} {entries : Entries}
    (isGroup : IsGroup attributeNames 3 value entries)
    (notLong : (value.asElements?.getD []).length ≤ 3) :
    fieldOf? value = (attributeOfEntries? entries).map Value.attr := by
  unfold fieldOf?
  rw [isGroup.plainValueOf?_eq_none]
  refine (congrArg (Option.bind · _)
    ((asGroup?_eq_some_iff _ _ _ _).mpr isGroup)).trans ?_
  exact if_neg (Nat.not_lt.mpr notLong)

theorem exists_isGroup_of_fieldOf?
    {value : Toml} {field : Value} (notPlain : plainValueOf? value = none)
    (found : fieldOf? value = some field) :
    ∃ entries, IsGroup attributeNames 3 value entries ∧
      (value.asElements?.getD []).length ≤ 3 := by
  unfold fieldOf? at found
  rw [notPlain] at found
  obtain ⟨entries, foundGroup, found⟩ := Option.bind_eq_some_iff.mp found
  refine ⟨entries, (asGroup?_eq_some_iff _ _ _ _).mp foundGroup, ?_⟩
  dsimp only at found
  split at found
  · cases found
  · rename_i notLong
    exact Nat.not_lt.mp notLong

theorem IsGroup.isField
    {value : Toml} {entries : Entries} {attr : Attribute}
    (isGroup : IsGroup attributeNames 3 value entries)
    (notLong : (value.asElements?.getD []).length ≤ 3)
    (isAttribute : IsAttributeOf entries attr) :
    IsField value (.attr attr) := by
  cases isGroup with
  | table hasEntries =>
      exact .table hasEntries isAttribute
  | @array elements hasElements enough =>
      rw [(asElements?_eq_some_iff _ _).mpr hasElements] at notLong
      have three : elements.length = 3 := Nat.le_antisymm notLong enough
      obtain ⟨slots, enabled, separator, rfl⟩ := List.length_eq_three.mp three
      exact .array hasElements isAttribute

/-- A plain value goes before an attribute, and no value is both. -/
theorem reads_field : Reads fieldOf? IsField where
  sound := by
    intro value field found
    cases isPlain : plainValueOf? value with
    | some plain =>
        rw [fieldOf?, isPlain] at found
        cases found
        exact .plain ((plainValueOf?_eq_some_iff _ _).mp isPlain)
    | none =>
        obtain ⟨entries, isGroup, notLong⟩ :=
          exists_isGroup_of_fieldOf? isPlain found
        rw [fieldOf?_of_isGroup isGroup notLong] at found
        obtain ⟨attr, foundAttribute, rfl⟩ := Option.map_eq_some_iff.mp found
        exact isGroup.isField notLong
          (reads_attributeOfEntries.sound foundAttribute)
  complete := by
    have exists_field
        {value : Toml} {entries : Entries} {attr : Attribute}
        (isGroup : IsGroup attributeNames 3 value entries)
        (notLong : (value.asElements?.getD []).length ≤ 3)
        (isAttribute : IsAttributeOf entries attr) :
        ∃ field, fieldOf? value = some field := by
      obtain ⟨found, isFound⟩ := reads_attributeOfEntries.complete isAttribute
      rw [fieldOf?_of_isGroup isGroup notLong, isFound]
      exact ⟨.attr found, rfl⟩
    intro value field meant
    cases meant with
    | plain isPlain =>
        refine ⟨field, ?_⟩
        rw [fieldOf?, (plainValueOf?_eq_some_iff _ _).mpr isPlain]
    | table hasEntries isAttribute =>
        refine exists_field (.table hasEntries) ?_ isAttribute
        rw [hasEntries.asElements?_eq_none]
        exact Nat.zero_le 3
    | array hasElements isAttribute =>
        refine exists_field (.array hasElements (Nat.le_refl 3)) ?_
          isAttribute
        rw [(asElements?_eq_some_iff _ _).mpr hasElements]
        exact Nat.le_refl 3

theorem reads_subject : Reads subjectOf? (IsDictionary IsField) :=
  reads_dictionary reads_field

/-! ## Parts of a string table -/

/-- The limits of a string table. A missing one is the usual one. -/
inductive IsLimits : Toml → Limits → Prop
  | group {value : Toml} {entries : Entries} {maxDepth maxNesting : Option Nat}
      {sentinel : Option String} :
      IsGroup ["max_depth", "recursion_sentinel", "max_nesting"] 0 value
        entries →
      Sets (fun value (size : Nat) => value = .integer size) "max_depth"
        entries maxDepth →
      Sets (fun value text => value = .string text) "recursion_sentinel"
        entries sentinel →
      Sets (fun value (size : Nat) => value = .integer size) "max_nesting"
        entries maxNesting →
      IsLimits value
        { maxDepth := maxDepth.getD 10
          recursionSentinel := sentinel.getD "[RECURSIVE]"
          maxNesting := maxNesting.getD 64 }

inductive IsMetadata : Toml → Option String × Option String → Prop
  | group {value : Toml} {entries : Entries}
      {language description : Option String} :
      IsGroup ["language", "description"] 2 value entries →
      Sets (fun value text => value = .string text) "language" entries
        language →
      Sets (fun value text => value = .string text) "description" entries
        description →
      IsMetadata value (language, description)

theorem reads_templates :
    Reads templatesOf? (IsDictionary fun value text => value = .string text) :=
  reads_dictionary (.of_iff asText?_eq_some_iff)

theorem reads_limits : Reads Limits.ofToml? IsLimits := by
  have readsDepth := reads_setting (.of_iff asSize?_eq_some_iff) "max_depth"
  have readsText :=
    reads_setting (.of_iff asText?_eq_some_iff) "recursion_sentinel"
  have readsNesting :=
    reads_setting (.of_iff asSize?_eq_some_iff) "max_nesting"
  constructor
  · intro value limits found
    obtain ⟨entries, isGroup, found⟩ := Option.bind_eq_some_iff.mp found
    obtain ⟨maxDepth, isDepth, found⟩ := Option.bind_eq_some_iff.mp found
    obtain ⟨sentinel, isText, found⟩ := Option.bind_eq_some_iff.mp found
    obtain ⟨maxNesting, isNesting, found⟩ := Option.bind_eq_some_iff.mp found
    cases found
    exact .group ((asGroup?_eq_some_iff _ _ _ _).mp isGroup)
      (readsDepth.sound isDepth) (readsText.sound isText)
      (readsNesting.sound isNesting)
  · rintro value limits ⟨isGroup, isDepth, isText, isNesting⟩
    obtain ⟨maxDepth, isDepth⟩ := readsDepth.complete isDepth
    obtain ⟨sentinel, isText⟩ := readsText.complete isText
    obtain ⟨maxNesting, isNesting⟩ := readsNesting.complete isNesting
    unfold Limits.ofToml?
    dsimp only
    rw [(asGroup?_eq_some_iff _ _ _ _).mpr isGroup]
    dsimp only [Option.bind_eq_bind, Option.bind_some]
    unfold Limits.ofEntries?
    rw [isDepth, isText, isNesting]
    exact ⟨_, rfl⟩

theorem reads_metadata : Reads metadataOf? IsMetadata := by
  have readsLanguage := reads_setting (.of_iff asText?_eq_some_iff) "language"
  have readsDescription :=
    reads_setting (.of_iff asText?_eq_some_iff) "description"
  constructor
  · intro value metadata found
    obtain ⟨entries, isGroup, found⟩ := Option.bind_eq_some_iff.mp found
    obtain ⟨language, isLanguage, found⟩ := Option.bind_eq_some_iff.mp found
    obtain ⟨description, isDescription, found⟩ :=
      Option.bind_eq_some_iff.mp found
    cases found
    exact .group ((asGroup?_eq_some_iff _ _ _ _).mp isGroup)
      (readsLanguage.sound isLanguage) (readsDescription.sound isDescription)
  · rintro value metadata ⟨isGroup, isLanguage, isDescription⟩
    obtain ⟨language, isLanguage⟩ := readsLanguage.complete isLanguage
    obtain ⟨description, isDescription⟩ :=
      readsDescription.complete isDescription
    unfold metadataOf?
    rw [(asGroup?_eq_some_iff _ _ _ _).mpr isGroup]
    dsimp only [Option.bind_eq_bind, Option.bind_some]
    rw [isLanguage, isDescription]
    exact ⟨_, rfl⟩

end Toml

/-! ## Documents -/

structure Table.Describes (entries : Toml.Entries) (table : Table) : Prop where
  metadata : ∃ set,
    Toml.Sets Toml.IsMetadata "metadata" entries set ∧
      (table.language, table.description) = set.getD (none, none)
  limits : ∃ set,
    Toml.Sets Toml.IsLimits "resolver" entries set ∧
      table.limits = set.getD ⟨10, "[RECURSIVE]", 64⟩
  templates : ∃ set,
    Toml.Sets (Toml.IsDictionary fun value text => value = .string text)
        "strings" entries set ∧
      table.templates = set.getD {}

structure ContextFile.Describes (entries : Toml.Entries) (file : ContextFile) :
    Prop where
  args : ∃ set,
    Toml.Sets Toml.ArePlain "args" entries set ∧ file.args = set.getD []
  sameSubject : ∃ set,
    Toml.Sets (fun value isSet => value = .boolean isSet) "same_subject"
        entries set ∧
      file.sameSubject = set.getD false
  source :
    Toml.Sets (Toml.IsDictionary Toml.IsField) "source" entries file.source
  display :
    Toml.Sets (Toml.IsDictionary Toml.IsField) "display" entries file.display
  attr : Toml.Sets Toml.IsAttribute "attribute" entries file.attr

open Toml in
/-- Tables are made of exactly the documents that describe one. -/
theorem Table.reads_entries : Reads ofEntries? Describes := by
  have readsMetadata := reads_setting reads_metadata "metadata"
  have readsLimits := reads_setting reads_limits "resolver"
  have readsTemplates := reads_setting reads_templates "strings"
  constructor
  · intro entries table found
    obtain ⟨metadata, isMetadata, found⟩ := Option.bind_eq_some_iff.mp found
    obtain ⟨limits, isLimits, found⟩ := Option.bind_eq_some_iff.mp found
    obtain ⟨templates, areTemplates, found⟩ :=
      Option.bind_eq_some_iff.mp found
    cases found
    exact ⟨⟨metadata, readsMetadata.sound isMetadata, rfl⟩,
      ⟨limits, readsLimits.sound isLimits, rfl⟩,
      ⟨templates, readsTemplates.sound areTemplates, rfl⟩⟩
  · rintro entries table
      ⟨⟨_, isMetadata, _⟩, ⟨_, isLimits, _⟩, ⟨_, areTemplates, _⟩⟩
    obtain ⟨metadata, isMetadata⟩ := readsMetadata.complete isMetadata
    obtain ⟨limits, isLimits⟩ := readsLimits.complete isLimits
    obtain ⟨templates, areTemplates⟩ := readsTemplates.complete areTemplates
    unfold ofEntries?
    rw [isMetadata, isLimits, areTemplates]
    exact ⟨_, rfl⟩

open Toml in
/-- Contexts are made of exactly the documents that describe one. -/
theorem ContextFile.reads_entries : Reads ofEntries? Describes := by
  have readsArgs := reads_setting reads_plainValues "args"
  have readsSame := reads_setting (.of_iff asFlag?_eq_some_iff) "same_subject"
  have readsSource := reads_setting reads_subject "source"
  have readsDisplay := reads_setting reads_subject "display"
  have readsAttribute := reads_setting reads_attribute "attribute"
  constructor
  · intro entries file found
    obtain ⟨args, areArgs, found⟩ := Option.bind_eq_some_iff.mp found
    obtain ⟨same, isSame, found⟩ := Option.bind_eq_some_iff.mp found
    obtain ⟨source, isSource, found⟩ := Option.bind_eq_some_iff.mp found
    obtain ⟨display, isDisplay, found⟩ := Option.bind_eq_some_iff.mp found
    obtain ⟨attr, isAttribute, found⟩ := Option.bind_eq_some_iff.mp found
    cases found
    exact ⟨⟨args, readsArgs.sound areArgs, rfl⟩,
      ⟨same, readsSame.sound isSame, rfl⟩, readsSource.sound isSource,
      readsDisplay.sound isDisplay, readsAttribute.sound isAttribute⟩
  · rintro entries file
      ⟨⟨_, areArgs, _⟩, ⟨_, isSame, _⟩, isSource, isDisplay, isAttribute⟩
    obtain ⟨args, areArgs⟩ := readsArgs.complete areArgs
    obtain ⟨same, isSame⟩ := readsSame.complete isSame
    obtain ⟨source, isSource⟩ := readsSource.complete isSource
    obtain ⟨display, isDisplay⟩ := readsDisplay.complete isDisplay
    obtain ⟨attr, isAttribute⟩ := readsAttribute.complete isAttribute
    unfold ofEntries?
    rw [areArgs, isSame, isSource, isDisplay, isAttribute]
    exact ⟨_, rfl⟩

end Phrasebook
