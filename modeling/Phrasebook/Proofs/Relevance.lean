import Mathlib
import Phrasebook.Proofs.Rendering

/-!
# Entries that matter

The log of a run names every entry whose text the run depends on. Another table
with the same keys gives the same run, as long as it agrees on the entries that
the log tells to be expanded. The other entries of the table are seen by their
keys alone, be it in a selector or beyond the deepest level.
-/

namespace Phrasebook

/-! ## Tables with the same keys -/

def Table.SameKeys (table other : Table) : Prop :=
  ∀ key, other.templates.contains key = table.templates.contains key

/-- What relates all entries of one key relates what two tables have under
it. -/
theorem Table.SameKeys.rel_get?
    {table other : Table} (sameKeys : table.SameKeys other) {key : String}
    {related : String → String → Prop}
    (relates : ∀ entry otherEntry, table.templates.get? key = some entry →
      other.templates.get? key = some otherEntry → related entry otherEntry) :
    Option.Rel related (table.templates.get? key)
      (other.templates.get? key) := by
  have samePresence := sameKeys key
  unfold Dictionary.contains at samePresence
  cases found : table.templates.get? key with
  | none =>
      rw [found, Option.isSome_none, Option.isSome_eq_false_iff,
        Option.isNone_iff_eq_none] at samePresence
      rw [samePresence]
      exact .none
  | some entry =>
      rw [found, Option.isSome_some, Option.isSome_iff_exists] at samePresence
      obtain ⟨otherEntry, otherFound⟩ := samePresence
      rw [otherFound]
      exact .some (relates entry otherEntry found otherFound)

theorem Table.sameKeys_insert
    {table : Table} {key : String} (present : table.templates.contains key = true)
    (entry : String) :
    table.SameKeys
      { table with templates := table.templates.insert key entry } := by
  intro tested
  unfold Dictionary.contains at present ⊢
  rw [Dictionary.get?_insert]
  by_cases sameKey : key = tested
  · subst sameKey
    rw [if_pos rfl, present]
    rfl
  · rw [if_neg sameKey]

/-! ## Runs with another table -/

/-- A run with another table is compared with one that expands no entry on
which the tables differ. -/
def Table.relevance (table other : Table) : Comparison where
  event := id
  error := id
  exemptsEvent
    | .keyMissing _ | .limitReached _ _ _ => False
    | .expanding key _ =>
        other.templates.get? key ≠ table.templates.get? key
  exemptsError _ := False

theorem Table.not_exempts_relevance
    {table other : Table} {run : Run String}
    (agree : ∀ key depth, .expanding key depth ∈ run.log →
      other.templates.get? key = table.templates.get? key) :
    ¬ (table.relevance other).Exempts run := by
  rintro (⟨event, member, exempt⟩ | ⟨_, _, exempt⟩)
  · cases event with
    | keyMissing key | limitReached key depth maxDepth =>
        exact exempt
    | expanding key depth =>
        exact exempt (agree key depth member)
  · exact exempt

namespace Environment

def withTable (env : Environment) (table : Table) : Environment :=
  { env with table := table }

variable {env : Environment} {other : Table}

/-- Entries that are never expanded may be replaced. -/
theorem corresponds_withTable
    (sameKeys : env.table.SameKeys other) (depth : Nat) (template : String) :
    (env.resolveAt depth template).Corresponds (env.table.relevance other) Eq
      ((env.withTable other).resolveAt depth template) := by
  have alike : Alike (env.table.relevance other) id env (env.withTable other) :=
    ⟨fun _ _ => rfl, fun _ => rfl, .inl rfl, _, .refl _ _⟩
  refine alike.corresponds_of_expandAt 0 ?_ depth template
  intro depth nesting key inner
  apply sameKeys.rel_get?
  intro entry otherEntry found otherFound
  by_cases within : depth + nesting ≤ env.limits.maxDepth
  · by_cases sameEntry : otherEntry = entry
    · subst sameEntry
      exact corresponds_expandAt (fun _ => rfl) (fun _ exempt => exempt) within
        within rfl (inner within otherEntry)
    · refine .of_exempt_event (expanding_mem_expandAt key entry within) ?_
      change other.templates.get? key ≠ env.table.templates.get? key
      rw [found, otherFound]
      exact fun sameEntries => sameEntry (Option.some.inj sameEntries)
  · have beyond := Nat.not_le.mp within
    exact corresponds_expandAt_of_lt beyond beyond rfl rfl

theorem resolve_withTable
    (sameKeys : env.table.SameKeys other) {template : String}
    (agree : ∀ key depth, .expanding key depth ∈ (env.resolve template).log →
      other.templates.get? key = env.table.templates.get? key) :
    (env.withTable other).resolve template = env.resolve template :=
  (corresponds_withTable sameKeys 0 template).eq_of_not_exempt rfl rfl
    (Table.not_exempts_relevance agree)

/-- The log names all entries that matter. With another table that has the same
keys and agrees on the entries that are expanded, the log and the outcome stay
the same. In particular the text of an entry that is not expanded can be any
other one. -/
theorem log_names_entries_that_matter (env : Environment) (template : String) :
    (∀ other : Table, env.table.SameKeys other →
      (∀ key depth, .expanding key depth ∈ (env.resolve template).log →
        other.templates.get? key = env.table.templates.get? key) →
      (env.withTable other).resolve template = env.resolve template) ∧
      ∀ key entry, env.hasEntry key = true →
        (∀ depth, .expanding key depth ∉ (env.resolve template).log) →
        (env.withTable { env.table with
          templates := env.table.templates.insert key entry }).resolve
            template = env.resolve template := by
  constructor
  · intro other sameKeys agree
    exact resolve_withTable sameKeys agree
  · intro key entry present notExpanded
    refine resolve_withTable (Table.sameKeys_insert present entry) ?_
    intro expanded depth member
    have otherKey : key ≠ expanded := by
      rintro rfl
      exact notExpanded depth member
    rw [Dictionary.get?_insert, if_neg otherKey]

/-- The entry of a key that is met in a selector may as well be malformed. -/
theorem entry_in_selector_does_not_matter :
    let entries := Dictionary.insert {} "title_kind" "by key"
    let env : Environment :=
      ⟨{ templates := entries.insert "kind" "spell" }, {}, {}⟩
    let other : Table := { templates := entries.insert "kind" "\x7b" }
    let template := "\x7btitle_\x7bkind\x7d\x7d"
    (env.resolve template).log = [.expanding "title_kind" 0] ∧
      (env.withTable other).resolve template = env.resolve template ∧
      (env.withTable { env.table with
        templates := env.table.templates.insert "kind" "/" }).resolve template =
          env.resolve template := by
  intro entries env other template
  have log : (env.resolve template).log = [.expanding "title_kind" 0] := by
    cbv
  have onlyTitle (key : String) (depth : Nat)
      (member : .expanding key depth ∈ (env.resolve template).log) :
      key = "title_kind" := by
    rw [log] at member
    cases List.mem_singleton.mp member
    rfl
  have sameKeys : env.table.SameKeys other := by
    intro key
    simp only [env, other, Dictionary.contains, Dictionary.get?_insert]
    split <;> rfl
  have matter := env.log_names_entries_that_matter template
  refine ⟨log, matter.1 other sameKeys ?_, matter.2 "kind" "/" rfl ?_⟩
  · intro key depth member
    rw [onlyTitle key depth member]
    rfl
  · intro depth member
    have wrongKey := onlyTitle "kind" depth member
    exact absurd wrongKey (by decide)

end Environment

end Phrasebook
