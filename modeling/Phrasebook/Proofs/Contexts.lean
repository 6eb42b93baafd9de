import Phrasebook.Proofs.Displacement

/-!
# Contexts that are read alike

Expressions read a context through its attribute, its arguments and the fields
of its subjects. Two contexts may differ as long as what is read from them is
the same and is written alike. What the first one lacks the second one may
have, where the comparison exempts the error.
-/

namespace Phrasebook

def Context.subject (context : Context) : SubjectRole → Option Subject
  | .source => context.subjects.source
  | .display => context.subjects.display

/-- The same answer on both sides, with a property. -/
def Shares {α : Type} (known : α → Prop) (value other : α) : Prop :=
  value = other ∧ known value

def Value.WrittenAlike (context other : Context) (value : Value) : Prop :=
  value.toText other.onOwner = value.toText context.onOwner

/-- A branch is a text, and what is not tested is kept. -/
theorem Value.WrittenAlike.selectBranch
    {context other : Context} {value : Value}
    (alike : value.WrittenAlike context other) (branches : Option Branches) :
    (Phrasebook.selectBranch branches value).WrittenAlike context other := by
  cases branches with
  | none =>
      exact alike
  | some branches =>
      cases value with
      | text content | attr readings =>
          exact alike
      | number x | flag isSet =>
          rfl

theorem rel_self
    {α : Type} {related : α → α → Prop} (answer : Option α)
    (toItself : ∀ value, related value value) :
    Option.Rel related answer answer := by
  cases answer with
  | none =>
      exact .none
  | some value =>
      exact .some (toItself value)

namespace Comparison

/-- What is asked of two contexts: both have the same answer, or both fail with
the same cause, or the failure of the first one is exempt. -/
inductive Finds {α : Type} (comparison : Comparison) (known : α → Prop)
    (cause otherCause : Cause) : Option α → Option α → Prop
  | both {value : α} :
      known value →
      Finds comparison known cause otherCause (some value) (some value)
  | neither :
      otherCause = cause →
      Finds comparison known cause otherCause none none
  | exempt {other : Option α} :
      (∀ span, comparison.exemptsError (.raised cause span)) →
      Finds comparison known cause otherCause none other

theorem Finds.refl
    {α : Type} {comparison : Comparison} {known : α → Prop} (cause : Cause)
    {answer : Option α} (isKnown : ∀ value, answer = some value → known value) :
    comparison.Finds known cause cause answer answer := by
  cases answer with
  | none =>
      exact .neither rfl
  | some value =>
      exact .both (isKnown value rfl)

/-- Two contexts that are read alike. What is read from them has a property
that an attribute hands on to its slots. -/
structure Contexts (comparison : Comparison) (known : Value → Prop)
    (context other : Context) : Prop where
  attr : comparison.Finds (fun attr => known (.attr attr))
    (.missingContext .attr) (.missingContext .attr) context.attr other.attr
  argument : ∀ index, comparison.Finds known
    (.argumentOutOfRange index context.args.length)
    (.argumentOutOfRange index other.args.length)
    context.args[index]? other.args[index]?
  subject : ∀ role,
    Option.Rel
      (fun fields others => ∀ name, comparison.Finds known
        (.missingField role.role name) (.missingField role.role name)
        (fields.get? name) (others.get? name))
      (context.subject role) (other.subject role)
  slot : ∀ {attr : Attribute} {index : Nat} {value : Value},
    known (.attr attr) → index < attr.slotCount →
      attr.slot index = some value → known value
  written : ∀ {value}, known value → value.WrittenAlike context other

theorem Contexts.refl (comparison : Comparison) (context : Context) :
    comparison.Contexts (fun _ => True) context context where
  attr := .refl _ fun _ _ => trivial
  argument _ := .refl _ fun _ _ => trivial
  subject _ := rel_self _ fun _ _ => .refl _ fun _ _ => trivial
  slot _ _ _ := trivial
  written _ := rfl

end Comparison

/-! ## Reading values -/

namespace Expression

variable {α : Type} {comparison : Comparison} {change : Nat → Nat}
  {expression : Expression}

theorem corresponds_fail
    {answers : α → α → Prop} (moves : comparison.Moves change)
    (cause : Cause) :
    (expression.fail cause : Run α).Corresponds comparison answers
      ((expression.moved change).fail cause) :=
  moves.corresponds_raise rfl

theorem corresponds_require
    {known : α → Prop} {cause otherCause : Cause} {answer other : Option α}
    (moves : comparison.Moves change)
    (finds : comparison.Finds known cause otherCause answer other) :
    (expression.require cause answer).Corresponds comparison (Shares known)
      ((expression.moved change).require otherCause other) := by
  cases finds with
  | both isKnown =>
      exact Run.corresponds_pure ⟨rfl, isKnown⟩
  | neither sameCause =>
      subst sameCause
      exact corresponds_fail moves _
  | exempt isExempt =>
      exact .inl (.inr ⟨_, rfl, isExempt _⟩)

section Contexts

variable {known : Value → Prop} {context other : Context}

theorem subjectField_eq
    (expression : Expression) (context : Context) (subject : SubjectRole)
    (name : String) :
    expression.subjectField context subject name = (do
      let fields ← expression.require (.missingContext subject.role)
        (context.subject subject)
      expression.require (.missingField subject.role name)
        (fields.get? name)) := by
  cases subject <;> rfl

theorem corresponds_subjectField
    (moves : comparison.Moves change)
    (contexts : comparison.Contexts known context other)
    (subject : SubjectRole) (name : String) :
    (expression.subjectField context subject name).Corresponds comparison
      (Shares known)
      ((expression.moved change).subjectField other subject name) := by
  rw [subjectField_eq, subjectField_eq]
  have subjects := contexts.subject subject
  generalize context.subject subject = found at subjects
  generalize other.subject subject = otherFound at subjects
  cases subjects with
  | none =>
      exact corresponds_fail moves _
  | some fieldsAlike =>
      exact corresponds_require moves (fieldsAlike name)

theorem corresponds_slotValue
    (moves : comparison.Moves change)
    (contexts : comparison.Contexts known context other)
    {attr : Attribute} (isKnown : known (.attr attr)) (index : Nat) :
    (expression.slotValue attr index).Corresponds comparison
      (Shares (Value.WrittenAlike context other))
      ((expression.moved change).slotValue attr index) := by
  refine corresponds_require moves (.refl _ ?_)
  intro value found
  split at found
  · rename_i counted
    exact contexts.written (contexts.slot isKnown counted found)
  · cases found

theorem corresponds_attributePart
    (moves : comparison.Moves change)
    (contexts : comparison.Contexts known context other)
    {attr : Attribute} (isKnown : known (.attr attr)) (part : AttributePart) :
    (expression.attributePart attr part).Corresponds comparison
      (Shares (Value.WrittenAlike context other))
      ((expression.moved change).attributePart attr part) := by
  cases part with
  | enabled =>
      have anyFlag (isSet : Bool) (_ : attr.enabled = some isSet) : True :=
        trivial
      refine (corresponds_require moves (.refl _ anyFlag)).bind ?_
      rintro isSet _ ⟨rfl, _⟩
      exact Run.corresponds_pure ⟨rfl, rfl⟩
  | slot index =>
      exact corresponds_slotValue moves contexts isKnown index
  | unknown text =>
      exact corresponds_fail moves _

theorem corresponds_attributeCondition
    (moves : comparison.Moves change)
    (contexts : comparison.Contexts known context other)
    {attr : Attribute} (isKnown : known (.attr attr)) :
    (expression.attributeCondition attr).Corresponds comparison
      (Shares (Value.WrittenAlike context other))
      ((expression.moved change).attributeCondition attr) := by
  unfold attributeCondition
  cases attr.enabled with
  | some isSet =>
      exact Run.corresponds_pure ⟨rfl, rfl⟩
  | none =>
      exact corresponds_slotValue moves contexts isKnown 0

theorem corresponds_write
    (moves : comparison.Moves change) {value : Value}
    (alike : value.WrittenAlike context other) :
    (expression.write context.onOwner value).Corresponds comparison Eq
      ((expression.moved change).write other.onOwner value) := by
  have sameSpecifier :
      (expression.moved change).specifier = expression.specifier :=
    rfl
  unfold write
  rw [sameSpecifier]
  split
  · split
    · exact Run.corresponds_pure rfl
    · exact corresponds_fail moves _
  · exact Run.corresponds_pure alike.symm

end Contexts

end Expression

end Phrasebook
