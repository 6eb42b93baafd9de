import Phrasebook.Proofs.Rendering
import Phrasebook.SlotAttribute

/-!
# Subjects that are one object

A subject may stand in both roles, or two distinct subjects with equal fields.
Only the texts that attributes give themselves can tell these apart. So where
no attribute that the context leads to has two such texts, the runs are the
same. Attributes held in memory never have two, unless a slot leads to some
other kind of attribute.
-/

namespace Phrasebook

/-! ## Attributes that a context leads to -/

/-- An attribute that has the same text on its owner and elsewhere. -/
def Attribute.IsSteady (attr : Attribute) : Prop :=
  attr.selfText true = attr.selfText false

/-- A value reaches the attribute that it is, and what the slots of that
attribute reach. -/
inductive Value.Reaches : Value → Attribute → Prop
  | self (attr : Attribute) : Reaches (.attr attr) attr
  | slot {attr reached : Attribute} {index : Nat} {value : Value} :
      index < attr.slotCount →
      attr.slot index = some value →
      Reaches value reached →
      Reaches (.attr attr) reached

inductive Context.Reaches (context : Context) : Attribute → Prop
  | attr {attr reached : Attribute} :
      context.attr = some attr →
      (Value.attr attr).Reaches reached →
      Reaches context reached
  | argument {value : Value} {reached : Attribute} :
      value ∈ context.args →
      value.Reaches reached →
      Reaches context reached
  | field {role : SubjectRole} {fields : Subject} {name : String}
      {value : Value} {reached : Attribute} :
      context.subject role = some fields →
      fields.get? name = some value →
      value.Reaches reached →
      Reaches context reached

def Value.IsSteady (value : Value) : Prop :=
  ∀ attr, value.Reaches attr → attr.IsSteady

theorem Value.IsSteady.toText_eq
    {value : Value} (steady : value.IsSteady) (onOwner otherOwner : Bool) :
    value.toText onOwner = value.toText otherOwner := by
  cases value with
  | text content | number x | flag isSet =>
      rfl
  | attr attr =>
      have sameText : attr.selfText true = attr.selfText false :=
        steady attr (.self attr)
      cases onOwner <;> cases otherOwner
      · rfl
      · exact sameText.symm
      · exact sameText
      · rfl

/-! ## One object or two -/

def Context.withDistinct (context : Context) (source display : Subject) :
    Context :=
  { context with subjects := .distinct source display }

theorem Context.subject_of_shared
    {context : Context} {subject : Subject}
    (isShared : context.subjects = .shared subject) (role : SubjectRole) :
    context.subject role = some subject := by
  cases role <;> rw [Context.subject, isShared] <;> rfl

/-- The context of one subject in both roles and the context of two distinct
subjects with its fields are read alike. -/
theorem Context.contexts_withDistinct
    {context : Context} {subject source display : Subject}
    (isShared : context.subjects = .shared subject)
    (sameSource : ∀ name, source.get? name = subject.get? name)
    (sameDisplay : ∀ name, display.get? name = subject.get? name)
    (steady : ∀ attr, context.Reaches attr → attr.IsSteady) :
    (Comparison.strict id id).Contexts Value.IsSteady context
      (context.withDistinct source display) where
  attr := by
    refine .refl _ ?_
    intro attr found reached reaches
    exact steady reached (.attr found reaches)
  argument index := by
    refine .refl _ ?_
    intro value found reached reaches
    exact steady reached (.argument (List.mem_of_getElem? found) reaches)
  subject role := by
    have isSubject := Context.subject_of_shared isShared role
    have fieldsSteady (name : String) (value : Value)
        (found : subject.get? name = some value) : value.IsSteady := by
      intro reached reaches
      exact steady reached (.field isSubject found reaches)
    rw [isSubject]
    cases role with
    | source =>
        refine .some fun name => ?_
        rw [sameSource]
        exact .refl _ (fieldsSteady name)
    | display =>
        refine .some fun name => ?_
        rw [sameDisplay]
        exact .refl _ (fieldsSteady name)
  slot := by
    intro attr index value attrSteady counted found reached reaches
    exact attrSteady reached (.slot counted found reaches)
  written isSteady := isSteady.toText_eq _ _

/-! ## Attributes held in memory -/

/-- A value that leads to no attributes but those held in memory. -/
inductive Value.IsPlain : Value → Prop
  | text (content : String) : IsPlain (.text content)
  | number (x : Binary64) : IsPlain (.number x)
  | flag (isSet : Bool) : IsPlain (.flag isSet)
  | attr {slots : SlotAttribute} :
      (∀ value ∈ slots.raw, IsPlain value) →
      (∀ value, some value ∈ slots.effective → IsPlain value) →
      IsPlain (.attr slots.toAttribute)

structure SlotAttribute.IsPlain (slots : SlotAttribute) : Prop where
  raw : ∀ value ∈ slots.raw, value.IsPlain
  effective : ∀ value, some value ∈ slots.effective → value.IsPlain

theorem SlotAttribute.isPlain_ofSlots
    {values : List Value} (plain : ∀ value ∈ values, value.IsPlain) :
    (ofSlots values).IsPlain where
  raw := plain
  effective := by
    intro value member
    cases (List.mem_replicate.mp member).2

theorem SlotAttribute.mem_of_slot
    {slots : SlotAttribute} {index : Nat} {value : Value}
    (found : slots.slot index = some value) :
    value ∈ slots.raw ∨ some value ∈ slots.effective := by
  unfold slot at found
  split at found
  · rename_i laid isLaid
    cases found
    exact .inr (List.mem_of_getElem? isLaid)
  · exact .inl (List.mem_of_getElem? found)

theorem Value.IsPlain.slot
    {attr : Attribute} (plain : (Value.attr attr).IsPlain) {index : Nat}
    {value : Value} (found : attr.slot index = some value) :
    value.IsPlain := by
  cases plain with
  | attr rawPlain effectivePlain =>
      rcases SlotAttribute.mem_of_slot found with inRaw | inEffective
      · exact rawPlain value inRaw
      · exact effectivePlain value inEffective

/-- A plain value has the same text on its owner and elsewhere. -/
theorem Value.IsPlain.toText_eq
    {value : Value} (plain : value.IsPlain) :
    value.toText true = value.toText false := by
  -- The text of an attribute is made of the texts in its slots.
  induction plain with
  | text content | number x | flag isSet =>
      rfl
  | @attr slots _ _ rawHypothesis effectiveHypothesis =>
      have sameTexts :
          ((List.range slots.raw.length).filterMap slots.slot).map
              (Value.toText true) =
            ((List.range slots.raw.length).filterMap slots.slot).map
              (Value.toText false) := by
        apply List.map_congr_left
        intro value member
        obtain ⟨index, _, found⟩ := List.mem_filterMap.mp member
        rcases SlotAttribute.mem_of_slot found with inRaw | inEffective
        · exact rawHypothesis value inRaw
        · exact effectiveHypothesis value inEffective
      change slots.selfText true = slots.selfText false
      unfold SlotAttribute.selfText
      rw [sameTexts]

theorem Value.Reaches.isPlain
    {value : Value} {attr : Attribute} (reaches : value.Reaches attr)
    (plain : value.IsPlain) :
    (Value.attr attr).IsPlain := by
  induction reaches with
  | self attr =>
      exact plain
  | slot _ found _ inductionHypothesis =>
      exact inductionHypothesis (plain.slot found)

theorem Value.IsPlain.isSteady
    {value : Value} (plain : value.IsPlain) :
    value.IsSteady := by
  intro attr reaches
  exact (reaches.isPlain plain).toText_eq

/-! ## Runs -/

/-- Whether the subjects are one object is seen only through the texts that
attributes give themselves. Where every attribute that the context leads to has
the same text on its owner and elsewhere, one subject in both roles and two
distinct ones with the same fields give the same log and the same outcome. All
attributes in memory that hold plain values are of this kind. -/
theorem identity_is_seen_only_by_self_texts :
    (∀ (env : Environment) (subject source display : Subject)
        (template : String),
      env.context.subjects = .shared subject →
      (∀ name, source.get? name = subject.get? name) →
      (∀ name, display.get? name = subject.get? name) →
      (∀ attr, env.context.Reaches attr → attr.IsSteady) →
      (env.withContext (env.context.withDistinct source display)).resolve
        template = env.resolve template) ∧
      ∀ slots : SlotAttribute, slots.IsPlain →
        ∀ attr, (Value.attr slots.toAttribute).Reaches attr →
          attr.IsSteady := by
  constructor
  · intro env subject source display template isShared sameSource sameDisplay
      steady
    have alike :
        Environment.Alike (.strict id id) id env
          (env.withContext (env.context.withDistinct source display)) :=
      ⟨fun _ _ => rfl, fun _ => rfl, .inl rfl, _,
        Context.contexts_withDistinct isShared sameSource sameDisplay steady⟩
    have corresponds :=
      alike.corresponds_withContext rfl rfl (fun _ _ exempt => exempt) 0
        template
    exact corresponds.eq_of_not_exempt rfl rfl
      (Comparison.not_exempts_strict _ _ _)
  · intro slots plain
    exact (Value.IsPlain.attr plain.raw plain.effective).isSteady

/-- A field with an attribute in a slot of an attribute. -/
theorem identity_is_not_seen_by_nested_slots :
    let inner := SlotAttribute.ofSlots [.text "close", .flag true]
    let range := SlotAttribute.ofSlots [.attr inner.toAttribute, .text "far"]
    let subject : Subject :=
      Dictionary.insert {} "range" (.attr range.toAttribute)
    let env : Environment := ⟨{}, {}, { subjects := .shared subject }⟩
    let template := "\x7bs.range\x7d, \x7bd.range.0\x7d"
    (env.withContext (env.context.withDistinct subject subject)).resolve
        template = env.resolve template ∧
      inner.toAttribute.IsSteady := by
  intro inner range subject env template
  have innerPlain : inner.IsPlain := by
    apply SlotAttribute.isPlain_ofSlots
    intro value member
    rcases List.mem_cons.mp member with rfl | member
    · exact .text "close"
    · cases List.mem_singleton.mp member
      exact .flag true
  have rangePlain : range.IsPlain := by
    apply SlotAttribute.isPlain_ofSlots
    intro value member
    rcases List.mem_cons.mp member with rfl | member
    · exact .attr innerPlain.raw innerPlain.effective
    · cases List.mem_singleton.mp member
      exact .text "far"
  have slotsSteady := identity_is_seen_only_by_self_texts.2
  have steady (attr : Attribute) (reaches : env.context.Reaches attr) :
      attr.IsSteady := by
    cases reaches with
    | attr found _ =>
        cases found
    | argument member _ =>
        cases member
    | @field role fields name value _ isSubject found reaches =>
        rw [Context.subject_of_shared rfl role, Option.some.injEq] at isSubject
        rw [← isSubject, Dictionary.get?_insert] at found
        split at found
        · rw [← Option.some.inj found] at reaches
          exact slotsSteady range rangePlain attr reaches
        · cases found
  constructor
  · exact identity_is_seen_only_by_self_texts.1 env subject subject subject
      template rfl (fun _ => rfl) (fun _ => rfl) steady
  · have counted : 0 < range.toAttribute.slotCount := by decide
    have inSlot :
        range.toAttribute.slot 0 = some (.attr inner.toAttribute) :=
      rfl
    exact slotsSteady range rangePlain _ (.slot counted inSlot (.self _))

end Phrasebook
