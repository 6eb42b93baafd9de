import Mathlib
import Phrasebook.Proofs.Rendering
import Phrasebook.SlotAttribute

/-!
# Larger contexts

A context becomes larger by more arguments behind those it has, by an attribute
where it had none, and by more fields of the subjects it has. What was there is
found as before. So a run is the same with a larger context, unless it fails
for something that its own context lacks and a larger one may have.
-/

namespace Phrasebook

/-! ## What a larger context has -/

def Dictionary.GrowsTo {α : Type} (dictionary larger : Dictionary α) : Prop :=
  ∀ key value, dictionary.get? key = some value →
    larger.get? key = some value

/-- Subjects with more fields. There are as many as before, and they are the
same object only if they were. -/
inductive Subjects.GrowsTo : Subjects → Subjects → Prop
  | neither : GrowsTo .neither .neither
  | sourceOnly {source largerSource : Subject} :
      source.GrowsTo largerSource →
      GrowsTo (.sourceOnly source) (.sourceOnly largerSource)
  | displayOnly {display largerDisplay : Subject} :
      display.GrowsTo largerDisplay →
      GrowsTo (.displayOnly display) (.displayOnly largerDisplay)
  | distinct {source display largerSource largerDisplay : Subject} :
      source.GrowsTo largerSource →
      display.GrowsTo largerDisplay →
      GrowsTo (.distinct source display) (.distinct largerSource largerDisplay)
  | shared {subject largerSubject : Subject} :
      subject.GrowsTo largerSubject →
      GrowsTo (.shared subject) (.shared largerSubject)

structure Context.GrowsTo (context larger : Context) : Prop where
  subjects : context.subjects.GrowsTo larger.subjects
  attr : ∀ attr, context.attr = some attr → larger.attr = some attr
  args : context.args <+: larger.args

theorem Subjects.GrowsTo.onOwner_eq
    {subjects larger : Subjects} (grows : subjects.GrowsTo larger) :
    larger.onOwner = subjects.onOwner := by
  cases grows <;> rfl

theorem Context.GrowsTo.rel_subject
    {context larger : Context} (grows : context.GrowsTo larger)
    (role : SubjectRole) :
    Option.Rel Dictionary.GrowsTo (context.subject role)
      (larger.subject role) := by
  have subjectsGrow := grows.subjects
  unfold Context.subject
  generalize context.subjects = subjects at subjectsGrow
  generalize larger.subjects = largerSubjects at subjectsGrow
  cases subjectsGrow with
  | neither =>
      cases role <;> exact .none
  | sourceOnly sourceGrows =>
      cases role with
      | source =>
          exact .some sourceGrows
      | display =>
          exact .none
  | displayOnly displayGrows =>
      cases role with
      | source =>
          exact .none
      | display =>
          exact .some displayGrows
  | distinct sourceGrows displayGrows =>
      cases role with
      | source =>
          exact .some sourceGrows
      | display =>
          exact .some displayGrows
  | shared subjectGrows =>
      cases role <;> exact .some subjectGrows

/-! ## What a context lacks -/

/-- Whether a cause is the lack of something that a larger context may have. -/
def Cause.isLack : Cause → Bool
  | argumentOutOfRange _ _ | missingField _ _ | missingContext .attr => true
  | _ => false

/-- A run with a larger context is compared with one that lacks nothing. -/
def lackingNothing : Comparison where
  event := id
  error := id
  exemptsEvent _ := False
  exemptsError error := error.cause.isLack = true

theorem finds_of_grows
    {α : Type} {cause otherCause : Cause} {answer larger : Option α}
    (isLack : cause.isLack = true)
    (grows : ∀ value, answer = some value → larger = some value) :
    lackingNothing.Finds (fun _ => True) cause otherCause answer larger := by
  cases answer with
  | none =>
      exact .exempt fun _ => isLack
  | some value =>
      rw [grows value rfl]
      exact .both trivial

/-- A larger context is read as the smaller one, unless the smaller one lacks
what is asked for. -/
theorem Context.GrowsTo.contexts
    {context larger : Context} (grows : context.GrowsTo larger) :
    lackingNothing.Contexts (fun _ => True) context larger where
  attr := finds_of_grows rfl grows.attr
  argument index := by
    apply finds_of_grows rfl
    intro value found
    obtain ⟨added, isLarger⟩ := grows.args
    obtain ⟨inArgs, _⟩ := List.getElem?_eq_some_iff.mp found
    rw [← isLarger, List.getElem?_append_left inArgs, found]
  subject role := by
    have subjectGrows := grows.rel_subject role
    generalize context.subject role = found at subjectGrows
    generalize larger.subject role = largerFound at subjectGrows
    cases subjectGrows with
    | none =>
        exact .none
    | some fieldsGrow =>
        exact .some fun name => finds_of_grows rfl (fieldsGrow name)
  slot _ _ _ := trivial
  written _ := by
    rw [Value.WrittenAlike, Context.onOwner, grows.subjects.onOwner_eq]
    rfl

/-! ## Runs with a larger context -/

namespace Environment

variable {env : Environment} {larger : Context}

theorem corresponds_withContext
    (grows : env.context.GrowsTo larger) (depth : Nat) (template : String) :
    (env.resolveAt depth template).Corresponds lackingNothing Eq
      ((env.withContext larger).resolveAt depth template) := by
  have alike : Alike lackingNothing id env (env.withContext larger) :=
    ⟨fun _ _ => rfl, fun _ => rfl, .inl rfl, _, grows.contexts⟩
  exact alike.corresponds_withContext rfl rfl (fun _ _ exempt => exempt) depth
    template

theorem resolve_withContext
    (grows : env.context.GrowsTo larger) {template : String}
    (lacksNothing : ∀ error, (env.resolve template).outcome = .error error →
      error.cause.isLack = false) :
    (env.withContext larger).resolve template = env.resolve template := by
  refine (corresponds_withContext grows 0 template).eq_of_not_exempt rfl rfl ?_
  rintro (⟨_, _, exempt⟩ | ⟨error, failed, isLack⟩)
  · exact exempt
  · have noLack := lacksNothing error failed
    rw [isLack] at noLack
    cases noLack

/-- A larger context never changes a finished result. A text stays the same with
the same log, and so does an error, unless its cause is the lack of an argument,
of a field or of the attribute. -/
theorem larger_context_keeps_results
    (env : Environment) (larger : Context)
    (grows : env.context.GrowsTo larger) (template : String) :
    (∀ text, (env.resolve template).outcome = .ok text →
      (env.withContext larger).resolve template = env.resolve template) ∧
      ∀ error, (env.resolve template).outcome = .error error →
        error.cause.isLack = false →
        (env.withContext larger).resolve template = env.resolve template := by
  constructor
  · intro text resolved
    apply resolve_withContext grows
    intro error failed
    rw [resolved] at failed
    cases failed
  · intro error failed noLack
    apply resolve_withContext grows
    intro other otherFailed
    rw [failed] at otherFailed
    cases otherFailed
    exact noLack

/-- A text and an error that more arguments, an attribute and one more field do
not change. -/
theorem larger_context_keeps_text_and_error :
    let fields : Subject := Dictionary.insert {} "name" (.text "Tower")
    let env : Environment :=
      ⟨{}, {}, { subjects := .sourceOnly fields, args := [.flag true] }⟩
    let larger : Context :=
      { subjects := .sourceOnly (fields.insert "cost" (.flag false))
        attr := some (SlotAttribute.ofSlots []).toAttribute
        args := [.flag true, .text "more"] }
    (env.resolve "\x7b0?a|the\x7d \x7bs.name\x7d").outcome = .ok "the Tower" ∧
      (env.withContext larger).resolve "\x7b0?a|the\x7d \x7bs.name\x7d" =
        env.resolve "\x7b0?a|the\x7d \x7bs.name\x7d" ∧
      (env.resolve "\x7bs.name.e\x7d").outcome =
        .error (.raised (.invalidSelector "s.name.e"
          (.notAnAttribute "name" "text")) ⟨0, 10⟩) ∧
      (env.withContext larger).resolve "\x7bs.name.e\x7d" =
        env.resolve "\x7bs.name.e\x7d" := by
  intro fields env larger
  have grows : env.context.GrowsTo larger := by
    refine ⟨.sourceOnly ?_, ?_, ⟨[.text "more"], rfl⟩⟩
    · intro key value found
      rw [Dictionary.get?_insert, if_neg]
      · exact found
      · rintro rfl
        cases found
    · intro attr isAttribute
      cases isAttribute
  have resolved :
      (env.resolve "\x7b0?a|the\x7d \x7bs.name\x7d").outcome =
        .ok "the Tower" := by
    cbv
  have failed :
      (env.resolve "\x7bs.name.e\x7d").outcome =
        .error (.raised (.invalidSelector "s.name.e"
          (.notAnAttribute "name" "text")) ⟨0, 10⟩) := by
    cbv
  exact ⟨resolved,
    (env.larger_context_keeps_results larger grows _).1 _ resolved, failed,
    (env.larger_context_keeps_results larger grows _).2 _ failed rfl⟩

end Environment

end Phrasebook
