import Phrasebook.Error

/-!
# Runs

A run is what resolving something amounts to: an outcome, and a log of what
happened on the way to it. A run that fails keeps the log up to its failure.
-/

namespace Phrasebook

/-- Something that happens to a key while a template is resolved. -/
inductive Event where
  /-- The string table has no such key; its text is used as it stands. -/
  | keyMissing (key : String)
  /-- The entry of the key is expanded. -/
  | expanding (key : String) (depth : Nat)
  /-- The entry of the key lies too deep, and the sentinel stands for it. -/
  | limitReached (key : String) (depth maxDepth : Nat)
  deriving DecidableEq

structure Run (α : Type) where
  log : List Event
  outcome : Except ResolveError α

namespace Run

variable {α β : Type}

def succeed (value : α) : Run α :=
  ⟨[], .ok value⟩

def fail (error : ResolveError) : Run α :=
  ⟨[], .error error⟩

def emit (event : Event) : Run Unit :=
  ⟨[event], .ok ()⟩

/-- Continues a run with its answer, unless it failed. -/
def andThen (run : Run α) (next : α → Run β) : Run β :=
  match run.outcome with
  | .error error => ⟨run.log, .error error⟩
  | .ok value =>
      let following := next value
      ⟨run.log ++ following.log, following.outcome⟩

instance : Monad Run where
  pure := succeed
  bind := andThen

def mapError (change : ResolveError → ResolveError) (run : Run α) : Run α :=
  { run with outcome := run.outcome.mapError change }

@[simp]
theorem pure_eq (value : α) : (pure value : Run α) = ⟨[], .ok value⟩ :=
  rfl

theorem bind_eq (run : Run α) (next : α → Run β) :
    run >>= next = run.andThen next :=
  rfl

theorem andThen_assoc {γ : Type} (run : Run α) (next : α → Run β)
    (last : β → Run γ) :
    (run.andThen next).andThen last =
      run.andThen fun value => (next value).andThen last := by
  obtain ⟨log, outcome⟩ := run
  cases outcome with
  | error error => rfl
  | ok value =>
      cases h : (next value).outcome <;>
        simp [andThen, h, List.append_assoc]

/-- A run stops where it fails. -/
@[simp]
theorem fail_bind (error : ResolveError) (next : α → Run β) :
    Run.fail error >>= next = Run.fail error :=
  rfl

/-- An event goes in front of everything that is logged after it. -/
@[simp]
theorem emit_bind (event : Event) (next : Unit → Run β) :
    Run.emit event >>= next =
      ⟨event :: (next ()).log, (next ()).outcome⟩ :=
  rfl

/-- Changing the error leaves the log alone. -/
@[simp]
theorem log_mapError (change : ResolveError → ResolveError) (run : Run α) :
    (run.mapError change).log = run.log :=
  rfl

@[simp]
theorem outcome_mapError (change : ResolveError → ResolveError)
    (run : Run α) :
    (run.mapError change).outcome = run.outcome.mapError change :=
  rfl

instance : LawfulMonad Run := .mk' Run
  (by
    intro α run
    obtain ⟨log, outcome⟩ := run
    cases outcome <;> simp [Functor.map, andThen, succeed])
  (by
    intro α β value next
    simp [bind_eq, andThen])
  (by
    intro α β γ run next last
    exact andThen_assoc run next last)

end Run

end Phrasebook
