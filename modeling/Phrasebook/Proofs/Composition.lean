import Phrasebook.Proofs.Rendering

/-!
# Texts one after the other

A template is resolved from left to right. Of what comes behind a text nothing
matters to it, unless it ends within an expression or in a slash; and what comes
behind it is resolved as if it stood alone, with its errors in places that lie
behind the text.
-/

namespace Phrasebook

namespace Scan

variable {limit : Nat} {render : Nat → Expression → Run String}

theorem position_of_text
    {text : String} {last : Scan}
    (passed : (text.toList.foldlM (step limit render) {}).outcome = .ok last) :
    last.position = text.length := by
  rw [position_of_pass passed, String.length_toList]
  exact Nat.zero_add _

/-- A pass can be ended where no expression is open and no slash waits. -/
theorem eq_of_finish
    {scan : Scan} {text : String} (finished : scan.finish.outcome = .ok text) :
    scan = ⟨scan.position, false, text, []⟩ := by
  obtain ⟨position, slash, output, frames⟩ := scan
  cases frames with
  | cons frame outer =>
      cases finished
  | nil =>
      cases slash with
      | true =>
          cases finished
      | false =>
          cases finished
          rfl

theorem finish_of_ok
    {scan : Scan} {text : String} (finished : scan.finish.outcome = .ok text) :
    scan.finish = pure text := by
  rw [eq_of_finish finished]
  rfl

/-- Where a pass cannot be ended, an expression or a slash is left over at the
end of the text. -/
theorem error_of_finish
    {scan : Scan} {error : ResolveError}
    (failed : scan.finish.outcome = .error error) :
    error.entries = [] ∧
      (error.cause = .unterminatedExpression ∨
        error.cause = .danglingEscape) := by
  obtain ⟨position, slash, output, frames⟩ := scan
  cases frames with
  | cons frame outer =>
      cases failed
      exact ⟨rfl, .inl rfl⟩
  | nil =>
      cases slash with
      | true =>
          cases failed
          exact ⟨rfl, .inr rfl⟩
      | false =>
          cases failed

end Scan

namespace Environment

variable {env : Environment}

theorem resolve_eq_complete
    (env : Environment) (template : String) :
    env.resolve template =
      Scan.complete env.limits.maxNesting (env.renderAt 0) {}
        template.toList :=
  env.resolveAt_eq_complete 0 template

theorem resolveAt_append_eq
    (env : Environment) (depth : Nat) (first second : String) :
    env.resolveAt depth (first ++ second) =
      (first.toList.foldlM
        (Scan.step env.limits.maxNesting (env.renderAt depth)) {}) >>=
          fun next =>
            next.complete env.limits.maxNesting (env.renderAt depth)
              second.toList := by
  rw [resolveAt_eq_complete, String.toList_append, Scan.complete_append]

theorem resolve_append_eq
    (env : Environment) (first second : String) :
    env.resolve (first ++ second) =
      (first.toList.foldlM
        (Scan.step env.limits.maxNesting (env.renderAt 0)) {}) >>= fun next =>
          next.complete env.limits.maxNesting (env.renderAt 0)
            second.toList :=
  env.resolveAt_append_eq 0 first second

/-- A text that resolves leaves the pass as it was at the start, but for the
place and the text that has been written. -/
theorem pass_of_resolve
    {first text : String}
    (resolved : (env.resolve first).outcome = .ok text) :
    first.toList.foldlM
        (Scan.step env.limits.maxNesting (env.renderAt 0)) {} =
      ⟨(env.resolve first).log, .ok ⟨first.length, false, text, []⟩⟩ := by
  rw [resolve_eq_complete] at resolved ⊢
  unfold Scan.complete at resolved ⊢
  generalize isPass :
    first.toList.foldlM
      (Scan.step env.limits.maxNesting (env.renderAt 0)) {} = pass
    at resolved ⊢
  cases passed : pass.outcome with
  | error error =>
      rw [Run.bind_of_error passed] at resolved
      cases resolved
  | ok last =>
      rw [Run.bind_of_ok passed] at resolved ⊢
      have place : last.position = first.length :=
        Scan.position_of_text ((congrArg _ isPass).trans passed)
      have isLast : last = ⟨first.length, false, text, []⟩ := by
        rw [← place]
        exact Scan.eq_of_finish resolved
      rw [Scan.finish_of_ok resolved, ← isLast, ← passed]
      exact congrArg (Run.mk · pass.outcome) (List.append_nil _).symm

/-- Behind a text that is resolved, another one is resolved as on its own, but
for the places of its errors. -/
theorem resolve_append_of_ok
    {first text : String}
    (resolved : (env.resolve first).outcome = .ok text) (second : String) :
    (env.resolve (first ++ second)).log =
        (env.resolve first).log ++ (env.resolve second).log ∧
      (movedBy (first.length + ·)).Outcomes
        (fun rest whole => whole = text ++ rest)
        (env.resolve second).outcome
        (env.resolve (first ++ second)).outcome := by
  have start :
      ({} : Scan).moved (first.length + ·) text =
        ⟨first.length, false, text, []⟩ := by
    simp [Scan.moved]
  have follows :
      Scan.Follows (first.length + ·) text 0 {}
        ⟨first.length, false, text, []⟩ :=
    ⟨⟨rfl, start.symm⟩, fun waits => absurd waits Bool.false_ne_true⟩
  obtain ⟨logs, outcomes⟩ :=
    env.complete_moved 0 second.toList follows fun _ _ _ => rfl
  rw [← resolve_eq_complete] at logs outcomes
  rw [resolve_append_eq, Run.bind_of_ok (congrArg Run.outcome
    (pass_of_resolve resolved)), pass_of_resolve resolved, logs]
  exact ⟨rfl, outcomes⟩

/-- What fails before its end fails alike with whatever comes behind it. -/
theorem resolve_append_of_error
    {first : String} {error : ResolveError}
    (failed : (env.resolve first).outcome = .error error)
    (notAtEnd : error.entries = [] →
      error.cause ≠ .unterminatedExpression ∧ error.cause ≠ .danglingEscape)
    (second : String) :
    env.resolve (first ++ second) = env.resolve first := by
  rw [resolve_append_eq]
  rw [resolve_eq_complete] at failed ⊢
  unfold Scan.complete at failed ⊢
  rcases Run.error_of_bind failed with inPass | ⟨last, _, atFinish⟩
  · rw [Run.bind_of_error inPass, Run.bind_of_error inPass]
  · obtain ⟨noEntries, unterminated | dangling⟩ := Scan.error_of_finish atFinish
    · exact absurd unterminated (notAtEnd noEntries).1
    · exact absurd dangling (notAtEnd noEntries).2

/-- Texts are resolved from left to right. Behind a text that resolves, another
one is resolved as if it stood alone, with the places of its errors moved by the
length of the first one, unless they lie in entries. A text that fails
otherwise than by its end fails in the same way with every text behind it. -/
theorem resolution_is_compositional (env : Environment) (first : String) :
    (∀ text, (env.resolve first).outcome = .ok text →
      ∀ second,
        (env.resolve (first ++ second)).log =
            (env.resolve first).log ++ (env.resolve second).log ∧
          (∀ rest, (env.resolve second).outcome = .ok rest →
            (env.resolve (first ++ second)).outcome = .ok (text ++ rest)) ∧
          ∀ error, (env.resolve second).outcome = .error error →
            (env.resolve (first ++ second)).outcome =
              .error (error.moved (first.length + ·))) ∧
      ∀ error, (env.resolve first).outcome = .error error →
        (error.entries = [] →
          error.cause ≠ .unterminatedExpression ∧
            error.cause ≠ .danglingEscape) →
        ∀ second, env.resolve (first ++ second) = env.resolve first := by
  constructor
  · intro text resolved second
    obtain ⟨logs, outcomes⟩ := resolve_append_of_ok resolved second
    refine ⟨logs, ?_, ?_⟩
    · intro rest restResolved
      rw [restResolved] at outcomes
      obtain ⟨_, wholeResolved, rfl⟩ := outcomes.of_ok
      exact wholeResolved
    · intro error restFailed
      rw [restFailed] at outcomes
      exact outcomes.of_error
  · intro error failed notAtEnd second
    exact resolve_append_of_error failed notAtEnd second

/-- Behind an escaped brace an open one fails where it stands, and an argument
that is missing fails with a slash behind it as it does alone. -/
theorem open_brace_fails_behind_escaped_brace :
    let env : Environment := ⟨{}, {}, {}⟩
    (env.resolve ("/\x7b" ++ "\x7b")).outcome =
        .error (.raised .unterminatedExpression ⟨2, 3⟩) ∧
      (env.resolve ("/\x7b" ++ "//")).outcome = .ok ("\x7b" ++ "/") ∧
      env.resolve ("\x7b0\x7d" ++ "/") = env.resolve "\x7b0\x7d" := by
  intro env
  have escaped : (env.resolve "/\x7b").outcome = .ok "\x7b" := by
    rw [resolve, resolveAt]
    rfl
  have slash : (env.resolve "//").outcome = .ok "/" := by
    rw [resolve, resolveAt]
    rfl
  have opened :
      (env.resolve "\x7b").outcome =
        .error (.raised .unterminatedExpression ⟨0, 1⟩) := by
    rw [resolve, resolveAt]
    rfl
  have missing :
      (env.resolve "\x7b0\x7d").outcome =
        .error (.raised (.argumentOutOfRange 0 0) ⟨0, 3⟩) := by
    rw [resolve, resolveAt]
    rfl
  have behind := (env.resolution_is_compositional "/\x7b").1 "\x7b" escaped
  exact ⟨(behind "\x7b").2.2 _ opened, (behind "//").2.1 _ slash,
    (env.resolution_is_compositional "\x7b0\x7d").2 _ missing
      (fun _ => ⟨Cause.noConfusion, Cause.noConfusion⟩) "/"⟩

end Environment

end Phrasebook
