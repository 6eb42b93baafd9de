import Phrasebook.Proofs.Escaping
import Phrasebook.Proofs.Rendering

/-!
# Keys and expressions of keys

The entry of a key can be asked for directly, or by an expression that holds
nothing but the key. The expression takes up one level, so that both give the
same text or the same error where the expression has one level more to go. Its
log is that of the direct call, one level deeper, behind the expansion of the
key itself.
-/

namespace Phrasebook

/-! ## Keys as selectors -/

/-- A text that, as a selector, is neither cut into segments nor a letter or a
digit that stands for something else. -/
structure IsKey (text : String) : Prop where
  noDot : '.' ∉ text.toList
  notAttribute : text ≠ "a"
  notSource : text ≠ "s"
  notDisplay : text ≠ "d"
  notDigit : ∀ c, text.toList = [c] → c.isDigit = false

theorem splitAtMark_of_not_mem
    {mark : Char} {text : List Char} (unmarked : mark ∉ text) :
    splitAtMark mark text = (text, []) := by
  induction text with
  | nil =>
      rfl
  | cons c rest inductionHypothesis =>
      have notMark : c ≠ mark := by
        rintro rfl
        exact unmarked List.mem_cons_self
      have restUnmarked : mark ∉ rest := fun member =>
        unmarked (List.mem_cons_of_mem c member)
      simp only [splitAtMark, notMark, if_false,
        inductionHypothesis restUnmarked]

theorem decimalDigit?_eq_none
    {c : Char} (notDigit : c.isDigit = false) : decimalDigit? c = none := by
  rw [decimalDigit?, if_neg]
  rintro ⟨fromZero, toNine⟩
  have isDigit : c.isDigit = true := by
    simp only [Char.isDigit, Bool.and_eq_true, decide_eq_true_eq]
    exact ⟨fromZero, toNine⟩
  rw [isDigit] at notDigit
  cases notDigit

theorem IsKey.ofText
    {text : String} (isKey : IsKey text) :
    Selector.ofText text = .key text := by
  have differs {other : String} (notOther : text ≠ other) :
      text.toList ≠ other.toList := fun same =>
    notOther (String.toList_injective same)
  have notAttribute : text.toList ≠ ['a'] := differs isKey.notAttribute
  have notSource : text.toList ≠ ['s'] := differs isKey.notSource
  have notDisplay : text.toList ≠ ['d'] := differs isKey.notDisplay
  have notIndex : singleDigit? text.toList = none := by
    unfold singleDigit?
    split
    · rename_i c isSingle
      exact decimalDigit?_eq_none (isKey.notDigit c isSingle)
    · rfl
  simp only [Selector.ofText, splitAtMark_of_not_mem isKey.noDot,
    Selector.ofSingle, SubjectRole.ofSegment?, notAttribute, notSource,
    notDisplay, notIndex, if_false, String.ofList_toList]

/-! ## Expressions of keys -/

def expressionOf (text : String) : String :=
  "\x7b" ++ escapeText text ++ "\x7d"

/-- Wherever it stands, the expression renders its text as a selector. -/
theorem complete_expressionOf
    {limit : Nat} {render : Nat → Expression → Run String}
    {position : Nat} {output : String} {frames : List Frame} {region : Region}
    (inRegion : Scan.regionOf frames = some region)
    (shallow : frames.length ≤ limit) (text : String) (rest : List Char) :
    Scan.complete limit render ⟨position, false, output, frames⟩
        ((expressionOf text).toList ++ rest) =
      (render frames.length ⟨text, none, none, region.site,
        ⟨position, position + (expressionOf text).length⟩⟩) >>= fun written =>
          Scan.complete limit render
            (Scan.write
              ⟨position + (expressionOf text).length, false, output, frames⟩
              written)
            rest := by
  have template :
      (expressionOf text).toList =
        '\x7b' :: (escapeMarks text.toList ++ ['\x7d']) := by
    simp [expressionOf, escapeText]
  have behind :
      position + (expressionOf text).length =
        position + 1 + (escapeMarks text.toList).length + 1 := by
    rw [← String.length_toList, template]
    simp only [List.length_cons, List.length_append, List.length_nil]
    omega
  have selectorInside : Region.selector ≠ .outside := by decide
  rw [template, behind, List.cons_append, List.append_assoc,
    Scan.complete_nested rfl inRegion shallow]
  refine Eq.trans
    (Scan.complete_escapeMarks selectorInside text.toList _ rfl rfl) ?_
  simp only [Scan.write, String.empty_append, String.ofList_toList,
    List.cons_append, List.nil_append]
  rw [Scan.complete_close rfl, Scan.siteIn_eq inRegion]
  rfl

namespace Environment

theorem resolveAt_expressionOf
    (env : Environment) (depth : Nat) (text : String) :
    env.resolveAt depth (expressionOf text) =
      env.renderAt depth 0
        ⟨text, none, none, .entry, ⟨0, (expressionOf text).length⟩⟩ := by
  have outside : Scan.regionOf [] = some .outside := rfl
  rw [resolveAt_eq_complete, ← List.append_nil (expressionOf text).toList,
    complete_expressionOf outside (Nat.zero_le _), Nat.zero_add]
  refine Eq.trans (bind_congr fun written => ?_) (bind_pure _)
  rw [Scan.complete_nil]
  simp [Scan.write, Scan.finish]

theorem renderAt_of_found
    {env : Environment} {key entry : String} (isKey : IsKey key)
    (found : env.table.templates.get? key = some entry)
    (depth nesting : Nat) {site : Site} (notSelector : site ≠ .selector)
    (span : Span) :
    env.renderAt depth nesting ⟨key, none, none, site, span⟩ =
      env.expandAt depth nesting key entry :=
  Expression.render_of_found isKey.ofText found notSelector

end Environment

/-! ## One level deeper -/

def Event.deeper : Event → Event
  | keyMissing key => .keyMissing key
  | expanding key depth => .expanding key (depth + 1)
  | limitReached key depth maxDepth =>
      .limitReached key (depth + 1) (maxDepth + 1)

def Limits.deeper (limits : Limits) : Limits :=
  { limits with maxDepth := limits.maxDepth + 1 }

namespace Environment

/-- With one level more to go, a text that stands one level deeper is resolved
alike. -/
theorem corresponds_deeper
    (env : Environment) (depth : Nat) (template : String) :
    (env.resolveAt depth template).Corresponds (.strict Event.deeper id) Eq
      ((env.withLimits env.limits.deeper).resolveAt (depth + 1) template) := by
  have alike :
      Alike (.strict Event.deeper id) id env
        (env.withLimits env.limits.deeper) :=
    ⟨fun _ _ => rfl, fun _ => rfl, .inl rfl, _, .refl _ _⟩
  refine alike.corresponds_of_expandAt 1 ?_ depth template
  intro depth nesting key inner
  refine rel_self _ fun entry => ?_
  have levels : depth + 1 + nesting = depth + nesting + 1 := by
    omega
  by_cases within : depth + nesting ≤ env.limits.maxDepth
  · have otherWithin : depth + 1 + nesting ≤ env.limits.deeper.maxDepth := by
      rw [levels]
      exact Nat.succ_le_succ within
    refine corresponds_expandAt (fun _ => rfl) (fun _ exempt => exempt) within
      otherWithin ?_ ?_
    · rw [levels]
      rfl
    · rw [levels]
      exact inner within entry
  · have beyond := Nat.not_le.mp within
    have otherBeyond :
        (env.withLimits env.limits.deeper).limits.maxDepth <
          depth + 1 + nesting := by
      rw [levels]
      exact Nat.succ_lt_succ beyond
    refine corresponds_expandAt_of_lt beyond otherBeyond rfl ?_
    rw [levels]
    rfl

/-! ## Keys -/

theorem resolveEntry_of_missing
    {env : Environment} {key : String}
    (missing : env.table.templates.get? key = none) :
    env.resolveEntry key = pure key := by
  simp only [resolveEntry, resolveEntryD, resolveEntry?, missing, pure_bind,
    Option.getD_none]

theorem resolveEntry_of_found
    {env : Environment} {key entry : String}
    (found : env.table.templates.get? key = some entry) :
    env.resolveEntry key =
      (env.resolve entry).mapError (.inEntry ⟨key, entry⟩) := by
  simp only [resolveEntry, resolveEntryD, resolveEntry?, found, bind_assoc,
    pure_bind, Option.getD_some, bind_pure]

theorem resolveEntry?_eq_none_iff
    (env : Environment) (key : String) :
    (Run.outcome <| env.resolveEntry? key) = .ok none ↔
      env.hasEntry key = false := by
  unfold resolveEntry? hasEntry Dictionary.contains
  cases env.table.templates.get? key with
  | none =>
      exact ⟨fun _ => rfl, fun _ => rfl⟩
  | some entry =>
      simp only [Option.isSome_some, Bool.true_eq_false, iff_false]
      intro isNone
      generalize (env.resolve entry).mapError _ = run at isNone
      obtain ⟨log, outcome⟩ := run
      cases outcome <;> cases isNone

theorem resolve_expressionOf_of_missing
    {env : Environment} {key : String} (isKey : IsKey key)
    (missing : env.table.templates.get? key = none) :
    env.resolve (expressionOf key) = ⟨[.keyMissing key], .ok key⟩ := by
  rw [resolve, resolveAt_expressionOf]
  exact Expression.render_of_missing isKey.ofText missing

theorem resolve_expressionOf_of_found
    {env : Environment} {key entry : String} (isKey : IsKey key)
    (found : env.table.templates.get? key = some entry) :
    env.resolve (expressionOf key) =
      ⟨.expanding key 0 :: (env.resolveAt 1 entry).log,
        (env.resolveAt 1 entry).outcome.mapError (.inEntry ⟨key, entry⟩)⟩ := by
  have within : 0 + 0 ≤ env.limits.maxDepth := Nat.zero_le _
  rw [resolve, resolveAt_expressionOf,
    renderAt_of_found isKey found 0 0 (by decide), expandAt_of_le within]
  rfl

/-- A call by a key and the expression of the key agree up to one level. Where
the expression has one level more to go, the outcome is the same, and for a key
of the table the log is that of the call, one level deeper, behind the expansion
of the key. -/
theorem expression_of_key_resolves_as_key (env : Environment) :
    (∀ key, IsKey key →
      ((env.withLimits env.limits.deeper).resolve (expressionOf key)).outcome =
          (env.resolveEntry key).outcome ∧
        (env.hasEntry key = true →
          ((env.withLimits env.limits.deeper).resolve (expressionOf key)).log =
            .expanding key 0 ::
              (env.resolveEntry key).log.map Event.deeper)) ∧
      ∀ key, (Run.outcome <| env.resolveEntry? key) = .ok none ↔
        env.hasEntry key = false := by
  constructor
  · intro key isKey
    cases found : env.table.templates.get? key with
    | none =>
        have absent : env.hasEntry key = false := by
          rw [hasEntry, Dictionary.contains, found]
          rfl
        have missing :
            (env.withLimits env.limits.deeper).resolve (expressionOf key) =
              ⟨[.keyMissing key], .ok key⟩ :=
          resolve_expressionOf_of_missing isKey found
        rw [missing, resolveEntry_of_missing found, absent]
        exact ⟨rfl, fun present => absurd present Bool.false_ne_true⟩
    | some entry =>
        have expanded :
            (env.withLimits env.limits.deeper).resolve (expressionOf key) = _ :=
          resolve_expressionOf_of_found isKey found
        obtain ⟨logs, outcomes⟩ :=
          (env.corresponds_deeper 0 entry).of_not_exempt
            (Comparison.not_exempts_strict _ _ _)
        have sameOutcome :=
          (Run.outcome_of_outcomes outcomes).trans (Run.mapError_id _)
        rw [expanded, resolveEntry_of_found found]
        exact ⟨congrArg (Except.mapError (ResolveError.inEntry _)) sameOutcome,
          fun _ => congrArg (.expanding key 0 :: ·) logs⟩
  · exact env.resolveEntry?_eq_none_iff

/-- A key with marks in it, whose entry leads to itself. -/
theorem expression_of_key_with_marks_resolves_as_key :
    let env : Environment :=
      ⟨{ templates :=
          Dictionary.insert {} "a/b:c" "\x7ba//b/:c\x7d" }, {}, {}⟩
    expressionOf "a/b:c" = "\x7ba//b/:c\x7d" ∧
      ((env.withLimits env.limits.deeper).resolve
          (expressionOf "a/b:c")).outcome =
        (env.resolveEntry "a/b:c").outcome ∧
      ((env.withLimits env.limits.deeper).resolve
          (expressionOf "a/b:c")).log =
        .expanding "a/b:c" 0 ::
          (env.resolveEntry "a/b:c").log.map Event.deeper ∧
      (Run.outcome <| env.resolveEntry? "a") = .ok none := by
  intro env
  have isKey : IsKey "a/b:c" := by
    refine ⟨by decide, by decide, by decide, by decide, ?_⟩
    intro c isSingle
    cases isSingle
  have agree := env.expression_of_key_resolves_as_key
  exact ⟨by decide, (agree.1 _ isKey).1, (agree.1 _ isKey).2 rfl,
    (agree.2 "a").mpr rfl⟩

end Environment

end Phrasebook
