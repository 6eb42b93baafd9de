import Phrasebook.Proofs.Composition
import Phrasebook.Proofs.Escaping

/-!
# Literal texts

Outside expressions a slash escapes slashes and opening braces and nothing
else. So every text can be written as a literal, whatever comes behind it; and a
template in which no brace opens an expression resolves to itself, with the
slashes taken out that escape something.
-/

namespace Phrasebook

/-! ## Escaped and unescaped texts -/

/-- A text with a slash in front of each slash and each opening brace. -/
def escapeLiteral (text : List Char) : List Char :=
  text.flatMap fun c => if c = '/' ∨ c = '\x7b' then ['/', c] else [c]

/-- A text in which, from left to right, each pair of slashes has become one
slash and each slash with a brace behind it has become the brace. -/
def unescapeLiteral : List Char → List Char
  | '/' :: '/' :: rest => '/' :: unescapeLiteral rest
  | '/' :: '\x7b' :: rest => '\x7b' :: unescapeLiteral rest
  | c :: rest => c :: unescapeLiteral rest
  | [] => []

theorem unescapeLiteral_of_ne_slash
    {c : Char} (notSlash : c ≠ '/') (rest : List Char) :
    unescapeLiteral (c :: rest) = c :: unescapeLiteral rest := by
  rw [unescapeLiteral.eq_3]
  · intro _ isSlash
    exact absurd isSlash notSlash
  · intro _ isSlash
    exact absurd isSlash notSlash

theorem unescapeLiteral_escapeLiteral (text : List Char) :
    unescapeLiteral (escapeLiteral text) = text := by
  induction text with
  | nil =>
      rfl
  | cons c rest inductionHypothesis =>
      rw [escapeLiteral, List.flatMap_cons]
      change unescapeLiteral (_ ++ escapeLiteral rest) = _
      by_cases isEscaped : c = '/' ∨ c = '\x7b'
      · rw [if_pos isEscaped]
        rcases isEscaped with rfl | rfl
        · exact congrArg ('/' :: ·) inductionHypothesis
        · exact congrArg ('\x7b' :: ·) inductionHypothesis
      · rw [if_neg isEscaped, List.singleton_append,
          unescapeLiteral_of_ne_slash (not_or.mp isEscaped).1,
          inductionHypothesis]

/-! ## Texts that stay literal -/

/-- The number of slashes that a text ends with. -/
def slashesAtEnd (text : List Char) : Nat :=
  (text.reverse.takeWhile (· = '/')).length

/-- No brace of a text opens an expression, and no slash is left over at its
end. Slashes pair off from the left, so a brace is escaped behind an odd number
of them. -/
structure StaysLiteral (text : List Char) : Prop where
  escaped : ∀ i (inText : i < text.length),
    text[i] = '\x7b' →
    slashesAtEnd (text.take i) % 2 = 1
  paired : slashesAtEnd text % 2 = 0

theorem slashesAtEnd_append (first second : List Char) :
    slashesAtEnd (first ++ second) =
      if slashesAtEnd second = second.length then
        slashesAtEnd first + slashesAtEnd second
      else
        slashesAtEnd second := by
  unfold slashesAtEnd
  rw [List.reverse_append, List.takeWhile_append, List.length_reverse]
  split
  · rename_i onlySlashes
    rw [List.length_append, List.length_reverse, onlySlashes, Nat.add_comm]
  · rfl

theorem slashesAtEnd_singleton
    {c : Char} (notSlash : c ≠ '/') : slashesAtEnd [c] = 0 := by
  simp [slashesAtEnd, notSlash]

/-- Behind a literal text another one stays literal just where it does alone. -/
theorem staysLiteral_append_iff
    {first : List Char} (stays : StaysLiteral first) (second : List Char) :
    StaysLiteral (first ++ second) ↔ StaysLiteral second := by
  have sameParity (text : List Char) :
      slashesAtEnd (first ++ text) % 2 = slashesAtEnd text % 2 := by
    have paired := stays.paired
    rw [slashesAtEnd_append]
    split <;> omega
  constructor
  · intro whole
    refine ⟨?_, (sameParity second).symm.trans whole.paired⟩
    intro i inSecond isBrace
    have odd := whole.escaped (first.length + i)
      (by rw [List.length_append]; omega)
      (by rw [List.getElem_append_right (by omega)]; simpa using isBrace)
    rwa [List.take_length_add_append, sameParity] at odd
  · intro secondStays
    refine ⟨?_, (sameParity second).trans secondStays.paired⟩
    intro i inText isBrace
    by_cases inFirst : i < first.length
    · rw [List.getElem_append_left inFirst] at isBrace
      rw [List.take_append_of_le_length (Nat.le_of_lt inFirst)]
      exact stays.escaped i inFirst isBrace
    · have behind := Nat.not_lt.mp inFirst
      obtain ⟨j, rfl⟩ := Nat.exists_eq_add_of_le behind
      rw [List.length_append] at inText
      rw [List.getElem_append_right behind] at isBrace
      rw [List.take_length_add_append, sameParity]
      exact secondStays.escaped j (by omega) (by simpa using isBrace)

theorem staysLiteral_nil : StaysLiteral [] where
  escaped := by
    intro i inText
    exact absurd inText (Nat.not_lt_zero i)
  paired := rfl

theorem staysLiteral_singleton
    {c : Char} (notSlash : c ≠ '/') (notBrace : c ≠ '\x7b') :
    StaysLiteral [c] where
  escaped := by
    intro i inText isBrace
    obtain rfl : i = 0 := by simpa using inText
    exact absurd isBrace notBrace
  paired := by
    rw [slashesAtEnd_singleton notSlash]

/-- Whatever stands behind a single slash does not open anything. -/
theorem staysLiteral_slash (c : Char) : StaysLiteral ['/', c] where
  escaped := by
    intro i inText isBrace
    match i with
    | 0 =>
        cases isBrace
    | 1 =>
        rfl
  paired := by
    by_cases isSlash : c = '/'
    · rw [isSlash]
      rfl
    · rw [← List.singleton_append, slashesAtEnd_append,
        slashesAtEnd_singleton isSlash]
      rfl

/-- A slash that escapes nothing may be left out. -/
theorem staysLiteral_slash_cons_iff
    {c : Char} (notSlash : c ≠ '/') (notBrace : c ≠ '\x7b')
    (rest : List Char) :
    StaysLiteral ('/' :: c :: rest) ↔ StaysLiteral (c :: rest) :=
  (staysLiteral_append_iff (staysLiteral_slash c) rest).trans
    (staysLiteral_append_iff (staysLiteral_singleton notSlash notBrace)
      rest).symm

theorem staysLiteral_escapeLiteral (text : List Char) :
    StaysLiteral (escapeLiteral text) := by
  induction text with
  | nil =>
      exact staysLiteral_nil
  | cons c rest inductionHypothesis =>
      rw [escapeLiteral, List.flatMap_cons]
      by_cases isEscaped : c = '/' ∨ c = '\x7b'
      · rw [if_pos isEscaped]
        exact (staysLiteral_append_iff (staysLiteral_slash c) _).mpr
          inductionHypothesis
      · obtain ⟨notSlash, notBrace⟩ := not_or.mp isEscaped
        rw [if_neg isEscaped]
        exact (staysLiteral_append_iff
          (staysLiteral_singleton notSlash notBrace) _).mpr inductionHypothesis

theorem escapeLiteral_of_unmarked
    {text : List Char} (noSlash : '/' ∉ text) (noBrace : '\x7b' ∉ text) :
    escapeLiteral text = text := by
  induction text with
  | nil =>
      rfl
  | cons c rest inductionHypothesis =>
      rw [List.mem_cons, not_or] at noSlash noBrace
      obtain ⟨notSlash, restNoSlash⟩ := noSlash
      obtain ⟨notBrace, restNoBrace⟩ := noBrace
      have unescaped : ¬ (c = '/' ∨ c = '\x7b') :=
        not_or.mpr ⟨Ne.symm notSlash, Ne.symm notBrace⟩
      rw [escapeLiteral, List.flatMap_cons, if_neg unescaped]
      exact congrArg (c :: ·) (inductionHypothesis restNoSlash restNoBrace)

/-- Any text stays literal up to a brace that opens an expression or a slash
that is left over, if there is either. -/
theorem exists_literal_part (text : List Char) :
    ∃ part rest, text = part ++ rest ∧ StaysLiteral part ∧
      (rest = [] ∨ rest = ['/'] ∨ ∃ body, rest = '\x7b' :: body) := by
  fun_induction unescapeLiteral text with
  | case1 rest inductionHypothesis =>
      obtain ⟨part, behind, rfl, stays, stop⟩ := inductionHypothesis
      exact ⟨['/', '/'] ++ part, behind, rfl,
        (staysLiteral_append_iff (staysLiteral_slash '/') part).mpr stays, stop⟩
  | case2 rest inductionHypothesis =>
      obtain ⟨part, behind, rfl, stays, stop⟩ := inductionHypothesis
      exact ⟨['/', '\x7b'] ++ part, behind, rfl,
        (staysLiteral_append_iff (staysLiteral_slash '\x7b') part).mpr stays,
        stop⟩
  | case3 c rest notPair notBracePair inductionHypothesis =>
      obtain ⟨part, behind, equality, stays, stop⟩ := inductionHypothesis
      by_cases isSlash : c = '/'
      · subst isSlash
        cases part with
        | nil =>
            -- The slash is left over: nothing that it could escape follows it.
            rcases stop with rfl | rfl | ⟨body, rfl⟩
            · exact ⟨[], ['/'], by rw [equality]; rfl, staysLiteral_nil,
                .inr (.inl rfl)⟩
            · exact absurd equality (notPair [] rfl)
            · exact absurd equality (notBracePair body rfl)
        | cons d others =>
            have notSlash : d ≠ '/' := by
              rintro rfl
              exact notPair _ rfl equality
            have notBrace : d ≠ '\x7b' := by
              rintro rfl
              exact notBracePair _ rfl equality
            exact ⟨'/' :: d :: others, behind, by rw [equality]; rfl,
              (staysLiteral_slash_cons_iff notSlash notBrace others).mpr stays,
              stop⟩
      · by_cases isBrace : c = '\x7b'
        · exact ⟨[], c :: rest, rfl, staysLiteral_nil,
            .inr (.inr ⟨rest, by rw [isBrace]⟩)⟩
        · have single := staysLiteral_singleton isSlash isBrace
          exact ⟨[c] ++ part, behind, by rw [equality]; rfl,
            (staysLiteral_append_iff single part).mpr stays, stop⟩
  | case4 =>
      exact ⟨[], [], rfl, staysLiteral_nil, .inl rfl⟩

/-! ## Literal texts in the pass -/

namespace Scan

variable {limit : Nat} {render : Nat → Expression → Run String}

/-- Outside expressions the pass writes a literal text with its escapes taken
out, and goes on behind it. -/
theorem complete_staysLiteral
    {text : List Char} (stays : StaysLiteral text) (rest : List Char)
    {scan : Scan} (settled : scan.slash = false)
    (outside : regionOf scan.frames = some .outside) :
    scan.complete limit render (text ++ rest) =
      complete limit render
        (write { scan with position := scan.position + text.length }
          (String.ofList (unescapeLiteral text)))
        rest := by
  fun_induction unescapeLiteral text generalizing scan with
  | case1 others inductionHypothesis | case2 others inductionHypothesis =>
      have othersStay :=
        (staysLiteral_append_iff (staysLiteral_slash _) others).mp stays
      have places :
          scan.position + 2 + others.length =
            scan.position + (others.length + 1 + 1) := by
        omega
      simp only [List.cons_append, List.length_cons]
      rw [complete_escape settled ((escapes_eq outside _).trans rfl),
        inductionHypothesis othersStay (by simp [settled]) (by simp [outside]),
        write_push_ofList, position_push, places]
  | case3 c others notPair notBracePair inductionHypothesis =>
      have places :
          scan.position + 1 + others.length =
            scan.position + (others.length + 1) := by
        omega
      have ⟨othersStay, written⟩ :
          StaysLiteral others ∧
            scan.complete limit render (c :: (others ++ rest)) =
              complete limit render
                ({ scan with position := scan.position + 1 }.push c)
                (others ++ rest) := by
        by_cases isSlash : c = '/'
        · subst isSlash
          cases others with
          | nil =>
              exact absurd stays.paired (by decide)
          | cons d after =>
              have notSlash : d ≠ '/' := by
                rintro rfl
                exact notPair after rfl rfl
              have notBrace : d ≠ '\x7b' := by
                rintro rfl
                exact notBracePair after rfl rfl
              have kept : scan.escapes d = false := by
                rw [escapes_eq outside]
                simp [Region.escapes, notSlash, notBrace]
              exact ⟨(staysLiteral_slash_cons_iff notSlash notBrace after).mp
                stays, complete_slash settled kept (after ++ rest)⟩
        · have notBrace : c ≠ '\x7b' := by
            intro isBrace
            cases stays.escaped 0 (Nat.succ_pos _) isBrace
          have single := staysLiteral_singleton isSlash notBrace
          exact ⟨(staysLiteral_append_iff single others).mp stays,
            complete_ordinary settled outside isSlash notBrace rfl
              (others ++ rest)⟩
      rw [List.cons_append, List.length_cons, written,
        inductionHypothesis othersStay (by simp [settled]) (by simp [outside]),
        write_push_ofList, position_push, places]
  | case4 =>
      have nothing : write scan (String.ofList []) = scan := write_empty scan
      exact congrArg (complete limit render · rest) nothing.symm

end Scan

/-! ## Literal templates -/

/-- A text written so that it stands for itself outside expressions. -/
def literalText (text : String) : String :=
  String.ofList (escapeLiteral text.toList)

namespace Environment

theorem resolve_of_staysLiteral
    (env : Environment) {template : String}
    (stays : StaysLiteral template.toList) :
    env.resolve template =
      ⟨[], .ok (String.ofList (unescapeLiteral template.toList))⟩ := by
  rw [resolve_eq_complete, ← List.append_nil template.toList,
    Scan.complete_staysLiteral stays [] rfl rfl, Scan.complete_nil,
    List.append_nil]
  simp [Scan.write, Scan.finish]

theorem resolve_literalText (env : Environment) (text : String) :
    env.resolve (literalText text) = ⟨[], .ok text⟩ := by
  have isEscaped : (literalText text).toList = escapeLiteral text.toList :=
    String.toList_ofList
  rw [resolve_of_staysLiteral, isEscaped, unescapeLiteral_escapeLiteral,
    String.ofList_toList]
  rw [isEscaped]
  exact staysLiteral_escapeLiteral text.toList

/-- Where a template does not stay literal, the pass comes to a brace or to a
last slash with no expression open and no slash waiting. -/
theorem exists_pass_of_literal_part (env : Environment) (template : String) :
    StaysLiteral template.toList ∨
      ∃ part rest text, template = part ++ rest ∧
        part.toList.foldlM
            (Scan.step env.limits.maxNesting (env.renderAt 0)) {} =
          ⟨[], .ok ⟨part.length, false, text, []⟩⟩ ∧
        (rest = "/" ∨ ∃ body, rest = "\x7b" ++ body) := by
  obtain ⟨part, rest, equality, stays, stop⟩ :=
    exists_literal_part template.toList
  rcases stop with rfl | atStop
  · left
    rw [equality, List.append_nil]
    exact stays
  · right
    have partStays : StaysLiteral (String.ofList part).toList := by
      rw [String.toList_ofList]
      exact stays
    have resolved := env.resolve_of_staysLiteral partStays
    have passed := pass_of_resolve (congrArg Run.outcome resolved)
    rw [resolved] at passed
    refine ⟨_, String.ofList rest, _, ?_, passed, ?_⟩
    · rw [← String.ofList_append, ← equality, String.ofList_toList]
    · rcases atStop with rfl | ⟨body, rfl⟩
      · exact .inl rfl
      · refine .inr ⟨String.ofList body, ?_⟩
        apply String.toList_injective
        simp

/-- Every text can be written as a literal: in front of any template it stands
for itself, and the template is resolved as if it stood alone. A template in
which no brace opens an expression and no slash is left over resolves to itself
with its escapes taken out; in any other one the pass comes to such a brace or
such a slash. -/
theorem every_text_has_a_literal (env : Environment) :
    (∀ text, env.resolve (literalText text) = ⟨[], .ok text⟩ ∧
      ∀ template,
        (env.resolve (literalText text ++ template)).log =
            (env.resolve template).log ∧
          (∀ rest, (env.resolve template).outcome = .ok rest →
            (env.resolve (literalText text ++ template)).outcome =
              .ok (text ++ rest)) ∧
          ∀ error, (env.resolve template).outcome = .error error →
            (env.resolve (literalText text ++ template)).outcome =
              .error (error.moved ((literalText text).length + ·))) ∧
      (∀ text, '/' ∉ text.toList → '\x7b' ∉ text.toList →
        env.resolve text = ⟨[], .ok text⟩) ∧
      (∀ template, StaysLiteral template.toList →
        env.resolve template =
          ⟨[], .ok (String.ofList (unescapeLiteral template.toList))⟩) ∧
      ∀ template, StaysLiteral template.toList ∨
        ∃ part rest text, template = part ++ rest ∧
          part.toList.foldlM
              (Scan.step env.limits.maxNesting (env.renderAt 0)) {} =
            ⟨[], .ok ⟨part.length, false, text, []⟩⟩ ∧
          (rest = "/" ∨ ∃ body, rest = "\x7b" ++ body) := by
  refine ⟨?_, ?_, ?_, env.exists_pass_of_literal_part⟩
  · intro text
    have resolved := env.resolve_literalText text
    refine ⟨resolved, fun template => ?_⟩
    obtain ⟨logs, outcomes⟩ :=
      resolve_append_of_ok (congrArg Run.outcome resolved) template
    rw [resolved, List.nil_append] at logs
    refine ⟨logs, ?_, ?_⟩
    · intro rest restResolved
      rw [restResolved] at outcomes
      obtain ⟨_, wholeResolved, rfl⟩ := outcomes.of_ok
      exact wholeResolved
    · intro error restFailed
      rw [restFailed] at outcomes
      exact outcomes.of_error
  · intro text noSlash noBrace
    have isLiteral : literalText text = text := by
      rw [literalText, escapeLiteral_of_unmarked noSlash noBrace,
        String.ofList_toList]
    have resolved := env.resolve_literalText text
    rwa [isLiteral] at resolved
  · intro template stays
    exact env.resolve_of_staysLiteral stays

/-- A text with a slash and a brace in front of an open brace, and a template
with runs of slashes. -/
theorem slashes_and_braces_have_literals :
    let env : Environment := ⟨{}, {}, {}⟩
    literalText "a/\x7b" = "a///\x7b" ∧
      (env.resolve (literalText "a/\x7b" ++ "\x7b")).outcome =
        .error (.raised .unterminatedExpression ⟨5, 6⟩) ∧
      env.resolve "a\x7d?" = ⟨[], .ok "a\x7d?"⟩ ∧
      env.resolve "/a///\x7b//" = ⟨[], .ok "/a/\x7b/"⟩ := by
  intro env
  have literals := env.every_text_has_a_literal
  have opened :
      (env.resolve "\x7b").outcome =
        .error (.raised .unterminatedExpression ⟨0, 1⟩) := by
    rw [resolve, resolveAt]
    rfl
  have stays : StaysLiteral "/a///\x7b//".toList :=
    ⟨by decide, by decide⟩
  exact ⟨by decide, ((literals.1 "a/\x7b").2 "\x7b").2.2 _ opened,
    literals.2.1 "a\x7d?" (by decide) (by decide),
    literals.2.2.1 "/a///\x7b//" stays⟩

end Environment

end Phrasebook
