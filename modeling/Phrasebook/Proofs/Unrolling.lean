import Mathlib.Data.Set.Card
import Phrasebook.Proofs.KeyExpressions

/-!
# Tables that lead on forever

Where every entry of a table leads on to an entry of the table, nothing but the
deepest level ends an expansion. The entries down to that level are unrolled
around the sentinel: first the texts before their keys, then the sentinel, and
then the texts behind their keys, innermost first. Each entry takes up one
level, and each branch around its key takes up another one.
-/

namespace Phrasebook

/-! ## Texts without marks -/

/-- A text that holds nothing for which a slash is needed outside
expressions. -/
def IsLiteral (text : String) : Prop :=
  '\x7b' ∉ text.toList ∧ '/' ∉ text.toList

/-- A key that needs no slashes in an expression. -/
structure IsPlainKey (text : String) : Prop extends IsKey text where
  unmarked : ∀ c ∈ text.toList, Scan.hasMeaning c = false

theorem escapeMarks_of_unmarked
    {text : List Char} (unmarked : ∀ c ∈ text, Scan.hasMeaning c = false) :
    escapeMarks text = text := by
  induction text with
  | nil =>
      rfl
  | cons c rest inductionHypothesis =>
      have restUnmarked : ∀ d ∈ rest, Scan.hasMeaning d = false :=
        fun d member => unmarked d (List.mem_cons_of_mem c member)
      rw [escapeMarks_cons_of_not_hasMeaning (unmarked c List.mem_cons_self),
        inductionHypothesis restUnmarked]

theorem IsPlainKey.expressionOf_eq
    {key : String} (isPlain : IsPlainKey key) :
    expressionOf key = "\x7b" ++ key ++ "\x7d" := by
  rw [expressionOf, escapeText, escapeMarks_of_unmarked isPlain.unmarked,
    String.ofList_toList]

theorem IsLiteral.unescaped
    {text : String} (isLiteral : IsLiteral text) :
    ∀ c ∈ text.toList, Region.outside.escapes c = false := by
  intro c member
  have notBrace : c ≠ '\x7b' := by
    rintro rfl
    exact isLiteral.1 member
  have notSlash : c ≠ '/' := by
    rintro rfl
    exact isLiteral.2 member
  simp [Region.escapes, notBrace, notSlash]

namespace Scan

variable {limit : Nat} {render : Nat → Expression → Run String}

/-- A text in which nothing can be escaped is written as it is. -/
theorem complete_unescaped
    {region : Region} (text rest : List Char)
    (unescaped : ∀ c ∈ text, region.escapes c = false)
    {scan : Scan} (settled : scan.slash = false)
    (inRegion : regionOf scan.frames = some region) :
    scan.complete limit render (text ++ rest) =
      complete limit render
        (write { scan with position := scan.position + text.length }
          (String.ofList text))
        rest := by
  induction text generalizing scan with
  | nil =>
      have nothing : write scan (String.ofList []) = scan := write_empty scan
      exact congrArg (complete limit render · rest) nothing.symm
  | cons c others inductionHypothesis =>
      obtain ⟨notSlash, notBrace, notEnd⟩ :=
        Region.ordinary_of_not_escapes (unescaped c List.mem_cons_self)
      have othersUnescaped : ∀ d ∈ others, region.escapes d = false :=
        fun d member => unescaped d (List.mem_cons_of_mem c member)
      have places :
          scan.position + 1 + others.length =
            scan.position + (c :: others).length := by
        simp only [List.length_cons]
        omega
      rw [List.cons_append,
        complete_ordinary settled inRegion notSlash notBrace notEnd,
        inductionHypothesis othersUnescaped (by simp [settled])
          (by simp [inRegion]),
        write_push_ofList, position_push, places]

end Scan

/-! ## False branches -/

/-- A text inside a number of false branches of the first argument. -/
def inBranches : Nat → String → String
  | 0, text => text
  | count + 1, text => "\x7b0?" ++ inBranches count text ++ "|\x7d"

theorem toList_inBranches_succ (count : Nat) (text : String) :
    (inBranches (count + 1) text).toList =
      '\x7b' :: '0' :: '?' ::
        ((inBranches count text).toList ++ ['|', '\x7d']) := by
  simp [inBranches]

namespace Scan

section Branches

variable {limit : Nat} {render : Nat → Expression → Run String}
  {key : String} {expand : Nat → Run String}
  {position : Nat} {output : String} {frames : List Frame} {region : Region}

/-- A key in false branches is rendered as many expressions deeper. -/
theorem complete_inBranches
    (expands : ∀ nesting site span, site ≠ .selector →
      render nesting ⟨key, none, none, site, span⟩ = expand nesting)
    (picks : ∀ nesting site span text,
      render nesting ⟨"0", some ⟨text, ""⟩, none, site, span⟩ = pure text)
    (count : Nat) (inRegion : regionOf frames = some region)
    (notSelector : region.site ≠ .selector)
    (shallow : frames.length + count ≤ limit) (rest : List Char) :
    complete limit render ⟨position, false, output, frames⟩
        ((inBranches count (expressionOf key)).toList ++ rest) =
      (expand (frames.length + count)) >>= fun text =>
        complete limit render
          (write
            ⟨position + (inBranches count (expressionOf key)).length, false,
              output, frames⟩
            text)
          rest := by
  -- The inner branches are read with the outermost expression open.
  induction count generalizing position output frames region rest with
  | zero =>
      rw [inBranches, complete_expressionOf inRegion shallow,
        expands _ _ _ notSelector]
      rfl
  | succ count inductionHypothesis =>
      have template := toList_inBranches_succ count (expressionOf key)
      have shallowHere : frames.length ≤ limit := by omega
      have notEnd : Region.selector.ends '0' = false := by decide
      have inSelector :
          regionOf (⟨position, .selector, ""⟩ :: frames) = some .selector :=
        rfl
      have opened :
          complete limit render ⟨position, false, output, frames⟩
              ((inBranches (count + 1) (expressionOf key)).toList ++ rest) =
            complete limit render
              ⟨position + 3, false, output,
                ⟨position, .ifFalse "0", ""⟩ :: frames⟩
              ((inBranches count (expressionOf key)).toList ++
                '|' :: '\x7d' :: rest) := by
        rw [template, List.cons_append, List.cons_append, List.cons_append,
          List.append_assoc, complete_nested rfl inRegion shallowHere,
          complete_ordinary rfl inSelector (by decide) (by decide) notEnd]
        exact complete_question _
      have inBranch :
          regionOf (⟨position, .ifFalse "0", ""⟩ :: frames) = some .ifFalse :=
        rfl
      have levels :
          (⟨position, .ifFalse "0", ""⟩ :: frames).length + count =
            frames.length + (count + 1) := by
        simp only [List.length_cons]
        omega
      have places :
          position + 3 + (inBranches count (expressionOf key)).length + 1 + 1 =
            position + (inBranches (count + 1) (expressionOf key)).length := by
        rw [← String.length_toList (s := inBranches (count + 1) _), template]
        simp only [List.length_cons, List.length_append, List.length_nil,
          String.length_toList]
        omega
      rw [opened,
        inductionHypothesis inBranch (by decide) (levels.trans_le shallow),
        levels]
      refine bind_congr fun text => ?_
      simp only [write, String.empty_append]
      rw [complete_bar, complete_close rfl, picks, pure_bind, places]
      rfl

end Branches

end Scan

/-! ## Links between entries -/

/-- What the entries of a table are made of: a text before the key they lead on
to, a text behind it, and a number of false branches around it. -/
structure Links where
  front : String → String
  back : String → String
  next : String → String
  wraps : String → Nat

namespace Links

section Definitions

variable (links : Links)

def entry (key : String) : String :=
  links.front key ++
    inBranches (links.wraps key) ("\x7b" ++ links.next key ++ "\x7d") ++
    links.back key

def keyAt (start : String) (count : Nat) : String :=
  links.next^[count] start

/-- The level of the key that is reached after a number of entries, for a first
key at the given level. -/
def depthAt (level : Nat) (start : String) : Nat → Nat
  | 0 => level
  | count + 1 =>
      depthAt level start count + 1 + links.wraps (links.keyAt start count)

/-- How many entries lie no deeper than the deepest level. -/
noncomputable def entriesWithin (maxDepth : Nat) (start : String) : Nat :=
  Set.ncard { count | links.depthAt 0 start count ≤ maxDepth }

def unrolled (sentinel start : String) (count : Nat) : String :=
  String.join ((List.range count).map fun i =>
      links.front (links.keyAt start i)) ++
    sentinel ++
    String.join ((List.range count).reverse.map fun i =>
      links.back (links.keyAt start i))

/-- The expansions of the first entries, and the limit behind them. -/
def events (maxDepth level : Nat) (start : String) (count : Nat) : List Event :=
  (List.range count).map (fun i =>
      .expanding (links.keyAt start i) (links.depthAt level start i)) ++
    [.limitReached (links.keyAt start count) (links.depthAt level start count)
      maxDepth]

end Definitions

/-! ## From one key to the next one -/

variable {links : Links} {start : String} {level count maxDepth : Nat}

theorem keyAt_succ :
    links.keyAt start (count + 1) = links.keyAt (links.next start) count :=
  rfl

theorem depthAt_succ :
    links.depthAt level start (count + 1) =
      links.depthAt (level + 1 + links.wraps start) (links.next start)
        count := by
  induction count with
  | zero =>
      rfl
  | succ count inductionHypothesis =>
      rw [depthAt, inductionHypothesis, keyAt_succ]
      rfl

theorem depthAt_succ_level :
    links.depthAt (level + 1) start count =
      links.depthAt level start count + 1 := by
  induction count with
  | zero =>
      rfl
  | succ count inductionHypothesis =>
      simp only [depthAt, inductionHypothesis]
      omega

theorem depthAt_of_bare
    (bare : ∀ i, links.wraps (links.keyAt start i) = 0) (count : Nat) :
    links.depthAt level start count = level + count := by
  induction count with
  | zero =>
      rfl
  | succ count inductionHypothesis =>
      rw [depthAt, inductionHypothesis, bare]
      rfl

theorem unrolled_zero (sentinel : String) :
    links.unrolled sentinel start 0 = sentinel := by
  simp [unrolled]

theorem unrolled_succ (sentinel : String) :
    links.unrolled sentinel start (count + 1) =
      links.front start ++
        links.unrolled sentinel (links.next start) count ++
        links.back start := by
  simp only [unrolled, List.range_succ_eq_map, List.map_cons, List.reverse_cons,
    List.map_append, List.map_nil, List.map_map, ← List.map_reverse,
    String.join_cons, String.join_append, String.join_nil, String.append_empty,
    String.append_assoc]
  rfl

theorem events_succ :
    links.events maxDepth level start (count + 1) =
      .expanding start level ::
        links.events maxDepth (level + 1 + links.wraps start)
          (links.next start) count := by
  simp only [events, List.range_succ_eq_map, List.map_cons, List.map_map,
    List.cons_append, depthAt_succ, keyAt_succ, Function.comp_def,
    Nat.succ_eq_add_one]
  rfl

/-! ## Entries down to a level -/

theorem depthAt_strictMono (links : Links) (level : Nat) (start : String) :
    StrictMono (links.depthAt level start) := by
  refine strictMono_nat_of_lt_succ fun count => ?_
  rw [depthAt]
  omega

theorem entriesWithin_eq
    (within : ∀ i, i < count → links.depthAt 0 start i ≤ maxDepth)
    (beyond : maxDepth < links.depthAt 0 start count) :
    links.entriesWithin maxDepth start = count := by
  -- Levels increase, so the entries that are not too deep are the first ones.
  have firstOnes :
      { i | links.depthAt 0 start i ≤ maxDepth } = ↑(Finset.range count) := by
    ext i
    simp only [Set.mem_ofPred_eq, Finset.coe_range, Set.mem_Iio]
    constructor
    · intro isWithin
      exact (links.depthAt_strictMono 0 start).lt_iff_lt.mp
        (isWithin.trans_lt beyond)
    · exact within i
  rw [entriesWithin, firstOnes, Set.ncard_coe_finset, Finset.card_range]

theorem entriesWithin_of_bare
    (bare : ∀ i, links.wraps (links.keyAt start i) = 0) (maxDepth : Nat) :
    links.entriesWithin maxDepth start = maxDepth + 1 := by
  apply entriesWithin_eq
  · intro i before
    rw [depthAt_of_bare bare]
    omega
  · rw [depthAt_of_bare bare]
    omega

theorem depthAt_entriesWithin
    (links : Links) (maxDepth : Nat) (start : String) :
    (∀ i, i < links.entriesWithin maxDepth start →
      links.depthAt 0 start i ≤ maxDepth) ∧
      maxDepth < links.depthAt 0 start (links.entriesWithin maxDepth start) := by
  have deeper : ∃ count, maxDepth < links.depthAt 0 start count :=
    ⟨maxDepth + 1, (links.depthAt_strictMono 0 start).le_apply⟩
  have within (i : Nat) (before : i < Nat.find deeper) :
      links.depthAt 0 start i ≤ maxDepth :=
    Nat.not_lt.mp (Nat.find_min deeper before)
  rw [entriesWithin_eq within (Nat.find_spec deeper)]
  exact ⟨within, Nat.find_spec deeper⟩

/-! ## Tables made of links -/

/-- The entry of a key is made as the links say, and leads on to an entry. -/
structure Describes (links : Links) (env : Environment) (key : String) :
    Prop where
  isPlain : IsPlainKey key
  found : env.table.templates.get? key = some (links.entry key)
  leadsOn : env.hasEntry (links.next key) = true
  front : IsLiteral (links.front key)
  back : IsLiteral (links.back key)
  shallow : links.wraps key ≤ env.limits.maxNesting

end Links

namespace Environment

variable {env : Environment} {links : Links} {key : String}

theorem renderAt_zero_of_false
    (isFalse : env.context.args[0]? = some (.flag false))
    (depth nesting : Nat) (site : Site) (span : Span) (text : String) :
    env.renderAt depth nesting ⟨"0", some ⟨text, ""⟩, none, site, span⟩ =
      pure text := by
  have isArgument : Selector.ofText "0" = .argument 0 := by decide
  exact Expression.render_of_argument isArgument isFalse

/-- An entry writes its two texts around what it leads on to. -/
theorem resolveAt_entry
    (isFalse : env.context.args[0]? = some (.flag false))
    (described : links.Describes env key)
    (nextDescribed : links.Describes env (links.next key)) (depth : Nat) :
    env.resolveAt depth (links.entry key) =
      (env.expandAt depth (links.wraps key) (links.next key)
          (links.entry (links.next key))) >>= fun text =>
        pure (links.front key ++ text ++ links.back key) := by
  have expands (nesting : Nat) (site : Site) (span : Span)
      (notSelector : site ≠ .selector) :
      env.renderAt depth nesting ⟨links.next key, none, none, site, span⟩ =
        env.expandAt depth nesting (links.next key)
          (links.entry (links.next key)) :=
    renderAt_of_found nextDescribed.isPlain.toIsKey nextDescribed.found depth
      nesting notSelector span
  have shallow : ([] : List Frame).length + links.wraps key ≤
      env.limits.maxNesting := by
    simpa using described.shallow
  have template :
      (links.entry key).toList =
        (links.front key).toList ++
          ((inBranches (links.wraps key)
            (expressionOf (links.next key))).toList ++
              (links.back key).toList) := by
    rw [nextDescribed.isPlain.expressionOf_eq]
    simp only [Links.entry, String.toList_append, List.append_assoc]
  rw [resolveAt_eq_complete, template,
    Scan.complete_unescaped _ _ described.front.unescaped rfl rfl]
  simp only [Scan.write, String.empty_append, String.ofList_toList]
  rw [Scan.complete_inBranches expands (renderAt_zero_of_false isFalse depth)
    (links.wraps key) rfl (by decide) shallow, List.length_nil, Nat.zero_add]
  refine bind_congr fun text => ?_
  rw [← List.append_nil (links.back key).toList,
    Scan.complete_unescaped _ _ described.back.unescaped rfl rfl,
    Scan.complete_nil, String.ofList_toList]
  rfl

/-- The links of a chain are expanded one after the other, up to the level that
is too deep. -/
theorem expandAt_unrolls
    (isFalse : env.context.args[0]? = some (.flag false))
    (describes : ∀ key, env.hasEntry key = true → links.Describes env key)
    (count : Nat) {depth nesting : Nat} (present : env.hasEntry key = true)
    (within : ∀ i, i < count →
      links.depthAt (depth + nesting) key i ≤ env.limits.maxDepth)
    (beyond :
      env.limits.maxDepth < links.depthAt (depth + nesting) key count) :
    env.expandAt depth nesting key (links.entry key) =
      ⟨links.events env.limits.maxDepth (depth + nesting) key count,
        .ok (links.unrolled env.limits.recursionSentinel key count)⟩ := by
  -- The next entry starts deeper, so that it has one entry less to go.
  induction count generalizing depth nesting key with
  | zero =>
      rw [expandAt_of_lt beyond, Links.unrolled_zero]
      rfl
  | succ count inductionHypothesis =>
      have described := describes key present
      have nextDescribed := describes (links.next key) described.leadsOn
      have nextWithin (i : Nat) (before : i < count) :
          links.depthAt (depth + nesting + 1 + links.wraps key)
            (links.next key) i ≤ env.limits.maxDepth := by
        rw [← Links.depthAt_succ]
        exact within (i + 1) (Nat.succ_lt_succ before)
      rw [Links.depthAt_succ] at beyond
      rw [expandAt_of_le (within 0 count.succ_pos),
        resolveAt_entry isFalse described nextDescribed,
        inductionHypothesis described.leadsOn nextWithin beyond,
        Links.events_succ, Links.unrolled_succ, Run.emit_bind]
      simp only [Run.bind_eq, Run.andThen, Run.pure_eq, Run.mapError,
        List.append_nil]
      rfl

theorem resolveEntry_unrolls
    (isFalse : env.context.args[0]? = some (.flag false))
    (describes : ∀ key, env.hasEntry key = true → links.Describes env key)
    {count : Nat} (present : env.hasEntry key = true)
    (within : ∀ i, i < count + 1 →
      links.depthAt 0 key i ≤ env.limits.maxDepth + 1)
    (beyond : env.limits.maxDepth + 1 < links.depthAt 0 key (count + 1)) :
    (env.resolveEntry key).outcome =
      .ok (links.unrolled env.limits.recursionSentinel key (count + 1)) := by
  have described := describes key present
  have nextDescribed := describes (links.next key) described.leadsOn
  -- A call by a key spends no level on the key itself.
  have levels (i : Nat) :
      links.depthAt 0 key (i + 1) =
        links.depthAt (0 + links.wraps key) (links.next key) i + 1 := by
    rw [Links.depthAt_succ, ← Links.depthAt_succ_level, Nat.add_right_comm]
  have nextWithin (i : Nat) (before : i < count) :
      links.depthAt (0 + links.wraps key) (links.next key) i ≤
        env.limits.maxDepth := by
    have isWithin := within (i + 1) (Nat.succ_lt_succ before)
    rw [levels] at isWithin
    exact Nat.le_of_succ_le_succ isWithin
  rw [levels] at beyond
  rw [resolveEntry_of_found described.found, resolve,
    resolveAt_entry isFalse described nextDescribed,
    expandAt_unrolls isFalse describes count described.leadsOn nextWithin
      (Nat.lt_of_succ_lt_succ beyond),
    Links.unrolled_succ]
  rfl

theorem hasEntry_keyAt
    (describes : ∀ key, env.hasEntry key = true → links.Describes env key)
    (present : env.hasEntry key = true) (count : Nat) :
    env.hasEntry (links.keyAt key count) = true := by
  induction count generalizing key with
  | zero =>
      exact present
  | succ count inductionHypothesis =>
      exact inductionHypothesis (describes key present).leadsOn

/-- A table whose entries all lead on is unrolled down to the deepest level. The
log tells the entries that are expanded, and ends where the sentinel stands. A
call by a key has one level more to go. -/
theorem tables_unroll_to_deepest_level
    (isFalse : env.context.args[0]? = some (.flag false))
    (describes : ∀ key, env.hasEntry key = true → links.Describes env key)
    (present : env.hasEntry key = true) :
    let maxDepth := env.limits.maxDepth
    let unrolled := links.unrolled env.limits.recursionSentinel key
    env.resolve ("\x7b" ++ key ++ "\x7d") =
        ⟨links.events maxDepth 0 key (links.entriesWithin maxDepth key),
          .ok (unrolled (links.entriesWithin maxDepth key))⟩ ∧
      (env.resolveEntry key).outcome =
        .ok (unrolled (links.entriesWithin (maxDepth + 1) key)) ∧
      ((∀ other, env.hasEntry other = true → links.wraps other = 0) →
        links.entriesWithin maxDepth key = maxDepth + 1 ∧
          links.entriesWithin (maxDepth + 1) key = maxDepth + 2) := by
  have described := describes key present
  refine ⟨?_, ?_, ?_⟩
  · obtain ⟨within, beyond⟩ :=
      links.depthAt_entriesWithin env.limits.maxDepth key
    rw [resolve, ← described.isPlain.expressionOf_eq, resolveAt_expressionOf,
      renderAt_of_found described.isPlain.toIsKey described.found 0 0
        (by decide)]
    exact expandAt_unrolls isFalse describes _ present within beyond
  · obtain ⟨within, beyond⟩ :=
      links.depthAt_entriesWithin (env.limits.maxDepth + 1) key
    generalize links.entriesWithin (env.limits.maxDepth + 1) key = count at *
    cases count with
    | zero =>
        exact absurd beyond (Nat.not_lt_zero _)
    | succ count =>
        exact resolveEntry_unrolls isFalse describes present within beyond
  · intro noBranches
    have bare (i : Nat) : links.wraps (links.keyAt key i) = 0 :=
      noBranches _ (hasEntry_keyAt describes present i)
    exact ⟨Links.entriesWithin_of_bare bare _,
      Links.entriesWithin_of_bare bare _⟩

/-- Two keys that lead on to each other, one of them in a branch. -/
theorem two_keys_unroll_to_deepest_level :
    let links : Links :=
      ⟨fun key => if key = "ping" then "<" else "(",
        fun key => if key = "ping" then ">" else ")",
        fun key => if key = "ping" then "pong" else "ping",
        fun key => if key = "ping" then 1 else 0⟩
    let entries := Dictionary.insert {} "ping" "<\x7b0?\x7bpong\x7d|\x7d>"
    let env : Environment :=
      ⟨{ templates := entries.insert "pong" "(\x7bping\x7d)" },
        { maxDepth := 3, recursionSentinel := "..." },
        { args := [.flag false] }⟩
    (∀ key, env.hasEntry key = true → links.Describes env key) ∧
      env.resolve "\x7bping\x7d" =
        ⟨[.expanding "ping" 0, .expanding "pong" 2, .expanding "ping" 3,
            .limitReached "pong" 5 3],
          .ok "<(<...>)>"⟩ := by
  intro links entries env
  have isKey {key : String} (isOne : key = "ping" ∨ key = "pong") :
      IsKey key := by
    rcases isOne with rfl | rfl <;>
      exact ⟨by decide, by decide, by decide, by decide, nofun⟩
  have isOne {key : String} (present : env.hasEntry key = true) :
      key = "ping" ∨ key = "pong" := by
    by_contra isNone
    obtain ⟨notPing, notPong⟩ := not_or.mp isNone
    simp only [env, entries, hasEntry, Dictionary.contains,
      Dictionary.get?_insert, if_neg (Ne.symm notPing),
      if_neg (Ne.symm notPong)] at present
    cases present
  have describes (key : String) (present : env.hasEntry key = true) :
      links.Describes env key := by
    have isKey := isKey (isOne present)
    rcases isOne present with rfl | rfl <;>
      exact ⟨⟨isKey, by simp [Scan.hasMeaning]⟩, rfl, rfl,
        ⟨by decide, by decide⟩,
        ⟨by decide, by decide⟩, by decide⟩
  have unrolls :=
    @tables_unroll_to_deepest_level env links "ping" rfl describes rfl
  have threeEntries : links.entriesWithin env.limits.maxDepth "ping" = 3 :=
    Links.entriesWithin_eq (by decide) (by decide)
  refine ⟨describes, unrolls.1.trans ?_⟩
  rw [threeEntries]
  rfl

end Environment

end Phrasebook
