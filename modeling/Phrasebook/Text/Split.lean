/-!
# Splitting at a mark

A text is cut at every place where a mark stands, as selectors are at their dots
and paths at their slashes. There is always a first piece, so it is kept apart
from the others.
-/

namespace Phrasebook

/-- The pieces of a text between its marks: the first one, and the others. -/
def splitAtMark (mark : Char) : List Char → List Char × List (List Char)
  | [] => ([], [])
  | c :: rest =>
      let split := splitAtMark mark rest
      if c = mark then ([], split.1 :: split.2)
      else (c :: split.1, split.2)

/-- The pieces with marks in front of all but the first are the text. -/
theorem flatMap_splitAtMark (mark : Char) (text : List Char) :
    (splitAtMark mark text).1 ++
      (splitAtMark mark text).2.flatMap (fun piece => mark :: piece) =
        text := by
  induction text with
  | nil => rfl
  | cons c rest inductionHypothesis =>
      by_cases isMark : c = mark
      · subst isMark
        simpa [splitAtMark] using inductionHypothesis
      · simpa [splitAtMark, isMark] using inductionHypothesis

/-- No piece holds a mark. -/
theorem not_mem_splitAtMark (mark : Char) (text : List Char) :
    mark ∉ (splitAtMark mark text).1 ∧
      ∀ piece ∈ (splitAtMark mark text).2, mark ∉ piece := by
  induction text with
  | nil => simp [splitAtMark]
  | cons c rest inductionHypothesis =>
      obtain ⟨notInFirst, notInOthers⟩ := inductionHypothesis
      by_cases isMark : c = mark
      · subst isMark
        simpa [splitAtMark, notInFirst] using notInOthers
      · simpa [splitAtMark, isMark, notInFirst, Ne.symm isMark] using
          notInOthers

end Phrasebook
