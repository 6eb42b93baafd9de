import Phrasebook.Proofs.ScanSteps

/-!
# Escaped texts

A slash in front of each character that has a meaning in expressions keeps a
text from being read as anything but text. In every part of an expression where
text stands, the pass writes the text as it was before it was escaped.
-/

namespace Phrasebook

def escapeMarks (text : List Char) : List Char :=
  text.flatMap fun c => if Scan.hasMeaning c then ['/', c] else [c]

def escapeText (text : String) : String :=
  String.ofList (escapeMarks text.toList)

theorem escapeMarks_cons_of_hasMeaning
    {c : Char} (hasMeaning : Scan.hasMeaning c = true) (rest : List Char) :
    escapeMarks (c :: rest) = '/' :: c :: escapeMarks rest := by
  simp only [escapeMarks, List.flatMap_cons, hasMeaning, if_true,
    List.cons_append, List.nil_append]

theorem escapeMarks_cons_of_not_hasMeaning
    {c : Char} (hasNone : Scan.hasMeaning c = false) (rest : List Char) :
    escapeMarks (c :: rest) = c :: escapeMarks rest := by
  simp only [escapeMarks, List.flatMap_cons, hasNone, Bool.false_eq_true,
    if_false, List.cons_append, List.nil_append]

/-- The parts of an expression where text stands escape all characters that
have a meaning. -/
theorem Region.escapes_eq_hasMeaning
    {region : Region} (inside : region ≠ .outside) (c : Char) :
    region.escapes c = Scan.hasMeaning c := by
  cases region with
  | outside =>
      exact absurd rfl inside
  | selector | ifFalse | ifTrue =>
      rfl

namespace Scan

variable {limit : Nat} {render : Nat → Expression → Run String}

theorem write_push_ofList
    (scan : Scan) (c : Char) (here there : Nat) (text : List Char) :
    write { push { scan with position := here } c with position := there }
        (String.ofList text) =
      write { scan with position := there } (String.ofList (c :: text)) := by
  obtain ⟨position, slash, output, frames⟩ := scan
  cases frames <;> simp [write, push, push_append_ofList]

/-- Inside an expression the pass writes an escaped text as it was, and goes on
behind it. -/
theorem complete_escapeMarks
    {region : Region} (inside : region ≠ .outside) (text rest : List Char)
    {scan : Scan} (settled : scan.slash = false)
    (inRegion : regionOf scan.frames = some region) :
    scan.complete limit render (escapeMarks text ++ rest) =
      complete limit render
        (write
          { scan with
            position := scan.position + (escapeMarks text).length }
          (String.ofList text))
        rest := by
  induction text generalizing scan with
  | nil =>
      have nothing : write scan (String.ofList []) = scan := write_empty scan
      exact congrArg (complete limit render · rest) nothing.symm
  | cons c others inductionHypothesis =>
      by_cases hasMeaning : Scan.hasMeaning c = true
      · have escaped : scan.escapes c = true := by
          rw [escapes_eq inRegion, Region.escapes_eq_hasMeaning inside,
            hasMeaning]
        have places :
            scan.position + 2 + (escapeMarks others).length =
              scan.position + ('/' :: c :: escapeMarks others).length := by
          simp only [List.length_cons]
          omega
        rw [escapeMarks_cons_of_hasMeaning hasMeaning, List.cons_append,
          List.cons_append, complete_escape settled escaped,
          inductionHypothesis (by simp [settled]) (by simp [inRegion]),
          write_push_ofList, position_push, places]
      · have hasNone : Scan.hasMeaning c = false :=
          Bool.eq_false_iff.mpr hasMeaning
        have kept : region.escapes c = false := by
          rw [Region.escapes_eq_hasMeaning inside, hasNone]
        obtain ⟨notSlash, notBrace, notEnd⟩ :=
          Region.ordinary_of_not_escapes kept
        have places :
            scan.position + 1 + (escapeMarks others).length =
              scan.position + (c :: escapeMarks others).length := by
          simp only [List.length_cons]
          omega
        rw [escapeMarks_cons_of_not_hasMeaning hasNone, List.cons_append,
          complete_ordinary settled inRegion notSlash notBrace notEnd,
          inductionHypothesis (by simp [settled]) (by simp [inRegion]),
          write_push_ofList, position_push, places]

end Scan

end Phrasebook
