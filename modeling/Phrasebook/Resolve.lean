import Phrasebook.Scan

/-!
# Resolving templates

A template resolves to text in an environment: the string table, limits, and
the context of the call. Entries of the table are templates themselves and are
expanded where their keys stand. Every expansion goes one level deeper than the
expression that asks for it, and a nested expression lies one level deeper than
the one around it. Past the deepest level the sentinel stands for an entry, so
that tables may refer to themselves.
-/

namespace Phrasebook

structure Environment where
  table : Table
  limits : Limits
  context : Context

namespace Environment

/-- Resolves a text that stands at a level. The levels left to go shrink with
every expansion. -/
def resolveAt (env : Environment) (depth : Nat) (template : String) :
    Run String :=
  scanTemplate env.limits.maxNesting
    (fun nesting expression =>
      expression.render env.table env.context fun key entry =>
        if withinLimit : depth + nesting ≤ env.limits.maxDepth then do
          Run.emit (.expanding key (depth + nesting))
          (env.resolveAt (depth + nesting + 1) entry).mapError
            (.inEntry ⟨key, entry⟩)
        else do
          Run.emit (.limitReached key (depth + nesting) env.limits.maxDepth)
          pure env.limits.recursionSentinel)
    template
termination_by env.limits.maxDepth + 1 - depth
decreasing_by omega

def resolve (env : Environment) (template : String) : Run String :=
  env.resolveAt 0 template

def hasEntry (env : Environment) (key : String) : Bool :=
  env.table.templates.contains key

def resolveEntry? (env : Environment) (key : String) : Run (Option String) :=
  match env.table.templates.get? key with
  | none => pure none
  | some template => do
      let text ← (env.resolve template).mapError (.inEntry ⟨key, template⟩)
      pure (some text)

/-- Resolves the entry of a key; a fallback stands for an absent one. -/
def resolveEntryD (env : Environment) (key fallback : String) :
    Run String := do
  let found ← env.resolveEntry? key
  pure (found.getD fallback)

/-- Resolves the entry of a key; the key stands for an absent one. -/
def resolveEntry (env : Environment) (key : String) : Run String :=
  env.resolveEntryD key key

end Environment

end Phrasebook
