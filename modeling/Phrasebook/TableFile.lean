import Phrasebook.Table
import Phrasebook.Toml.Decode

/-!
# Files of string tables

A string table may be written as a TOML document: `[metadata]` describes it,
`[resolver]` sets its limits, and `[strings]` holds the templates under their
keys. All other tables and settings are left alone.
-/

namespace Phrasebook

/-- The limits that a group of settings asks for. Limits that are not mentioned
keep their defaults. -/
def Limits.ofEntries? (entries : Toml.Entries) : Option Limits := do
  let maxDepth ← Toml.setting? Toml.asSize? "max_depth" entries
  let sentinel ← Toml.setting? Toml.asText? "recursion_sentinel" entries
  let maxNesting ← Toml.setting? Toml.asSize? "max_nesting" entries
  let defaults : Limits := {}
  some
    { maxDepth := maxDepth.getD defaults.maxDepth
      recursionSentinel := sentinel.getD defaults.recursionSentinel
      maxNesting := maxNesting.getD defaults.maxNesting }

def Limits.ofToml? (value : Toml) : Option Limits := do
  let names := ["max_depth", "recursion_sentinel", "max_nesting"]
  let entries ← value.asGroup? names 0
  Limits.ofEntries? entries

def Limits.ofDocument? (document : String) : Option Limits := do
  let entries ← Toml.readDocument? document
  Limits.ofEntries? entries

def templatesOf? (value : Toml) : Option (Dictionary String) := do
  let entries ← value.asTable?
  let pairs ← entries.mapM fun (key, value) =>
    value.asText?.map fun text => (key, text)
  some (.ofPairs pairs)

def metadataOf? (value : Toml) : Option (Option String × Option String) := do
  let entries ← value.asGroup? ["language", "description"] 2
  let language ← Toml.setting? Toml.asText? "language" entries
  let description ← Toml.setting? Toml.asText? "description" entries
  some (language, description)

def Table.ofEntries? (entries : Toml.Entries) : Option Table := do
  let metadata ← Toml.setting? metadataOf? "metadata" entries
  let limits ← Toml.setting? Limits.ofToml? "resolver" entries
  let templates ← Toml.setting? templatesOf? "strings" entries
  let (language, description) := metadata.getD (none, none)
  some
    { language := language
      description := description
      templates := templates.getD {}
      limits := limits.getD {} }

def Table.ofDocument? (document : String) : Option Table := do
  let entries ← Toml.readDocument? document
  Table.ofEntries? entries

end Phrasebook
