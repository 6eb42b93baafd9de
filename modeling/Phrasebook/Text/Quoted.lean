import Phrasebook.Number.Positional
import Phrasebook.Text.Visible

/-!
# Quoted texts

The diagnostic form of a text: between quotation marks, with escapes for
quotation marks, backslashes and everything that is not visible on its own.
-/

namespace Phrasebook

/-- The diagnostic form of a character inside quotation marks. -/
def quoteChar (c : Char) : List Char :=
  if c = '"' ∨ c = '\\' then ['\\', c]
  else if c = '\t' then ['\\', 't']
  else if c = '\r' then ['\\', 'r']
  else if c = '\n' then ['\\', 'n']
  else if c.toNat = 0 then ['\\', '0']
  else if isVisible c then [c]
  else ['\\', 'u', '\x7b'] ++ numeral 16 0 c.toNat ++ ['\x7d']

def quoted (text : String) : String :=
  String.ofList ('"' :: text.toList.flatMap quoteChar ++ ['"'])

end Phrasebook
