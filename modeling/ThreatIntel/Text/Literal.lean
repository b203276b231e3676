import ThreatIntel.Text.Hexadecimal
import ThreatIntel.Text.Hidden

/-!
# Literals

A text as it is shown to those who look for a fault: between quotes, with everything that does not
show spelled out.
-/

namespace ThreatIntel
namespace Text

/-- A character of a literal. -/
def literalChar (c : Char) : List Char :=
  if c = '\x00' then ['\\', '0']
  else if c = '\t' then ['\\', 't']
  else if c = '\r' then ['\\', 'r']
  else if c = '\n' then ['\\', 'n']
  else if c = '"' ∨ c = '\\' then ['\\', c]
  else if isHidden c then "\\u\x7b".toList ++ hexDigits c.toNat ++ ['\x7d']
  else [c]

/-- A text as a literal. -/
def literal (text : String) : String :=
  String.ofList ('"' :: text.toList.flatMap literalChar ++ ['"'])

end Text
end ThreatIntel
