import ThreatIntel.Text.Cut
import ThreatIntel.Url.Percent

/-!
# Queries made of named values

A query holds names with their values. A blank is written as a plus sign, and all but the plainest
characters are encoded, so that `readPairs` gives back what `writePairs` was given.
-/

namespace ThreatIntel
namespace Url

/-- Characters that stand for themselves in a named value. -/
def isPlain (c : Char) : Bool :=
  c.isAlphanum || c == '*' || c == '-' || c == '.' || c == '_'

/-- A character of a name or a value. -/
def writeChar (c : Char) : List Char :=
  if c = ' ' then ['+'] else if isPlain c then [c] else encodeChar c

/-- A name or a value. -/
def writeValue (text : String) : List Char :=
  text.toList.flatMap writeChar

/-- A name with its value. -/
def writePair (pair : String × String) : List Char :=
  writeValue pair.1 ++ '=' :: writeValue pair.2

/-- Named values in a row. -/
def writePairs (pairs : List (String × String)) : List Char :=
  ['&'].intercalate (pairs.map writePair)

/-- Read a name or a value. -/
def readValue? (cs : List Char) : Option String :=
  textOf? (decodeBytes (cs.map fun c => if c = '+' then ' ' else c))

/-- Read a name with its value; without an equals sign the value is empty. -/
def readPair? (cs : List Char) : Option (String × String) := do
  let (name, value) := Text.cutAt '=' cs
  pure (← readValue? name, ← readValue? (value.getD []))

/-- The named values of a query; nothing between two separators is no pair. -/
def readPairs? (query : List Char) : Option (List (String × String)) :=
  ((query.splitOn '&').filter (!·.isEmpty)).mapM readPair?

@[simp] theorem writePairs_nil : writePairs [] = [] := rfl

end Url
end ThreatIntel
