/-!
# Byte order marks

A text may begin with the character U+FEFF, which tells nothing but how the text was stored.
-/

namespace ThreatIntel
namespace Text

/-- A text without the byte order mark at its front, if one stands there. -/
def unmarked (cs : List Char) : List Char :=
  if cs.head? = some (Char.ofNat 0xFEFF) then cs.drop 1 else cs

@[simp] theorem unmarked_nil : unmarked [] = [] := rfl

end Text
end ThreatIntel
