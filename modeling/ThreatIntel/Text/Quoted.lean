/-!
# Quoted text

A text in double quotes, with a backslash before each quote and each backslash inside. Main
statement: what the writer produces is read back whole, whatever text follows it.
-/

namespace ThreatIntel
namespace Text

/-- A character as it stands inside quotes. -/
def escapeChar (c : Char) : List Char :=
  if c = '"' ∨ c = '\\' then ['\\', c] else [c]

/-- A text as it stands inside quotes. -/
def escape (cs : List Char) : List Char :=
  cs.flatMap escapeChar

/-- A text in quotes. -/
def quote (cs : List Char) : List Char :=
  '"' :: (escape cs ++ ['"'])

/-- Read the inside of a quoted text up to its closing quote; the rest follows the quote. -/
def unescape : List Char → Option (List Char × List Char)
  | [] => none
  | '"' :: rest => some ([], rest)
  | '\\' :: c :: rest =>
      if c = '"' ∨ c = '\\' then (unescape rest).map fun (cs, tail) => (c :: cs, tail) else none
  | '\\' :: [] => none
  | c :: rest => (unescape rest).map fun (cs, tail) => (c :: cs, tail)

/-- Read a quoted text and return what follows it. -/
def unquote : List Char → Option (List Char × List Char)
  | '"' :: rest => unescape rest
  | _ => none

@[simp] theorem escape_nil : escape [] = [] := rfl

@[simp] theorem escape_cons (c : Char) (cs : List Char) :
    escape (c :: cs) = escapeChar c ++ escape cs := rfl

/-- The inside of a quoted text is read back up to the closing quote. -/
theorem unescape_escape (cs rest : List Char) :
    unescape (escape cs ++ '"' :: rest) = some (cs, rest) := by
  induction cs with
  | nil => rfl
  | cons c cs inductionHypothesis =>
      by_cases special : c = '"' ∨ c = '\\'
      · simp [escapeChar, special, unescape, inductionHypothesis]
      · have notQuote : c ≠ '"' := fun equal => special (.inl equal)
        have notSlash : c ≠ '\\' := fun equal => special (.inr equal)
        simp [escapeChar, unescape, inductionHypothesis, notQuote, notSlash]

/-- A quoted text is read back whole, whatever follows it. -/
@[simp] theorem unquote_quote (cs rest : List Char) :
    unquote (quote cs ++ rest) = some (cs, rest) := by
  simp [quote, unquote, unescape_escape]

end Text
end ThreatIntel
