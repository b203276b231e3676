import ThreatIntel.Json.Reader

/-!
# Texts in settings files

The four ways in which a text is written in a settings file: between double quotes with escapes,
between single quotes as it stands, and both over several lines between tripled quotes.
-/

namespace ThreatIntel
namespace Toml

/-- A reader takes a value off the front of a text, or refuses it. -/
abbrev Reader (α : Type) := List Char → Option (α × List Char)

/-- Whether a character may not stand in a settings file outside line ends. -/
def isControl (c : Char) : Bool :=
  (c.toNat < 0x20 && c != '\t') || c.toNat == 0x7F

/-- Whether a character is a blank within a line. -/
def isBlank (c : Char) : Bool :=
  c == ' ' || c == '\t'

/-- Drop the blanks at the front. -/
def skipBlanks (cs : List Char) : List Char :=
  cs.dropWhile isBlank

/-- Drop one line end. -/
def lineEnd? : List Char → Option (List Char)
  | '\n' :: rest => some rest
  | '\r' :: '\n' :: rest => some rest
  | _ => none

/-- The character with a given number, if there is one. -/
def charOf? (n : Nat) : Option Char :=
  if n < 0xD800 ∨ (0xE000 ≤ n ∧ n < 0x110000) then some (Char.ofNat n) else none

/-- Read a character given by so many hexadecimal digits. -/
def readHexChar (count : Nat) : Reader Char := fun cs => do
  let digits ← (cs.take count).mapM Text.hexValue?
  if digits.length = count then
    let c ← charOf? (digits.foldl (fun n digit => n * 16 + digit) 0)
    pure (c, cs.drop count)
  else none

/-- Read the character that an escape stands for, behind its backslash. -/
def readEscape : Reader Char
  | 'e' :: rest => some (Char.ofNat 0x1B, rest)
  | 'x' :: rest => readHexChar 2 rest
  | 'u' :: rest => readHexChar 4 rest
  | 'U' :: rest => readHexChar 8 rest
  | '/' :: _ => none
  | c :: rest => (Document.escaped? c).map (·, rest)
  | [] => none

/-- Read a text up to a double quote, in at most `fuel` steps. -/
def readBasic : (fuel : Nat) → Reader (List Char)
  | 0, _ => none
  | _ + 1, [] => none
  | _ + 1, '"' :: rest => some ([], rest)
  | fuel + 1, '\\' :: rest => do
      let (c, rest) ← readEscape rest
      let (text, rest) ← readBasic fuel rest
      pure (c :: text, rest)
  | fuel + 1, c :: rest =>
      if isControl c then none
      else do
        let (text, rest) ← readBasic fuel rest
        pure (c :: text, rest)

/-- Read a text up to a single quote. -/
def readLiteral : Reader (List Char)
  | [] => none
  | '\'' :: rest => some ([], rest)
  | c :: rest =>
      if isControl c then none
      else do
        let (text, rest) ← readLiteral rest
        pure (c :: text, rest)

/-- Drop blanks and line ends behind a backslash at the end of a line; a carriage return that ends
no line stays. -/
def skipFold : List Char → List Char
  | ' ' :: rest => skipFold rest
  | '\t' :: rest => skipFold rest
  | '\n' :: rest => skipFold rest
  | '\r' :: '\n' :: rest => skipFold rest
  | cs => cs

/-- The end of a text over several lines: three quotes, before which up to two more belong to it. -/
def closing? (quote : Char) (cs : List Char) : Option (List Char × List Char) :=
  let quotes := cs.takeWhile (· == quote)
  if quotes.length < 3 then none
  else if 5 < quotes.length then none
  else some (List.replicate (quotes.length - 3) quote, cs.drop quotes.length)

/-- Whether a backslash ends its line, so that the line end is folded away. -/
def foldsLine (cs : List Char) : Bool :=
  (lineEnd? (skipBlanks cs)).isSome

/-- Read a text up to three quotes, in at most `fuel` steps; `escapes` says whether a backslash does
more than stand for itself. Line ends are kept as they are written. -/
def readLines (quote : Char) (escapes : Bool) : (fuel : Nat) → Reader (List Char)
  | 0, _ => none
  | _ + 1, [] => none
  | fuel + 1, c :: rest =>
      if c = quote then
        if (rest.take 2).length = 2 ∧ (rest.take 2).all (· == quote) then closing? quote (c :: rest)
        else (readLines quote escapes fuel rest).map fun (text, rest) => (c :: text, rest)
      else if escapes ∧ c = '\\' then
        if foldsLine rest then readLines quote escapes fuel (skipFold rest)
        else do
          let (c, rest) ← readEscape rest
          let (text, rest) ← readLines quote escapes fuel rest
          pure (c :: text, rest)
      else if isControl c ∧ (lineEnd? (c :: rest)).isNone then none
      else (readLines quote escapes fuel rest).map fun (text, rest) => (c :: text, rest)

/-- Drop the line end behind three opening quotes, if one stands there. -/
def skipFirstLine (cs : List Char) : List Char :=
  (lineEnd? cs).getD cs

/-- Read a text on one line in either way. -/
def readLineText : Reader (List Char)
  | '"' :: rest => readBasic rest.length rest
  | '\'' :: rest => readLiteral rest
  | _ => none

/-- Read a text in any of the four ways. -/
def readText : Reader (List Char)
  | '"' :: '"' :: '"' :: rest => readLines '"' true (rest.length + 1) (skipFirstLine rest)
  | '\'' :: '\'' :: '\'' :: rest => readLines '\'' false (rest.length + 1) (skipFirstLine rest)
  | cs => readLineText cs

end Toml
end ThreatIntel
