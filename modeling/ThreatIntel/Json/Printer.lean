import ThreatIntel.Binary64.Shortest
import ThreatIntel.Json.Basic
import ThreatIntel.Text.Decimal
import ThreatIntel.Text.Hexadecimal

/-!
# JSON text

Writing a value as text, either without any space or with one member or item a line, indented by two
spaces a level.
-/

namespace ThreatIntel
namespace Json

/-- A character as it stands inside a text. -/
def escapeChar (c : Char) : List Char :=
  if c = '"' then ['\\', '"']
  else if c = '\\' then ['\\', '\\']
  else if c.toNat = 8 then ['\\', 'b']
  else if c.toNat = 12 then ['\\', 'f']
  else if c = '\n' then ['\\', 'n']
  else if c = '\r' then ['\\', 'r']
  else if c = '\t' then ['\\', 't']
  else if c.toNat < 0x20 then
    ['\\', 'u', '0', '0', Text.hexDigit (c.toNat / 16), Text.hexDigit (c.toNat % 16)]
  else [c]

/-- A text between quotes. -/
def quoted (value : String) : List Char :=
  '"' :: (value.toList.flatMap escapeChar ++ ['"'])

/-- Digits with a point behind the first `whole` of them. -/
def pointed (digits : List Char) (whole : Nat) : List Char :=
  digits.take whole ++ '.' :: digits.drop whole

/-- The text of a magnitude. The first digit's power of ten lies between -5 and 15 where the number
is written without an exponent; a number without a fraction keeps `.0`, and an exponent has its
sign. -/
def realDigits (decimal : Binary64.Decimal) : List Char :=
  let digits := Text.natDigits decimal.digits
  let leading := decimal.exponent + digits.length - 1
  if decimal.exponent ≥ 0 ∧ leading ≤ 15 then
    digits ++ List.replicate decimal.exponent.toNat '0' ++ ['.', '0']
  else if leading ≥ 0 ∧ leading ≤ 15 then pointed digits (leading.toNat + 1)
  else if leading ≥ -5 ∧ leading < 0 then
    '0' :: '.' :: (List.replicate (-leading - 1).toNat '0' ++ digits)
  else
    let mantissa := if digits.length = 1 then digits else pointed digits 1
    let sign := if leading < 0 then '-' else '+'
    mantissa ++ 'e' :: sign :: Text.natDigits leading.natAbs

/-- The text of a number that is not whole; a value without a decimal form is written as null. -/
def realChars (x : Binary64) : List Char :=
  if x.isFinite then
    (if x.negative then ['-'] else []) ++ realDigits x.shortest
  else "null".toList

/-- The text of a number. -/
def numberChars : Number → List Char
  | .whole value => Text.intDigits value
  | .real value => realChars value

/-- The text of a truth value. -/
def booleanChars : Bool → List Char
  | true => "true".toList
  | false => "false".toList

mutual

/-- The text of a value without any space. -/
def chars : Json → List Char
  | .null => "null".toList
  | .boolean value => booleanChars value
  | .number value => numberChars value
  | .text value => quoted value
  | .array items => '[' :: (List.intercalate [','] (itemsChars items) ++ [']'])
  | .object members =>
      Char.ofNat 0x7B :: (List.intercalate [','] (membersChars members) ++ [Char.ofNat 0x7D])

/-- The texts of the items of a list. -/
def itemsChars : List Json → List (List Char)
  | [] => []
  | item :: items => chars item :: itemsChars items

/-- The texts of the members of an object. -/
def membersChars : List (String × Json) → List (List Char)
  | [] => []
  | (key, value) :: members => (quoted key ++ ':' :: chars value) :: membersChars members

end

/-- A new line, indented to a level. -/
def newline (level : Nat) : List Char :=
  '\n' :: List.replicate (2 * level) ' '

/-- Parts on lines of their own between brackets; without parts nothing stands between them. -/
def block (opening closing : Char) (level : Nat) (parts : List (List Char)) : List Char :=
  if parts.isEmpty then [opening, closing]
  else
    opening :: (newline (level + 1) ++
      (List.intercalate (',' :: newline (level + 1)) parts ++ (newline level ++ [closing])))

mutual

/-- The text of a value over several lines; the value's first line stands at the level. -/
def prettyChars (level : Nat) : Json → List Char
  | .null => "null".toList
  | .boolean value => booleanChars value
  | .number value => numberChars value
  | .text value => quoted value
  | .array items => block '[' ']' level (prettyItems (level + 1) items)
  | .object members =>
      block (Char.ofNat 0x7B) (Char.ofNat 0x7D) level (prettyMembers (level + 1) members)

/-- The texts of the items of a list over several lines. -/
def prettyItems (level : Nat) : List Json → List (List Char)
  | [] => []
  | item :: items => prettyChars level item :: prettyItems level items

/-- The texts of the members of an object over several lines. -/
def prettyMembers (level : Nat) : List (String × Json) → List (List Char)
  | [] => []
  | (key, value) :: members =>
      (quoted key ++ ':' :: ' ' :: prettyChars level value) :: prettyMembers level members

end

/-- The text of a value without any space. -/
def render (json : Json) : String :=
  String.ofList json.chars

/-- The text of a value with one member or item a line. -/
def pretty (json : Json) : String :=
  String.ofList (json.prettyChars 0)

@[simp] theorem itemsChars_eq_map (items : List Json) : itemsChars items = items.map chars := by
  induction items with
  | nil => rfl
  | cons item items inductionHypothesis => simp [itemsChars, inductionHypothesis]

@[simp] theorem prettyItems_eq_map (level : Nat) (items : List Json) :
    prettyItems level items = items.map (prettyChars level) := by
  induction items with
  | nil => rfl
  | cons item items inductionHypothesis => simp [prettyItems, inductionHypothesis]

end Json
end ThreatIntel
