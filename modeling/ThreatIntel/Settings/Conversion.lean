import ThreatIntel.Binary64.Text
import ThreatIntel.Settings.Basic
import ThreatIntel.Text.Lowercase

/-!
# Converted values

Values of settings often come from places that know only texts or only numbers. Each is taken for
the type that its setting needs: a number for a text, a word like `yes` for a truth value, and so
on.
-/

namespace ThreatIntel
namespace Settings

/-- A text in lower case. -/
def lowercase (text : String) : String :=
  String.ofList (Text.lower text.toList)

/-- A word that stands for a truth value. -/
def wordTruth? (text : String) : Option Bool :=
  let word := lowercase text
  if word = "true" ∨ word = "on" ∨ word = "yes" then some true
  else if word = "false" ∨ word = "off" ∨ word = "no" then some false
  else none

/-- A number as settings hold it: a whole number beyond the signed words of 64 bits is kept in
binary. -/
def heldNumber : Number → Number
  | .whole value =>
      if Text.fitsInt64 value then .whole value
      else .real (Binary64.ofDecimal (value < 0) value.natAbs 0)
  | .real value => .real value

/-- The text of a number. -/
def numberText : Number → List Char
  | .whole value => Text.intDigits value
  | .real value => value.plainChars

/-- Texts, of which numbers and truth values have one too. -/
def looseText : Codec String where
  write := .text
  read?
    | .text value => some value
    | .boolean value => some (if value then "true" else "false")
    | .number value => some (String.ofList (numberText (heldNumber value)))
    | _ => none

/-- Truth values; every number but zero is true. -/
def looseBoolean : Codec Bool where
  write := .boolean
  read?
    | .boolean value => some value
    | .number (.whole value) => some (value != 0)
    | .number (.real value) => some (!value.isZero)
    | .text value =>
        if value = "1" then some true
        else if value = "0" then some false
        else wordTruth? value
    | _ => none

/-- The unsigned word of 64 bits nearest to a number; a half goes up, and what is no number stands
for zero. -/
def nearestWord (x : Binary64) : Nat :=
  if x.isNaN || x.negative then 0
  else
    let doubled := Binary64.shiftUp (2 * x.mantissa) x.exponent
    let unit := Binary64.shiftUp 1 (-x.exponent)
    min ((doubled + unit) / (2 * unit)) (UInt64.size - 1)

/-- The unsigned word of 64 bits that a number stands for; only whole numbers are refused for their
sign. -/
def numberWord? : Number → Option UInt64
  | .whole value => if 0 ≤ value then some (UInt64.ofNat value.toNat) else none
  | .real value => some (UInt64.ofNat (nearestWord value))

/-- Unsigned words of 64 bits. -/
def looseWord64 : Codec UInt64 where
  write word := .whole word.toNat
  read?
    | .number value => numberWord? (heldNumber value)
    | .boolean value => some (if value then 1 else 0)
    | .text value =>
        match wordTruth? value with
        | some truth => some (if truth then 1 else 0)
        | none => (Text.readBelow? UInt64.size value.toList).map UInt64.ofNat
    | _ => none

/-- Unsigned words of 32 bits: those of 64 bits that are small enough. -/
def looseWord32 : Codec UInt32 where
  write word := .whole word.toNat
  read? document := do
    let word ← looseWord64.read? document
    if word.toNat < UInt32.size then some word.toUInt32 else none

/-- Modes of authentication: a name, alone or as the only key of a table. -/
def looseMode : Codec Credentials.Mode where
  write := Credentials.Mode.codec.write
  read?
    | .object [(some name, _)] => Credentials.Mode.codec.read? (.text name)
    | .text name => Credentials.Mode.codec.read? (.text name)
    | _ => none

/-- Structures; of a list, the items behind the last member are passed over. -/
def looseStructure (form : Form ρ ρ) : Codec ρ where
  write := form.codec.write
  read?
    | .array items => form.codec.read? (.array (items.take form.names.length))
    | document => form.codec.read? document

/-- Single values taken for the type that is needed. -/
def conversions : SettingCodecs where
  text := looseText
  boolean := looseBoolean
  word32 := looseWord32
  word64 := looseWord64
  mode := looseMode
  structured := looseStructure

end Settings
end ThreatIntel
