import ThreatIntel.Command.Arguments
import ThreatIntel.Error
import ThreatIntel.Text.Decimal

/-!
# Values on a command line

How the values of arguments are read, and why one is refused.
-/

namespace ThreatIntel
namespace Command

/-- Why a text is no whole number between bounds. -/
inductive NumberFault where
  /-- It is empty. -/
  | empty
  /-- Something in it is not a digit. -/
  | digit
  /-- It is too great. -/
  | tooLarge
  /-- It is too small. -/
  | tooSmall
  deriving DecidableEq, Repr

namespace NumberFault

/-- A fault in words. -/
def message : NumberFault → String
  | empty => "cannot parse integer from empty string"
  | digit => "invalid digit found in string"
  | tooLarge => "number too large to fit in target type"
  | tooSmall => "number too small to fit in target type"

end NumberFault

/-- Read digits up to a bound, which is passed as soon as the digits so far pass it. -/
def readDigits (bound : Nat) (beyond : NumberFault) (cs : List Char) : Except NumberFault Nat :=
  let digits := cs.takeWhile Char.isDigit
  if bound < Nat.ofDigitChars 10 digits 0 then .error beyond
  else if cs.isEmpty ∨ digits.length ≠ cs.length then .error .digit
  else .ok (Nat.ofDigitChars 10 digits 0)

/-- Read a whole number from zero up to a bound. -/
def readNatural (bound : Nat) : List Char → Except NumberFault Nat
  | [] => .error .empty
  | '+' :: digits => readDigits bound .tooLarge digits
  | digits => readDigits bound .tooLarge digits

/-- Read a whole number that fits a signed word of 64 bits. -/
def readWord : List Char → Except NumberFault Int
  | '-' :: digits => (readDigits (UInt64.size / 2) .tooSmall digits).map fun n => -(n : Int)
  | digits => (readNatural (UInt64.size / 2 - 1) digits).map fun n => (n : Int)

/-- A value of an argument as a reader takes it; a reader's fault is the reason of a rejection. -/
def because (message : ε → String) : Except ε α → Except Rejection α
  | .ok value => .ok value
  | .error fault => .error (.because (message fault))

/-- A value that may not be empty. -/
def notEmpty (text : String) : Except Rejection String :=
  if text.isEmpty then .error .empty else .ok text

/-- A signed word of 64 bits. -/
def word64 (text : String) : Except Rejection Int64 :=
  (because NumberFault.message (readWord text.toList)).map Int64.ofInt

/-- A word of 32 bits. -/
def word32 (text : String) : Except Rejection UInt32 := do
  let n ← because NumberFault.message (readWord text.toList)
  if 0 ≤ n ∧ n < UInt32.size then pure (UInt32.ofNat n.toNat)
  else throw (.because (String.ofList (Text.intDigits n) ++ " is not in 0..=4294967295"))

/-- A count below 2 to the power of 64. -/
def count (text : String) : Except Rejection Nat :=
  because NumberFault.message (readNatural (UInt64.size - 1) text.toList)

/-- A value for which there is a list of names. -/
def listed (values : List α) (name : α → String) (text : String) : Except Rejection α :=
  match values.find? fun value => name value == text with
  | some value => .ok value
  | none => .error (if text.isEmpty then .empty else .unlisted)

end Command
end ThreatIntel
