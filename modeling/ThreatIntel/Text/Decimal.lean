/-!
# Decimal integers

Writing natural numbers and integers in decimal and reading them back. A written integer has no
leading zero and no plus sign; the reader also takes leading zeros and one sign of either kind.
-/

namespace ThreatIntel
namespace Text

/-- The decimal digits of a natural number. -/
def natDigits (n : Nat) : List Char :=
  Nat.toDigits 10 n

/-- The decimal form of an integer. -/
def intDigits : Int → List Char
  | .ofNat n => natDigits n
  | .negSucc n => '-' :: natDigits (n + 1)

/-- Read a non-empty row of decimal digits. -/
def readNat? (cs : List Char) : Option Nat :=
  if !cs.isEmpty && cs.all Char.isDigit then some (Nat.ofDigitChars 10 cs 0) else none

/-- Read decimal digits after at most one sign. -/
def readInt? : List Char → Option Int
  | '-' :: digits => (readNat? digits).map fun n => -(n : Int)
  | '+' :: digits => (readNat? digits).map fun n => (n : Int)
  | digits => (readNat? digits).map fun n => (n : Int)

/-- Whether an integer fits a signed word of 64 bits. -/
def fitsInt64 (n : Int) : Bool :=
  Int64.minValue.toInt ≤ n && n ≤ Int64.maxValue.toInt

/-- Read a signed word of 64 bits. -/
def readInt64? (cs : List Char) : Option Int64 :=
  (readInt? cs).bind fun n => if fitsInt64 n then some (Int64.ofInt n) else none

/-- Read an unsigned number below a bound; a minus sign is refused. -/
def readBelow? (bound : Nat) (cs : List Char) : Option Nat :=
  let digits := match cs with
    | '+' :: rest => rest
    | rest => rest
  (readNat? digits).bind fun n => if n < bound then some n else none

/-- A number padded with zeros at the front to at least the given width. -/
def padDigits (width n : Nat) : List Char :=
  let digits := natDigits n
  List.replicate (width - digits.length) '0' ++ digits

theorem natDigits_ne_nil (n : Nat) : natDigits n ≠ [] := by
  have positive : 0 < (natDigits n).length := Nat.length_toDigits_pos
  intro empty
  simp [empty] at positive

theorem isDigit_of_mem_natDigits {n : Nat} {c : Char} (member : c ∈ natDigits n) :
    c.isDigit = true :=
  Nat.isDigit_of_mem_toDigits (by decide) (by decide) member

/-- The digits of a number read back as the number. -/
@[simp] theorem readNat?_natDigits (n : Nat) : readNat? (natDigits n) = some n := by
  have digits : (natDigits n).all Char.isDigit = true :=
    List.all_eq_true.mpr fun _ member => isDigit_of_mem_natDigits member
  have value : Nat.ofDigitChars 10 (natDigits n) 0 = n :=
    Nat.ofDigitChars_toDigits (by decide) (by decide)
  simp [readNat?, natDigits_ne_nil, digits, value]

/-- A written integer reads back as itself. -/
@[simp] theorem readInt?_intDigits (n : Int) : readInt? (intDigits n) = some n := by
  cases n with
  | negSucc n =>
      simp [intDigits, readInt?, Int.negSucc_eq]
  | ofNat n =>
      unfold intDigits readInt?
      split
      · next digits equal =>
          have member : '-' ∈ natDigits n := by simp [equal]
          exact absurd (isDigit_of_mem_natDigits member) (by decide)
      · next digits equal =>
          have member : '+' ∈ natDigits n := by simp [equal]
          exact absurd (isDigit_of_mem_natDigits member) (by decide)
      · simp

end Text
end ThreatIntel
