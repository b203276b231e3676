import ThreatIntel.Text.CaseTables

/-!
# Lower case

The full lower-case form of a text: one letter may become two characters, and a capital sigma at the
end of a word takes its final form.
-/

namespace ThreatIntel
namespace Text

/-- Whether a code point lies in one of the ranges. -/
def inRanges (ranges : List (Nat × Nat)) (n : Nat) : Bool :=
  ranges.any fun range => range.1 ≤ n && n ≤ range.2

/-- Whether a code point belongs to the run. -/
def CaseRun.contains (run : CaseRun) (n : Nat) : Bool :=
  run.first ≤ n && n ≤ run.last && (n - run.first) % run.stride == 0

/-- The lower-case form of one character, apart from its place in a word. -/
def lowerChar (c : Char) : List Char :=
  let n := c.toNat
  if n < 0x80 then
    [c.toLower]
  else if n == 0x130 then
    ['i', Char.ofNat 0x307]
  else
    match caseRuns.find? (·.contains n) with
    | some run => [Char.ofNat (Int.toNat (n + run.offset))]
    | none => [c]

/-- Whether the next character that is not passed over has a case. -/
def casedAhead (cs : List Char) : Bool :=
  match cs.dropWhile fun c => inRanges caseIgnorableRanges c.toNat with
  | [] => false
  | c :: _ => inRanges casedRanges c.toNat

/-- The lower-case form of a text that follows the reversed text `before`. -/
def lowerAfter (before : List Char) : List Char → List Char
  | [] => []
  | c :: rest =>
      let here :=
        if c.toNat == 0x3A3 then
          if casedAhead before && !casedAhead rest then [Char.ofNat 0x3C2]
          else [Char.ofNat 0x3C3]
        else lowerChar c
      here ++ lowerAfter (c :: before) rest

/-- The lower-case form of a text. -/
def lower (cs : List Char) : List Char :=
  lowerAfter [] cs

@[simp] theorem lowerAfter_nil (before : List Char) : lowerAfter before [] = [] := rfl

@[simp] theorem lower_nil : lower [] = [] := rfl

/-- An ASCII character has an ASCII lower-case form of its own. -/
theorem lowerChar_of_ascii {c : Char} (ascii : c.toNat < 0x80) :
    lowerChar c = [c.toLower] := by
  simp [lowerChar, ascii]

end Text
end ThreatIntel
