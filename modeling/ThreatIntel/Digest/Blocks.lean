/-!
# Blocks

How a message is cut into blocks of sixteen words before it is digested: a one bit and zeros are put
behind it, and its length in bits stands at the end of the last block.
-/

namespace ThreatIntel
namespace Digest

/-- The bytes of a text. -/
def bytes (text : String) : List UInt8 :=
  text.toUTF8.toList

/-- A list in runs of a given length; the last may be shorter. -/
def runs (length : Nat) (items : List α) : List (List α) :=
  match items with
  | [] => []
  | item :: rest => (item :: rest.take (length - 1)) :: runs length (rest.drop (length - 1))
termination_by items.length
decreasing_by simp only [List.length_drop, List.length_cons]; omega

/-- A number as bytes, the highest first. -/
def bigEndian : (count : Nat) → Nat → List UInt8
  | 0, _ => []
  | count + 1, n => bigEndian count (n / 256) ++ [UInt8.ofNat (n % 256)]

/-- A word made of bytes, the highest first. -/
def word (bytes : List UInt8) : UInt32 :=
  bytes.foldl (fun word byte => (word <<< 8) ||| byte.toUInt32) 0

/-- The bytes of words. -/
def wordBytes (words : List UInt32) : List UInt8 :=
  words.flatMap fun word => bigEndian 4 word.toNat

/-- A message filled up to whole blocks of sixty-four bytes. -/
def padded (message : List UInt8) : List UInt8 :=
  message ++ [0x80] ++ List.replicate ((119 - message.length % 64) % 64) 0 ++
    bigEndian 8 (message.length * 8)

/-- The blocks of a message. -/
def blocks (message : List UInt8) : List (List UInt32) :=
  runs 16 ((runs 4 (padded message)).map word)

/-- A word with its bits turned to the left. -/
def rotateLeft (word : UInt32) (count : UInt32) : UInt32 :=
  (word <<< count) ||| (word >>> (32 - count))

/-- A word with its bits turned to the right. -/
def rotateRight (word : UInt32) (count : UInt32) : UInt32 :=
  (word >>> count) ||| (word <<< (32 - count))

/-- Extend a schedule whose next word depends on the sixteen before it: the first `count` words. -/
def schedule (next : List UInt32 → UInt32) : (count : Nat) → List UInt32 → List UInt32
  | 0, _ => []
  | count + 1, window =>
      window.headD 0 :: schedule next count (window.drop 1 ++ [next window])

end Digest
end ThreatIntel
