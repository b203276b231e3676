import ThreatIntel.Digest.Blocks

/-!
# SHA-1

A digest of twenty bytes, made in eighty rounds a block, twenty of each of four sorts.
-/

namespace ThreatIntel
namespace Digest
namespace Sha1

/-- The words that are mixed. -/
structure State where
  /-- The first word. -/
  a : UInt32
  /-- The second word. -/
  b : UInt32
  /-- The third word. -/
  c : UInt32
  /-- The fourth word. -/
  d : UInt32
  /-- The fifth word. -/
  e : UInt32

namespace State

/-- The words before the first block. -/
def initial : State :=
  ⟨0x67452301, 0xEFCDAB89, 0x98BADCFE, 0x10325476, 0xC3D2E1F0⟩

/-- The words in their order. -/
def toList (state : State) : List UInt32 :=
  [state.a, state.b, state.c, state.d, state.e]

/-- Two states added word by word. -/
def add (left right : State) : State :=
  ⟨left.a + right.a, left.b + right.b, left.c + right.c, left.d + right.d, left.e + right.e⟩

end State

/-- The next word of a schedule. -/
def extend (window : List UInt32) : UInt32 :=
  rotateLeft (window.getD 13 0 ^^^ window.getD 8 0 ^^^ window.getD 2 0 ^^^ window.headD 0) 1

/-- How a round mixes three words, and its constant, by the number of the round. -/
def mix (index : Nat) (b c d : UInt32) : UInt32 × UInt32 :=
  if index < 20 then ((b &&& c) ||| ((~~~b) &&& d), 0x5A827999)
  else if index < 40 then (b ^^^ c ^^^ d, 0x6ED9EBA1)
  else if index < 60 then ((b &&& c) ||| (b &&& d) ||| (c &&& d), 0x8F1BBCDC)
  else (b ^^^ c ^^^ d, 0xCA62C1D6)

/-- One round, with its number and a word of the schedule. -/
def round (state : State) (index : Nat) (word : UInt32) : State :=
  let ⟨a, b, c, d, e⟩ := state
  let (mixed, constant) := mix index b c d
  ⟨rotateLeft a 5 + mixed + e + constant + word, a, rotateLeft b 30, c, d⟩

/-- Mix a block into a state. -/
def compress (state : State) (block : List UInt32) : State :=
  let words := schedule extend 80 block
  let mixed := words.zipIdx.foldl (fun state (word, index) => round state index word) state
  state.add mixed

/-- The digest of a message. -/
def digest (message : List UInt8) : List UInt8 :=
  wordBytes ((blocks message).foldl compress State.initial).toList

end Sha1
end Digest
end ThreatIntel
