import ThreatIntel.Digest.Blocks

/-!
# SHA-256

A digest of thirty-two bytes, made in sixty-four rounds a block.
-/

namespace ThreatIntel
namespace Digest
namespace Sha256

/-- The constants of the rounds: the cube roots of the first primes, behind the point. -/
def constants : List UInt32 :=
  [0x428A2F98, 0x71374491, 0xB5C0FBCF, 0xE9B5DBA5, 0x3956C25B, 0x59F111F1, 0x923F82A4,
    0xAB1C5ED5, 0xD807AA98, 0x12835B01, 0x243185BE, 0x550C7DC3, 0x72BE5D74, 0x80DEB1FE,
    0x9BDC06A7, 0xC19BF174, 0xE49B69C1, 0xEFBE4786, 0x0FC19DC6, 0x240CA1CC, 0x2DE92C6F,
    0x4A7484AA, 0x5CB0A9DC, 0x76F988DA, 0x983E5152, 0xA831C66D, 0xB00327C8, 0xBF597FC7,
    0xC6E00BF3, 0xD5A79147, 0x06CA6351, 0x14292967, 0x27B70A85, 0x2E1B2138, 0x4D2C6DFC,
    0x53380D13, 0x650A7354, 0x766A0ABB, 0x81C2C92E, 0x92722C85, 0xA2BFE8A1, 0xA81A664B,
    0xC24B8B70, 0xC76C51A3, 0xD192E819, 0xD6990624, 0xF40E3585, 0x106AA070, 0x19A4C116,
    0x1E376C08, 0x2748774C, 0x34B0BCB5, 0x391C0CB3, 0x4ED8AA4A, 0x5B9CCA4F, 0x682E6FF3,
    0x748F82EE, 0x78A5636F, 0x84C87814, 0x8CC70208, 0x90BEFFFA, 0xA4506CEB, 0xBEF9A3F7,
    0xC67178F2]

/-- The words that are mixed. -/
structure State where
  /-- The first word. -/
  a : UInt32
  /-- The second word. -/
  b : UInt32
  /-- The third word. -/
  c : UInt32
  /-- The fourth word. -/
  d : UInt32
  /-- The fifth word. -/
  e : UInt32
  /-- The sixth word. -/
  f : UInt32
  /-- The seventh word. -/
  g : UInt32
  /-- The eighth word. -/
  h : UInt32

namespace State

/-- The words before the first block: the square roots of the first primes, behind the point. -/
def initial : State :=
  ⟨0x6A09E667, 0xBB67AE85, 0x3C6EF372, 0xA54FF53A,
    0x510E527F, 0x9B05688C, 0x1F83D9AB, 0x5BE0CD19⟩

/-- The words in their order. -/
def toList (state : State) : List UInt32 :=
  [state.a, state.b, state.c, state.d, state.e, state.f, state.g, state.h]

/-- Two states added word by word. -/
def add (left right : State) : State :=
  ⟨left.a + right.a, left.b + right.b, left.c + right.c, left.d + right.d, left.e + right.e,
    left.f + right.f, left.g + right.g, left.h + right.h⟩

end State

/-- The next word of a schedule. -/
def extend (window : List UInt32) : UInt32 :=
  let early := window.getD 1 0
  let late := window.getD 14 0
  window.headD 0 + (rotateRight early 7 ^^^ rotateRight early 18 ^^^ (early >>> 3)) +
    window.getD 9 0 + (rotateRight late 17 ^^^ rotateRight late 19 ^^^ (late >>> 10))

/-- One round, with a constant and a word of the schedule. -/
def round (state : State) (constant word : UInt32) : State :=
  let ⟨a, b, c, d, e, f, g, h⟩ := state
  let chosen := (e &&& f) ^^^ ((~~~e) &&& g)
  let first := h + (rotateRight e 6 ^^^ rotateRight e 11 ^^^ rotateRight e 25) + chosen + constant +
    word
  let majority := (a &&& b) ^^^ (a &&& c) ^^^ (b &&& c)
  let second := (rotateRight a 2 ^^^ rotateRight a 13 ^^^ rotateRight a 22) + majority
  ⟨first + second, a, b, c, d + first, e, f, g⟩

/-- Mix a block into a state. -/
def compress (state : State) (block : List UInt32) : State :=
  let words := schedule extend 64 block
  let mixed := (constants.zip words).foldl (fun state (constant, word) => round state constant word)
    state
  state.add mixed

/-- The digest of a message. -/
def digest (message : List UInt8) : List UInt8 :=
  wordBytes ((blocks message).foldl compress State.initial).toList

end Sha256
end Digest
end ThreatIntel
