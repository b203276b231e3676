/-!
# Base 64

Bytes as text: three bytes are four characters of an alphabet of sixty-four, and a shorter group at
the end is filled up with equals signs. Reading accepts exactly what writing produces: a group of
the right length, with no bit set where no byte is.
-/

namespace ThreatIntel
namespace Text
namespace Base64

/-- The characters of the alphabet, by their values. -/
def alphabet : List Char :=
  "ABCDEFGHIJKLMNOPQRSTUVWXYZabcdefghijklmnopqrstuvwxyz0123456789+/".toList

/-- The character for the six lowest bits of a number. -/
def digit (n : Nat) : Char :=
  alphabet.getD (n % 64) 'A'

/-- The value of a character of the alphabet. -/
def value? (c : Char) : Option Nat :=
  if 'A' ≤ c ∧ c ≤ 'Z' then some (c.toNat - 65)
  else if 'a' ≤ c ∧ c ≤ 'z' then some (c.toNat - 71)
  else if '0' ≤ c ∧ c ≤ '9' then some (c.toNat + 4)
  else if c = '+' then some 62
  else if c = '/' then some 63
  else none

/-- Write bytes. -/
def encode : List UInt8 → List Char
  | [] => []
  | [a] =>
      let bits := a.toNat * 16
      [digit (bits / 64), digit bits, '=', '=']
  | [a, b] =>
      let bits := (a.toNat * 256 + b.toNat) * 4
      [digit (bits / 4096), digit (bits / 64), digit bits, '=']
  | a :: b :: c :: rest =>
      let bits := (a.toNat * 256 + b.toNat) * 256 + c.toNat
      digit (bits / 262144) :: digit (bits / 4096) :: digit (bits / 64) :: digit bits :: encode rest

/-- Read bytes. -/
def decode? : List Char → Option (List UInt8)
  | [] => some []
  | [w, x, '=', '='] => do
      let bits := (← value? w) * 64 + (← value? x)
      if bits % 16 = 0 then some [UInt8.ofNat (bits / 16)] else none
  | [w, x, y, '='] => do
      let bits := ((← value? w) * 64 + (← value? x)) * 64 + (← value? y)
      if bits % 4 = 0 then some [UInt8.ofNat (bits / 1024), UInt8.ofNat (bits / 4)] else none
  | w :: x :: y :: z :: rest => do
      let bits := (((← value? w) * 64 + (← value? x)) * 64 + (← value? y)) * 64 + (← value? z)
      let bytes ← decode? rest
      some (UInt8.ofNat (bits / 65536) :: UInt8.ofNat (bits / 256) :: UInt8.ofNat bits :: bytes)
  | _ => none

end Base64
end Text
end ThreatIntel
