import ThreatIntel.Text.Decimal
import ThreatIntel.Text.Lowercase
import ThreatIntel.Url.Form

/-!
# Hosts

The part of an address that names a machine: a domain, or a number in one of two forms. A domain
whose last label is a number has to be such a number as a whole.

A domain is put into lower case and is otherwise kept letter by letter. The rules for international
names are left out: letters beyond ASCII are neither mapped nor refused nor written in ASCII, and a
label that begins with `xn--` is taken as it stands, without a look at what it encodes.
-/

namespace ThreatIntel
namespace Url

/-- Why a text is no address. -/
inductive Fault where
  /-- A host is missing. -/
  | emptyHost
  /-- A domain holds what no domain may hold. -/
  | invalidDomain
  /-- A host without rules of its own holds what no host may hold. -/
  | invalidHost
  /-- What stands for the number of a service is no number, or too great. -/
  | invalidService
  /-- A domain ends like a number in dots and is none. -/
  | invalidIpv4
  /-- What stands in brackets is no number in colons. -/
  | invalidIpv6
  /-- There is no scheme at the front. -/
  | noScheme
  deriving DecidableEq, Repr

namespace Fault

/-- A fault in words. -/
def message : Fault → String
  | emptyHost => "empty host"
  | invalidDomain => "invalid international domain name"
  | invalidHost => "invalid domain character"
  | invalidService => "invalid port number"
  | invalidIpv4 => "invalid IPv4 address"
  | invalidIpv6 => "invalid IPv6 address"
  | noScheme => "relative URL without a base"

end Fault

/-- A machine. -/
inductive Host where
  /-- By name. -/
  | domain (name : List Char)
  /-- By a number of 32 bits. -/
  | ipv4 (address : Nat)
  /-- By eight numbers of 16 bits. -/
  | ipv6 (pieces : List Nat)
  deriving DecidableEq, Repr

/-- Characters that may not stand in any host. -/
def isForbiddenInHost (c : Char) : Bool :=
  "\x00\t\n\x0d #/:<>?@[\\]^|".toList.contains c

/-- Characters that may not stand in a domain. -/
def isForbiddenInDomain (c : Char) : Bool :=
  isForbiddenInHost c || c.toNat < 0x20 || c == '%' || c.toNat == 0x7F

/-- Read digits to a base; no digits are zero. -/
def readBase? (base : Nat) (digits : List Char) : Option Nat := do
  let values ← digits.mapM Text.hexValue?
  if values.all (· < base) then some (values.foldl (fun n value => n * base + value) 0) else none

/-- Read a number: to base ten, or behind `0x` to base sixteen, or behind `0` to base eight. -/
def readPart? : List Char → Option Nat
  | [] => none
  | '0' :: 'x' :: digits | '0' :: 'X' :: digits => readBase? 16 digits
  | '0' :: c :: digits => readBase? 8 (c :: digits)
  | digits => readBase? 10 digits

/-- The labels of a domain, less an empty one behind the last dot. -/
def labels (domain : List Char) : List (List Char) :=
  let parts := domain.splitOn '.'
  if parts.getLast? = some [] then parts.dropLast else parts

/-- Whether the last label of a domain is a number. -/
def endsInNumber (domain : List Char) : Bool :=
  match (labels domain).getLast? with
  | none => false
  | some last => (!last.isEmpty && last.all Char.isDigit) || (readPart? last).isSome

/-- The number that parts between dots stand for: the last part fills what the others leave free. -/
def joinParts? (parts : List Nat) : Option Nat :=
  let front := parts.dropLast
  let last := parts.getLastD 0
  if parts.length ≤ 4 ∧ front.all (· ≤ 255) ∧ last < Nat.pow 256 (4 - front.length) then
    some (front.foldl (fun n part => n * 256 + part) 0 * Nat.pow 256 (4 - front.length) + last)
  else none

/-- Read a number in dots. -/
def readIpv4? (domain : List Char) : Option Nat := do
  joinParts? (← (labels domain).mapM readPart?)

/-- Read four decimal numbers between dots as two numbers of 16 bits; none has a zero in front. -/
def readDotted? (cs : List Char) : Option (List Nat) := do
  let numbers ← (cs.splitOn '.').mapM fun part =>
    if part.length ≠ 1 ∧ part.head? = some '0' then none else Text.readNat? part
  match numbers with
  | [a, b, c, d] =>
      if numbers.all (· ≤ 255) then some [a * 256 + b, c * 256 + d] else none
  | _ => none

/-- Read numbers of up to four digits to base sixteen; at the very end there may be a number in
dots. -/
def readPieces? : List (List Char) → Option (List Nat)
  | [] => some []
  | [last] =>
      if last.contains '.' then readDotted? last
      else if last.isEmpty ∨ 4 < last.length then none
      else (readBase? 16 last).map ([·])
  | piece :: rest => do
      if piece.isEmpty ∨ 4 < piece.length then none
      else pure ((← readBase? 16 piece) :: (← readPieces? rest))

/-- Read numbers between colons; an empty text holds none. -/
def readRow? (cs : List Char) : Option (List Nat) :=
  if cs.isEmpty then some [] else readPieces? (cs.splitOn ':')

/-- Cut a text at the first pair of colons. -/
def cutAtGap : List Char → Option (List Char × List Char)
  | ':' :: ':' :: rest => some ([], rest)
  | c :: rest => (cutAtGap rest).map fun (front, back) => (c :: front, back)
  | [] => none

/-- Read a number in colons: eight pieces, or fewer around a gap that stands for zeros. -/
def readIpv6? (cs : List Char) : Option (List Nat) :=
  match cutAtGap cs with
  | none => do
      let pieces ← readRow? cs
      if pieces.length = 8 then some pieces else none
  | some (front, back) => do
      let front ← if front.contains '.' then none else readRow? front
      let back ← readRow? back
      let missing := 8 - (front.length + back.length)
      if missing = 0 then none else some (front ++ List.replicate missing 0 ++ back)

/-- Read what stands in brackets, with both of them. -/
def readBracketed (cs : List Char) : Except Fault Host :=
  if cs.getLast? = some ']' then
    match readIpv6? (cs.drop 1).dropLast with
    | some pieces => .ok (.ipv6 pieces)
    | none => .error .invalidIpv6
  else .error .invalidIpv6

/-- Read the domain of an address with a special scheme; of the rules for international names only
the lower case is followed. -/
def readDomain (cs : List Char) : Except Fault Host :=
  match (textOf? (decodeBytes cs)).map fun text => Text.lower text.toList with
  | none => .error .invalidDomain
  | some domain =>
      if domain.any isForbiddenInDomain then .error .invalidDomain
      else if domain.isEmpty then .error .emptyHost
      else if endsInNumber domain then
        match readIpv4? domain with
        | some address => .ok (.ipv4 address)
        | none => .error .invalidIpv4
      else .ok (.domain domain)

/-- Read the host of an address; only with a special scheme are domains taken apart. -/
def readHost (special : Bool) (cs : List Char) : Except Fault Host :=
  if cs.head? = some '[' then readBracketed cs
  else if special then readDomain cs
  else if cs.any isForbiddenInHost then .error .invalidHost
  else .ok (.domain (encode inControls cs))

end Url
end ThreatIntel
