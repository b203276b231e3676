import ThreatIntel.Text.Hexadecimal

/-!
# Percent encoding

Characters that may not stand in a part of an address are written as their bytes, each as two digits
behind a percent sign.
-/

namespace ThreatIntel
namespace Url

/-- A byte behind a percent sign. -/
def encodeByte (byte : UInt8) : List Char :=
  '%' :: (Text.hexByte byte).map Char.toUpper

/-- A character as bytes behind percent signs. -/
def encodeChar (c : Char) : List Char :=
  (String.utf8EncodeChar c).flatMap encodeByte

/-- Encode the characters that a set holds. -/
def encode (among : Char → Bool) (cs : List Char) : List Char :=
  cs.flatMap fun c => if among c then encodeChar c else [c]

/-- Controls, and all that is not ASCII. -/
def inControls (c : Char) : Bool :=
  c.toNat < 0x20 || 0x7E < c.toNat

/-- Characters that are encoded in a fragment. -/
def inFragment (c : Char) : Bool :=
  inControls c || " \"<>`".toList.contains c

/-- Characters that are encoded in a query; an apostrophe is one of them where the scheme is
special. -/
def inQuery (special : Bool) (c : Char) : Bool :=
  inControls c || " \"#<>".toList.contains c || (special && c == '\'')

/-- Characters that are encoded in a path. -/
def inPath (c : Char) : Bool :=
  inFragment c || "#?^\x7b\x7d".toList.contains c

/-- Characters that are encoded in the name of a user. -/
def inUser (c : Char) : Bool :=
  inPath c || "/:;=@[\\]|".toList.contains c

/-- The bytes of a text in which percent signs stand for bytes. -/
def decodeBytes : List Char → List UInt8
  | '%' :: a :: b :: rest =>
      match Text.hexValue? a, Text.hexValue? b with
      | some high, some low => UInt8.ofNat (high * 16 + low) :: decodeBytes rest
      | _, _ => 0x25 :: decodeBytes (a :: b :: rest)
  | c :: rest => String.utf8EncodeChar c ++ decodeBytes rest
  | [] => []

/-- The text that bytes encode, if they encode one. -/
def textOf? (bytes : List UInt8) : Option String :=
  String.fromUTF8? ⟨bytes.toArray⟩

@[simp] theorem encode_nil (among : Char → Bool) : encode among [] = [] := rfl

/-- A text without characters of the set stays as it is. -/
theorem encode_of_forall
    {among : Char → Bool}
    {cs : List Char}
    (outside : ∀ c ∈ cs, among c = false) :
    encode among cs = cs := by
  induction cs with
  | nil => rfl
  | cons c rest ih =>
      have tail := ih fun d member => outside d (List.mem_cons_of_mem c member)
      simp only [encode] at tail
      simp [encode, outside c List.mem_cons_self, tail]

end Url
end ThreatIntel
