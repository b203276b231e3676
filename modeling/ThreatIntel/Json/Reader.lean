import ThreatIntel.Json.Document
import ThreatIntel.Json.NumberText
import ThreatIntel.Text.Hexadecimal

/-!
# Reading JSON text

A text is read into a document in one pass. Arrays and objects may lie within each other up to a
depth of 127; what lies deeper has the right form but no value.
-/

namespace ThreatIntel
namespace Document

/-- Blanks between the parts of a text. -/
def isSpace (c : Char) : Bool :=
  c == ' ' || c == '\n' || c == '\t' || c == '\r'

/-- Drop the blanks at the front. -/
def skipSpace (cs : List Char) : List Char :=
  cs.dropWhile isSpace

/-- The character that a letter after a backslash stands for. -/
def escaped? (c : Char) : Option Char :=
  if c = '"' ∨ c = '\\' ∨ c = '/' then some c
  else if c = 'b' then some (Char.ofNat 8)
  else if c = 'f' then some (Char.ofNat 12)
  else if c = 'n' then some '\n'
  else if c = 'r' then some '\r'
  else if c = 't' then some '\t'
  else none

/-- A piece of a text: a character, or a 16-bit unit given by its number. -/
inductive Piece where
  /-- A character that stands for itself or is escaped by a letter. -/
  | char (c : Char)
  /-- A unit given by four hexadecimal digits. -/
  | unit (n : Nat)
  deriving DecidableEq, Repr

/-- Read the pieces of a text up to its closing quote. -/
def readPieces : List Char → Option (List Piece × List Char)
  | [] => none
  | '"' :: rest => some ([], rest)
  | '\\' :: 'u' :: a :: b :: c :: d :: rest => do
      let a ← Text.hexValue? a
      let b ← Text.hexValue? b
      let c ← Text.hexValue? c
      let d ← Text.hexValue? d
      let (pieces, rest) ← readPieces rest
      pure (.unit (((a * 16 + b) * 16 + c) * 16 + d) :: pieces, rest)
  | '\\' :: c :: rest => do
      let c ← escaped? c
      let (pieces, rest) ← readPieces rest
      pure (.char c :: pieces, rest)
  | c :: rest =>
      if c.toNat < 0x20 then none
      else do
        let (pieces, rest) ← readPieces rest
        pure (.char c :: pieces, rest)

/-- The characters of a row of pieces; half of a surrogate pair has none. -/
def joinPieces : List Piece → Option (List Char)
  | [] => some []
  | .char c :: rest => (joinPieces rest).map (c :: ·)
  | .unit high :: .unit low :: rest =>
      if 0xD800 ≤ high ∧ high < 0xDC00 then
        if 0xDC00 ≤ low ∧ low < 0xE000 then
          (joinPieces rest).map
            (Char.ofNat (0x10000 + (high - 0xD800) * 0x400 + (low - 0xDC00)) :: ·)
        else none
      else if 0xDC00 ≤ high ∧ high < 0xE000 then none
      else (joinPieces (.unit low :: rest)).map (Char.ofNat high :: ·)
  | .unit n :: rest =>
      if 0xD800 ≤ n ∧ n < 0xE000 then none
      else (joinPieces rest).map (Char.ofNat n :: ·)

/-- Read a text behind its opening quote; the result is `none` inside if it has no value. -/
def readText (cs : List Char) : Option (Option String × List Char) := do
  let (pieces, rest) ← readPieces cs
  pure ((joinPieces pieces).map String.ofList, rest)

/-- Read a number. -/
def readNumber (cs : List Char) : Option (Document × List Char) := do
  let (parsed, rest) ← Json.NumberText.read cs
  pure (match parsed.value? with
    | some value => (number value, rest)
    | none => (unreadable, rest))

/-- Drop a word from the front of a text. -/
def dropWord (word cs : List Char) : Option (List Char) :=
  if word.isPrefixOf cs then some (cs.drop word.length) else none

/-- How deep arrays and objects may lie within each other. -/
def maxDepth : Nat := 127

mutual

/-- Read a value inside `depth` arrays and objects. -/
def readValue : Nat → Nat → List Char → Option (Document × List Char)
  | 0, _, _ => none
  | fuel + 1, depth, cs =>
      match skipSpace cs with
      | [] => none
      | c :: rest =>
          if c = '"' then do
            let (value, rest) ← readText rest
            pure (match value with
              | some value => (text value, rest)
              | none => (unreadable, rest))
          else if c = '[' then
            match skipSpace rest with
            | ']' :: rest => some (if depth < maxDepth then array [] else unreadable, rest)
            | rest => do
                let (items, rest) ← readItems fuel (depth + 1) rest
                pure (if depth < maxDepth then array items else unreadable, rest)
          else if c.toNat = 0x7B then
            match skipSpace rest with
            | [] => none
            | d :: rest' =>
                if d.toNat = 0x7D then
                  some (if depth < maxDepth then object [] else unreadable, rest')
                else do
                  let (members, rest) ← readMembers fuel (depth + 1) rest
                  pure (if depth < maxDepth then object members else unreadable, rest)
          else if c = 'n' then (dropWord "ull".toList rest).map fun rest => (null, rest)
          else if c = 't' then (dropWord "rue".toList rest).map fun rest => (boolean true, rest)
          else if c = 'f' then (dropWord "alse".toList rest).map fun rest => (boolean false, rest)
          else readNumber (c :: rest)

/-- Read the items of a list up to its closing bracket. -/
def readItems : Nat → Nat → List Char → Option (List Document × List Char)
  | 0, _, _ => none
  | fuel + 1, depth, cs => do
      let (item, rest) ← readValue fuel depth cs
      match skipSpace rest with
      | ',' :: rest => do
          let (items, rest) ← readItems fuel depth rest
          pure (item :: items, rest)
      | ']' :: rest => pure ([item], rest)
      | _ => none

/-- Read the members of an object up to its closing brace. -/
def readMembers : Nat → Nat → List Char → Option (List (Option String × Document) × List Char)
  | 0, _, _ => none
  | fuel + 1, depth, cs =>
      match skipSpace cs with
      | '"' :: rest => do
          let (key, rest) ← readText rest
          match skipSpace rest with
          | ':' :: rest => do
              let (value, rest) ← readValue fuel depth rest
              match skipSpace rest with
              | ',' :: rest => do
                  let (members, rest) ← readMembers fuel depth rest
                  pure ((key, value) :: members, rest)
              | c :: rest => if c.toNat = 0x7D then pure ([(key, value)], rest) else none
              | [] => none
          | _ => none
      | _ => none

end

/-- Read a whole text as one document. -/
def ofChars? (cs : List Char) : Option Document :=
  match readValue (2 * cs.length + 2) 0 cs with
  | some (document, rest) => if (skipSpace rest).isEmpty then some document else none
  | none => none

/-- Read a whole text as one document. -/
def ofText? (text : String) : Option Document :=
  ofChars? text.toList

end Document

namespace Json

/-- Read a whole text as one value. -/
def ofText? (text : String) : Option Json :=
  (Document.ofText? text).bind Document.toJson?

end Json
end ThreatIntel
