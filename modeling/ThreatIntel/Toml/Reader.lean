import ThreatIntel.Text.Mark
import ThreatIntel.Toml.Scalar
import ThreatIntel.Toml.Table

/-!
# Reading settings files

A settings file holds, line by line, keys with values and headers of tables. A key is a row of names
with dots between them; the names lead through tables. Keys that are too long and values that are
too deep are refused.
-/

namespace ThreatIntel
namespace Toml

/-- Whether a character may stand in a name without quotes. -/
def isNameChar (c : Char) : Bool :=
  c.isAlphanum || c == '_' || c == '-'

/-- Read a name. -/
def readName : Reader String := fun cs =>
  let name := cs.takeWhile isNameChar
  if name.isEmpty then (readLineText cs).map fun (text, rest) => (String.ofList text, rest)
  else some (String.ofList name, cs.drop name.length)

/-- How many names a key may have, and how many lists and tables may stand inside each other. -/
def deepest : Nat := 80

/-- Read a key of at most so many names: the names on the way, and the last one. -/
def readNames : (most : Nat) → Reader (List String × String)
  | 0, _ => none
  | most + 1, cs => do
      let (name, rest) ← readName (skipBlanks cs)
      match skipBlanks rest with
      | '.' :: rest =>
          let ((path, last), rest) ← readNames most rest
          pure ((name :: path, last), rest)
      | rest => pure (([], name), rest)

/-- Read a key: the names on the way, and the last one. -/
def readKey : Reader (List String × String) :=
  readNames deepest

/-- Drop a comment up to the end of its line. -/
def skipComment? : List Char → Option (List Char)
  | '#' :: rest =>
      let comment := rest.takeWhile fun c => c != '\n' && c != '\r'
      if comment.any isControl then none else some (rest.drop comment.length)
  | cs => some cs

/-- Drop blanks, comments and line ends, in at most `fuel` lines. -/
def skipLines? : (fuel : Nat) → List Char → Option (List Char)
  | 0, _ => none
  | fuel + 1, cs => do
      let rest ← skipComment? (skipBlanks cs)
      match lineEnd? rest with
      | some rest => skipLines? fuel rest
      | none => pure rest

/-- Drop all blanks, comments and line ends at the front. -/
def skipGap? (cs : List Char) : Option (List Char) :=
  skipLines? (cs.length + 1) cs

/-- Drop what may stand behind a value up to the end of its line. -/
def endOfLine? (cs : List Char) : Option (List Char) := do
  let rest ← skipComment? (skipBlanks cs)
  if rest.isEmpty then some [] else lineEnd? rest

mutual

/-- Read a value, in at most `fuel` steps; `depth` lists and tables may stand inside each other. -/
def readValue : (fuel depth : Nat) → Reader Json
  | 0, _, _ => none
  | fuel + 1, depth, cs =>
      match cs with
      | '"' :: _ | '\'' :: _ =>
          (readText cs).map fun (text, rest) => (.text (String.ofList text), rest)
      | '[' :: rest =>
          match depth with
          | 0 => none
          | depth + 1 => (readItems fuel depth rest).map fun (items, rest) => (.array items, rest)
      | c :: rest =>
          if c = Char.ofNat 0x7B then
            match depth with
            | 0 => none
            | depth + 1 =>
                (readPairs fuel depth (.mk .header []) rest).map fun (table, rest) =>
                  (table.toJson, rest)
          else readScalar cs
      | [] => none

/-- Read the items of a list behind its opening bracket or a comma. -/
def readItems : (fuel depth : Nat) → Reader (List Json)
  | 0, _, _ => none
  | fuel + 1, depth, cs => do
      match ← skipGap? cs with
      | ']' :: rest => pure ([], rest)
      | cs =>
          let (item, rest) ← readValue fuel depth cs
          match ← skipGap? rest with
          | ']' :: rest => pure ([item], rest)
          | ',' :: rest =>
              let (items, rest) ← readItems fuel depth rest
              pure (item :: items, rest)
          | _ => none

/-- Read the members of a table between braces, behind its opening brace or a comma. They may stand
on several lines. -/
def readPairs : (fuel depth : Nat) → (table : Table) → Reader Table
  | 0, _, _, _ => none
  | fuel + 1, depth, table, cs => do
      match ← skipGap? cs with
      | [] => none
      | c :: rest =>
          if c = Char.ofNat 0x7D then pure (table, rest)
          else
            let ((path, key), rest) ← readKey (c :: rest)
            match ← skipGap? rest with
            | '=' :: rest =>
                let (value, rest) ← readValue fuel depth (← skipGap? rest)
                let table ← table.defineDotted? path key value
                match ← skipGap? rest with
                | ',' :: rest => readPairs fuel depth table rest
                | c :: rest => if c = Char.ofNat 0x7D then pure (table, rest) else none
                | [] => none
            | _ => none

end

/-- A settings file while it is read: its tables, and the path to the open one. -/
structure State where
  /-- All tables. -/
  root : Table
  /-- The names that lead to the open table. -/
  path : List String

/-- Read a header behind its first bracket. -/
def readHeader (state : State) : Reader State
  | '[' :: cs => do
      let ((path, key), rest) ← readKey cs
      match rest with
      | ']' :: ']' :: rest =>
          let root ← state.root.alter false (Table.appendTable? key) path
          pure (⟨root, path ++ [key]⟩, rest)
      | _ => none
  | cs => do
      let ((path, key), rest) ← readKey cs
      match rest with
      | ']' :: rest =>
          let root ← state.root.alter false (Table.openTable? key) path
          pure (⟨root, path ++ [key]⟩, rest)
      | _ => none

/-- Read a key with its value. -/
def readPair (state : State) : Reader State := fun cs => do
  let ((path, key), rest) ← readKey cs
  match skipBlanks rest with
  | '=' :: rest =>
      let (value, rest) ← readValue (rest.length + 1) deepest (skipBlanks rest)
      let root ← state.root.alter false (Table.defineDotted? path key value) state.path
      pure ({ state with root := root }, rest)
  | _ => none

/-- Read all lines, in at most `fuel` steps. -/
def readAll : (fuel : Nat) → State → List Char → Option State
  | 0, _, _ => none
  | fuel + 1, state, cs => do
      match ← skipGap? cs with
      | [] => pure state
      | '[' :: rest =>
          let (state, rest) ← readHeader state rest
          readAll fuel state (← endOfLine? rest)
      | rest =>
          let (state, rest) ← readPair state rest
          readAll fuel state (← endOfLine? rest)

/-- The content of a settings file as an object; a byte order mark at its start is passed over. -/
def ofText? (text : String) : Option Json := do
  let cs := Text.unmarked text.toList
  let state ← readAll (cs.length + 1) ⟨.mk .header [], []⟩ cs
  pure state.root.toJson

end Toml
end ThreatIntel
