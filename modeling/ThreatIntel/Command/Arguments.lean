import ThreatIntel.Text.Cut

/-!
# Words of a command line

A command takes arguments: some by their place, some behind a name, some that are a name alone. The
words of a command line are read from left to right. A value is stored when the next argument
begins, so that a word that belongs to no argument is noticed before the value in front of it.
-/

namespace ThreatIntel
namespace Command

/-- Why words are no command line. -/
inductive UsageFault where
  /-- A word belongs to no argument. -/
  | unknown (word : String)
  /-- A word is not the name of a command. -/
  | unknownCommand (word : String)
  /-- The name of a command is missing. -/
  | noCommand (program : String)
  /-- An argument has no value. -/
  | noValue (argument : String)
  /-- An argument cannot have a value. -/
  | invalid (value argument : String) (reason : Option String)
  /-- An argument that is a name alone has a value. -/
  | unneeded (value argument : String)
  /-- An argument is given again. -/
  | repeated (argument : String)
  /-- Two arguments exclude each other. -/
  | conflict (argument other : String)
  /-- Arguments are missing. -/
  | missing (arguments : List String)
  deriving DecidableEq, Repr

namespace UsageFault

/-- A fault in words. -/
def message : UsageFault → String
  | unknown word => s!"unexpected argument '{word}' found"
  | unknownCommand word => s!"unrecognized subcommand '{word}'"
  | noCommand program => s!"'{program}' requires a subcommand but one was not provided"
  | noValue argument => s!"a value is required for '{argument}' but none was supplied"
  | invalid value argument none => s!"invalid value '{value}' for '{argument}'"
  | invalid value argument (some reason) => s!"invalid value '{value}' for '{argument}': {reason}"
  | unneeded value argument =>
      s!"unexpected value '{value}' for '{argument}' found; no more were expected"
  | repeated argument => s!"the argument '{argument}' cannot be used multiple times"
  | conflict argument other => s!"the argument '{argument}' cannot be used with '{other}'"
  | missing arguments =>
      arguments.foldl (fun text argument => text ++ "\n  " ++ argument)
        "the following required arguments were not provided:"

end UsageFault

/-- Why the reading of words stops without a command. -/
inductive Stop where
  /-- The version is asked for. -/
  | version
  /-- An explanation is asked for. -/
  | help
  /-- There are no words, where a command with this purpose would need some. -/
  | nothing (purpose : String)
  /-- The words are no command line. -/
  | fault (fault : UsageFault)
  deriving DecidableEq, Repr

/-- Why a value is refused. -/
inductive Rejection where
  /-- It is empty. -/
  | empty
  /-- It is none of the values there are. -/
  | unlisted
  /-- For a reason. -/
  | because (reason : String)
  deriving DecidableEq, Repr

/-- How an argument is given. -/
inductive Manner where
  /-- By its place. -/
  | place
  /-- By a name in front of a value; a letter may stand for the name. -/
  | named (name : String) (letter : Option Char)
  /-- By a name alone. -/
  | flag (name : String)
  /-- By a name or a letter alone, upon which the reading stops. -/
  | stop (name : String) (letter : Char) (stop : Stop)
  deriving DecidableEq, Repr

/-- An argument, and what its values do to what has been read so far. -/
structure Argument (σ : Type) where
  /-- How it is given. -/
  manner : Manner
  /-- How it is shown. -/
  shown : String
  /-- Whether it has to be given. -/
  required : Bool := false
  /-- Whether it may be given again. -/
  repeatable : Bool := false
  /-- Store a value. -/
  store : String → σ → Except Rejection σ

namespace Argument

/-- An argument that has to stand in its place. -/
def place (label : String) (store : String → σ → Except Rejection σ) : Argument σ :=
  { manner := .place, shown := "<" ++ label ++ ">", required := true, store := store }

/-- An argument behind a name. -/
def named (name label : String) (store : String → σ → Except Rejection σ) : Argument σ :=
  { manner := .named name none, shown := "--" ++ name ++ " <" ++ label ++ ">", store := store }

/-- An argument that is a name alone. -/
def flag (name : String) (set : σ → σ) : Argument σ :=
  { manner := .flag name, shown := "--" ++ name, store := fun _ values => .ok (set values) }

/-- A name or a letter upon which the reading stops. -/
def stop (name : String) (letter : Char) (stop : Stop) : Argument σ :=
  { manner := .stop name letter stop, shown := "--" ++ name, store := fun _ values => .ok values }

/-- Whether the argument goes by a name. -/
def hasName (argument : Argument σ) (name : String) : Bool :=
  match argument.manner with
  | .place => false
  | .named own _ | .flag own | .stop own _ _ => own == name

/-- Whether the argument goes by a letter. -/
def hasLetter (argument : Argument σ) (letter : Char) : Bool :=
  match argument.manner with
  | .place | .flag _ | .named _ none => false
  | .named _ (some own) | .stop _ own _ => own == letter

end Argument

/-- How a word begins. -/
inductive Shape where
  /-- Two dashes: only values follow. -/
  | escape
  /-- Two dashes and a name, perhaps with a value behind an equals sign. -/
  | dashes (name : List Char) (value : Option (List Char))
  /-- A dash and letters. -/
  | letters (first : Char) (rest : List Char)
  /-- No dash, or a dash alone. -/
  | plain
  deriving DecidableEq, Repr

/-- How a word begins. -/
def Shape.ofWord : List Char → Shape
  | ['-', '-'] => .escape
  | '-' :: '-' :: rest =>
      let (name, value) := Text.cutAt '=' rest
      .dashes name value
  | '-' :: c :: rest => .letters c rest
  | _ => .plain

/-- The arguments of a command, and what comes of them. -/
structure Grammar (σ α : Type) where
  /-- The arguments; those given by their place come in the order of their places. -/
  arguments : List (Argument σ)
  /-- Pairs of arguments, as they are shown, that exclude each other. -/
  conflicts : List (String × String) := []
  /-- What is known before any word is read. -/
  start : σ
  /-- What comes of the arguments, if none is missing. -/
  finish : σ → Option α

/-- How far the words of a command have been read. -/
structure Reading (σ : Type) where
  /-- What has been stored. -/
  values : σ
  /-- The arguments that have been given, as they are shown. -/
  given : List String := []
  /-- The argument that is to be stored next, with its value once there is one. -/
  pending : Option (Argument σ × Option String) := none
  /-- How many values stand in their places. -/
  places : Nat := 0
  /-- Whether only values follow. -/
  escaped : Bool := false

namespace Reading

/-- Whether the next word is the value of an argument. -/
def isWaiting (reading : Reading σ) : Bool :=
  match reading.pending with
  | some (_, none) => true
  | _ => false

/-- Store a value. -/
def put (reading : Reading σ) (argument : Argument σ) (value : String) :
    Except Stop (Reading σ) :=
  if reading.given.contains argument.shown && !argument.repeatable then
    .error (.fault (.repeated argument.shown))
  else
    match argument.store value reading.values with
    | .ok values =>
        .ok { reading with values := values, given := reading.given ++ [argument.shown] }
    | .error .empty => .error (.fault (.noValue argument.shown))
    | .error .unlisted => .error (.fault (.invalid value argument.shown none))
    | .error (.because reason) =>
        .error (.fault (.invalid value argument.shown (some reason)))

/-- Store the value that is to be stored next. -/
def settle (reading : Reading σ) : Except Stop (Reading σ) :=
  match reading.pending with
  | none => .ok reading
  | some (argument, none) => .error (.fault (.noValue argument.shown))
  | some (argument, some value) => { reading with pending := none }.put argument value

/-- Begin an argument that goes by a name or a letter, with the value that comes with it. -/
def begin (reading : Reading σ) (argument : Argument σ) (value : Option String) :
    Except Stop (Reading σ) :=
  match argument.manner, value with
  | .named .., some value => do
      (← reading.settle).put argument value
  | .named .., none => do
      let reading ← reading.settle
      pure { reading with pending := some (argument, none) }
  | .stop _ _ stop, none => do
      let _ ← reading.settle
      throw stop
  | _, some value => .error (.fault (.unneeded value argument.shown))
  | _, none => do
      (← reading.settle).put argument ""

end Reading

namespace Grammar

/-- Read a letter with what stands behind it in the same word: the value, perhaps behind an equals
sign. -/
def letter (grammar : Grammar σ α) (reading : Reading σ) (first : Char) (rest : List Char) :
    Except Stop (Reading σ) :=
  match grammar.arguments.find? (·.hasLetter first) with
  | none => .error (.fault (.unknown (String.ofList ['-', first])))
  | some argument =>
      match argument.manner, rest with
      | .stop .., _ | _, [] => reading.begin argument none
      | _, '=' :: value => reading.begin argument (some (String.ofList value))
      | _, value => reading.begin argument (some (String.ofList value))

/-- Read a value in its place, where one of some commands has to follow or none. -/
def value (grammar : Grammar σ α) (commands : List String) (reading : Reading σ)
    (word : String) : Except Stop (Reading σ) :=
  match (grammar.arguments.filter (·.manner = .place))[reading.places]? with
  | some argument => do
      let reading ← reading.settle
      pure { reading with pending := some (argument, some word), places := reading.places + 1 }
  | none =>
      if commands.isEmpty ∨ commands.contains word then .error (.fault (.unknown word))
      else .error (.fault (.unknownCommand word))

/-- Read a word, where one of some commands has to follow or none. -/
def word (grammar : Grammar σ α) (commands : List String) (reading : Reading σ)
    (word : String) : Except Stop (Reading σ) :=
  if reading.escaped then grammar.value commands reading word
  else
    match Shape.ofWord word.toList with
    | .escape => .ok { reading with escaped := true }
    | .dashes name value =>
        match grammar.arguments.find? (·.hasName (String.ofList name)) with
        | some argument => reading.begin argument (value.map String.ofList)
        | none => .error (.fault (.unknown ("--" ++ String.ofList name)))
    | .letters first rest => grammar.letter reading first rest
    | .plain =>
        match reading.pending with
        | some (argument, none) => .ok { reading with pending := some (argument, some word) }
        | _ => grammar.value commands reading word

/-- Read words up to the name of a command, which must be among the names. -/
def readUntil (grammar : Grammar σ α) (commands : List String) :
    Reading σ → List String → Except Stop (Reading σ × Option (String × List String))
  | reading, [] => .ok (reading, none)
  | reading, word :: words =>
      if commands.contains word && !reading.escaped && !reading.isWaiting then
        .ok (reading, some (word, words))
      else do
        readUntil grammar commands (← grammar.word commands reading word) words

/-- Check that no two arguments exclude each other. -/
def checkConflicts (grammar : Grammar σ α) (given : List String) : Except Stop Unit :=
  let excludes := fun (one other : String) =>
    grammar.conflicts.contains (one, other) || grammar.conflicts.contains (other, one)
  match given.findSome? fun one => (given.find? (excludes one)).map (one, ·) with
  | some (one, other) => .error (.fault (.conflict one other))
  | none => .ok ()

/-- What comes of all words of a command. -/
def read (grammar : Grammar σ α) (words : List String) : Except Stop α := do
  let (reading, _) ← grammar.readUntil [] { values := grammar.start } words
  let reading ← reading.settle
  grammar.checkConflicts reading.given
  match grammar.finish reading.values with
  | some result => pure result
  | none =>
      let required := grammar.arguments.filter (·.required)
      throw (.fault (.missing
        ((required.map (·.shown)).filter fun shown => !reading.given.contains shown)))

end Grammar
end Command
end ThreatIntel
