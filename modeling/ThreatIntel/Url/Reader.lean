import ThreatIntel.Url.Host

/-!
# Addresses

An address is read into its parts: scheme, user, host, service number, path, query and fragment. The
path comes out without dots for steps, and what may not stand in a part comes out encoded. A few
schemes are special: their addresses always have a host, and a backslash is a slash in them.

In the address of a file the name of a drive is told from a host, and is then a step of the path
like any other: a bar in it is not turned into a colon, and a step back leaves the drive.
-/

namespace ThreatIntel

/-- An address. -/
structure Url where
  /-- The scheme, in lower case. -/
  scheme : List Char
  /-- The user, with what follows the name. -/
  user : List Char
  /-- The machine, where the address names one. -/
  host : Option Url.Host
  /-- The number of the service on the machine, unless it is the usual one of the scheme. -/
  service : Option Nat
  /-- The path. -/
  path : List Char
  /-- The query behind the question mark. -/
  query : Option (List Char)
  /-- The fragment behind the number sign. -/
  fragment : Option (List Char)
  deriving DecidableEq, Repr

namespace Url

/-- The special schemes, with the usual numbers of their services. -/
def specialSchemes : List (String × Option Nat) :=
  [("http", some 80), ("https", some 443), ("ws", some 80), ("wss", some 443), ("ftp", some 21),
    ("file", none)]

/-- The usual service number of a special scheme; no scheme else is in the list. -/
def special? (scheme : List Char) : Option (Option Nat) :=
  specialSchemes.lookup (String.ofList scheme)

/-- A text without controls and blanks at its ends, and without tabs and line ends in between. -/
def cleaned (cs : List Char) : List Char :=
  let atEnd := fun (c : Char) => decide (c.toNat ≤ 0x20)
  let trimmed := ((cs.dropWhile atEnd).reverse.dropWhile atEnd).reverse
  trimmed.filter fun c => c ≠ '\t' ∧ c ≠ '\n' ∧ c ≠ '\x0d'

/-- Characters of a scheme behind its first letter. -/
def isSchemeChar (c : Char) : Bool :=
  c.isAlphanum || c == '+' || c == '-' || c == '.'

/-- Take a scheme off the front. -/
def readScheme? (cs : List Char) : Option (List Char × List Char) :=
  let name := cs.takeWhile isSchemeChar
  match name.head?, cs.drop name.length with
  | some first, ':' :: rest => if first.isAlpha then some (name.map Char.toLower, rest) else none
  | _, _ => none

/-- Whether a character ends a step of a path. -/
def isSlash (special : Bool) (c : Char) : Bool :=
  c == '/' || (special && c == '\\')

/-- Cut a text behind the last occurrence of a character; without one there is no first part. -/
def cutAtLast (separator : Char) (cs : List Char) : Option (List Char) × List Char :=
  match Text.cutAt separator cs.reverse with
  | (back, some front) => (some front.reverse, back.reverse)
  | (_, none) => (none, cs)

/-- The user part as it is kept: an empty password is left out. -/
def writeUser (cs : List Char) : List Char :=
  match Text.cutAt ':' cs with
  | (name, none) => encode inUser name
  | (name, some password) =>
      if password.isEmpty then encode inUser name
      else encode inUser name ++ ':' :: encode inUser password

/-- Cut a host from a service number at the first colon outside brackets. -/
def cutService (inBrackets : Bool) : List Char → List Char × Option (List Char)
  | [] => ([], none)
  | c :: rest =>
      if c = ':' ∧ inBrackets = false then ([], some rest)
      else
        let (host, service) := cutService (c = '[' ∨ (inBrackets ∧ c ≠ ']')) rest
        (c :: host, service)

/-- Read a service number; it is left out where it is empty or the usual one. -/
def readService (usual : Option Nat) (cs : List Char) : Except Fault (Option Nat) :=
  if cs.isEmpty then .ok none
  else match Text.readNat? cs with
    | some number =>
        if 65535 < number then .error .invalidService
        else .ok (if some number = usual then none else some number)
    | none => .error .invalidService

/-- User, host and service number. -/
structure Authority where
  /-- The user, with what follows the name. -/
  user : List Char := []
  /-- The machine, where one is named. -/
  host : Option Host := none
  /-- The service number, unless it is the usual one of the scheme. -/
  service : Option Nat := none

/-- Read user, host and service number of an address, whose scheme is special, perhaps with a usual
number, or not special. -/
def readAuthority (special : Option (Option Nat)) (cs : List Char) : Except Fault Authority := do
  let (user, machine) := cutAtLast '@' cs
  let (name, service) := cutService false machine
  if name.isEmpty then
    if special.isSome ∨ user.isSome ∨ service.isSome then throw .emptyHost
    else pure {}
  else
    let host ← readHost special.isSome name
    let service ← readService special.join (service.getD [])
    pure ⟨writeUser (user.getD []), some host, service⟩

/-- Whether a text is a letter with a colon or a bar, the name of a drive. -/
def isDrive : List Char → Bool
  | [letter, mark] => letter.isAlpha && (mark == ':' || mark == '|')
  | _ => false

/-- Read the host of an address of a file, which may be missing; the own machine counts as missing.
-/
def readFileHost (cs : List Char) : Except Fault Authority :=
  if cs.isEmpty then .ok {}
  else do
    let host ← readHost true cs
    pure { host := if host = .domain "localhost".toList then none else some host }

/-- A step that stays where it is. -/
def isSingleDot (step : List Char) : Bool :=
  [".", "%2e"].contains (String.ofList (step.map Char.toLower))

/-- A step back. -/
def isDoubleDot (step : List Char) : Bool :=
  ["..", ".%2e", "%2e.", "%2e%2e"].contains (String.ofList (step.map Char.toLower))

/-- The steps of a path after those taken, which are in reverse; a dot at the end leaves an empty
step. -/
def resolve (taken : List (List Char)) : List (List Char) → List (List Char)
  | [] => taken.reverse
  | step :: rest =>
      let atEnd := fun (steps : List (List Char)) => if rest.isEmpty then [] :: steps else steps
      if isDoubleDot step then resolve (atEnd taken.tail) rest
      else if isSingleDot step then resolve (atEnd taken) rest
      else resolve (encode inPath step :: taken) rest

/-- A path with steps, as it is kept. -/
def readPath (special : Bool) (cs : List Char) : List Char :=
  let slashed := cs.map fun c => if isSlash special c then '/' else c
  let steps := (if slashed.head? = some '/' then slashed.drop 1 else slashed).splitOn '/'
  if cs.isEmpty ∧ special = false then []
  else (resolve [] steps).flatMap fun step => '/' :: step

/-- Read what stands between the scheme and the query. -/
def readHierarchy (scheme cs : List Char) : Except Fault (Authority × List Char) :=
  let special := special? scheme
  let slash := isSlash special.isSome
  let marked := 2 ≤ (cs.takeWhile slash).length
  if scheme = "file".toList then do
    let inner := if marked then cs.drop 2 else cs
    let name := if marked then inner.takeWhile (!slash ·) else []
    if isDrive name then pure ({}, readPath true inner)
    else pure (← readFileHost name, readPath true (inner.drop name.length))
  else if special.isSome ∨ marked then do
    let inner := if special.isSome then cs.dropWhile slash else cs.drop 2
    let name := inner.takeWhile (!slash ·)
    pure (← readAuthority special name, readPath special.isSome (inner.drop name.length))
  else if cs.head? = some '/' then .ok ({}, readPath false cs)
  else .ok ({}, encode inControls cs)

/-- Read an address. -/
def ofText (text : String) : Except Fault Url := do
  let (front, fragment) := Text.cutAt '#' (cleaned text.toList)
  let (front, query) := Text.cutAt '?' front
  match readScheme? front with
  | none => .error .noScheme
  | some (scheme, rest) =>
      let (authority, path) ← readHierarchy scheme rest
      pure {
        scheme := scheme
        user := authority.user
        host := authority.host
        service := authority.service
        path := path
        query := query.map (encode (inQuery (special? scheme).isSome))
        fragment := fragment.map (encode inFragment) }

/-- An address with named values behind those that its query already holds. -/
def withPairs (url : Url) (pairs : List (String × String)) : Url :=
  if pairs.isEmpty then url
  else
    let before := match url.query with
      | none | some [] => []
      | some query => query ++ ['&']
    { url with query := some (before ++ writePairs pairs) }

/-- What is asked of the machine: the path with the query. -/
def target (url : Url) : List Char :=
  match url.query with
  | none => url.path
  | some query => url.path ++ '?' :: query

@[simp] theorem withPairs_nil (url : Url) : url.withPairs [] = url := rfl

@[simp] theorem path_withPairs (url : Url) (pairs : List (String × String)) :
    (url.withPairs pairs).path = url.path := by
  unfold withPairs
  split <;> rfl

@[simp] theorem host_withPairs (url : Url) (pairs : List (String × String)) :
    (url.withPairs pairs).host = url.host := by
  unfold withPairs
  split <;> rfl

end Url
end ThreatIntel
