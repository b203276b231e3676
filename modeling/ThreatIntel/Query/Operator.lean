import ThreatIntel.Error
import ThreatIntel.Text.Blank
import ThreatIntel.Text.Lowercase

/-!
# Comparison operators

The fifteen operators of the query language: the token each is written as, the name it is known by,
and the spellings it is read from. A spelling is read without regard to case, spaces, hyphens and
underscores.
-/

namespace ThreatIntel
namespace Query

/-- A comparison between a field and a literal. -/
inductive Operator where
  /-- The field equals the literal. -/
  | equal
  /-- The field differs from the literal. -/
  | notEqual
  /-- The field is above the literal. -/
  | above
  /-- The field is below the literal. -/
  | below
  /-- The field is at least the literal. -/
  | atLeast
  /-- The field is at most the literal. -/
  | atMost
  /-- The field is one of the listed literals. -/
  | among
  /-- The field is none of the listed literals. -/
  | notAmong
  /-- The field matches a wildcard pattern. -/
  | like
  /-- The field contains the text. -/
  | contains
  /-- The field does not contain the text. -/
  | notContains
  /-- The field begins with the text. -/
  | startsWith
  /-- The field does not begin with the text. -/
  | notStartsWith
  /-- The field ends with the text. -/
  | endsWith
  /-- The field does not end with the text. -/
  | notEndsWith
  deriving DecidableEq, Repr

namespace Operator

/-- Every operator, in the order in which they are listed. -/
def all : List Operator :=
  [equal, notEqual, above, below, atLeast, atMost, among, notAmong, like, contains, notContains,
    startsWith, notStartsWith, endsWith, notEndsWith]

/-- How the operator is written between a keyword and a literal. -/
def token : Operator → String
  | equal => "="
  | notEqual => "!="
  | above => ">"
  | below => "<"
  | atLeast => ">="
  | atMost => "<="
  | among => "in"
  | notAmong => "not in"
  | like => "like"
  | contains => "CONTAINS"
  | notContains => "NOT CONTAINS"
  | startsWith => "STARTSWITH"
  | notStartsWith => "NOT STARTSWITH"
  | endsWith => "ENDSWITH"
  | notEndsWith => "NOT ENDSWITH"

/-- The name under which the operator is stored. -/
def name : Operator → String
  | equal => "eq"
  | notEqual => "neq"
  | above => "gt"
  | below => "lt"
  | atLeast => "geq"
  | atMost => "leq"
  | among => "in"
  | notAmong => "not_in"
  | like => "like"
  | contains => "contains"
  | notContains => "not_contains"
  | startsWith => "starts_with"
  | notStartsWith => "not_starts_with"
  | endsWith => "ends_with"
  | notEndsWith => "not_ends_with"

/-- Further spellings of some operators. -/
def aliases : Operator → List String
  | notEqual => ["ne"]
  | atLeast => ["ge", "gte"]
  | atMost => ["le", "lte"]
  | _ => []

/-- Whether the operator compares with a list of literals. -/
def takesList : Operator → Bool
  | among | notAmong => true
  | _ => false

/-- Whether the operator matches text. -/
def isPattern : Operator → Bool
  | like | contains | notContains | startsWith | notStartsWith | endsWith | notEndsWith => true
  | _ => false

/-- Whether the operator compares by order. -/
def isOrdering : Operator → Bool
  | above | below | atLeast | atMost => true
  | _ => false

/-- Whether a character only separates the words of a spelling. -/
def isSeparator (c : Char) : Bool :=
  c == '_' || c == '-' || c == ' '

/-- What remains of a spelling once case and separators are gone. -/
def squash (spelling : String) : List Char :=
  Text.lower ((Text.trim spelling.toList).filter fun c => !isSeparator c)

/-- The squashed spellings from which an operator is read. -/
def spellings (operator : Operator) : List (List Char) :=
  (operator.name :: operator.token :: operator.aliases).map squash

/-- Read an operator from any of its spellings. -/
def ofSpelling? (spelling : String) : Option Operator :=
  all.find? fun operator => operator.spellings.contains (squash spelling)

/-- Read an operator from any of its spellings, or say which spelling is unknown. -/
def ofSpelling (spelling : String) : Except Error Operator :=
  match ofSpelling? spelling with
  | some operator => .ok operator
  | none => .error (.validation s!"Invalid TQL operator: '{spelling}'")

/-- Read an operator from the name it is stored under. -/
def ofName? (name : String) : Option Operator :=
  all.find? fun operator => operator.name == name

@[simp] theorem mem_all (operator : Operator) : operator ∈ all := by
  cases operator <;> decide

@[simp] theorem ofName?_name (operator : Operator) : ofName? operator.name = some operator := by
  cases operator <;> decide

end Operator
end Query
end ThreatIntel
