import ThreatIntel.Json.Codec

/-!
# Parameters

The inputs that an app declares, and criteria by which some of them are chosen.
-/

namespace ThreatIntel
namespace App

/-- The type of a parameter. -/
inductive ParameterType where
  /-- On or off. -/
  | boolean
  /-- One of several values. -/
  | choice
  /-- Pairs of keys and values. -/
  | keyValueList
  /-- Some of several values. -/
  | multiChoice
  /-- A text. -/
  | text
  /-- A text with other values in it. -/
  | mixedText
  deriving DecidableEq, Repr

namespace ParameterType

/-- Every type. -/
def all : List ParameterType :=
  [boolean, choice, keyValueList, multiChoice, text, mixedText]

/-- The name of a type. -/
def name : ParameterType → String
  | boolean => "Boolean"
  | choice => "Choice"
  | keyValueList => "KeyValueList"
  | multiChoice => "MultiChoice"
  | text => "String"
  | mixedText => "StringMixed"

/-- How a type is written. -/
def codec : Codec ParameterType := .names all name

end ParameterType

/-- An input of an app. -/
structure Parameter where
  /-- The name by which the app knows the parameter. -/
  name : String
  /-- The name by which users know it. -/
  label : String
  /-- The type of its values. -/
  type : ParameterType
  /-- Whether it may have several values. -/
  allowMultiple : Bool
  /-- The value it has when none is given. -/
  default : Option Json
  /-- Whether its value is kept secret. -/
  encrypt : Bool
  /-- The type as which a key given in its place is shown. -/
  exposePlaybookKeyAs : Option String
  /-- Whether it belongs to the deployment of a feed. -/
  feedDeployer : Bool
  /-- Whether users do not see it. -/
  hidden : Bool
  /-- The kinds of intelligence it takes. -/
  intelType : List String
  /-- A remark for users. -/
  note : Option String
  /-- The playbook types it takes. -/
  playbookDataType : List String
  /-- Whether a value has to be given. -/
  required : Bool
  /-- Its place among the others. -/
  sequence : Option Int64
  /-- Whether it belongs to the configuration of a service. -/
  serviceConfig : Bool
  /-- Whether it is asked for at setup only. -/
  setup : Bool
  /-- The values to choose from. -/
  validValues : List String
  deriving DecidableEq

/-- A list that may be left out; an empty one is left out. -/
def listEntry (codec : Codec α) : Entry (List α) :=
  (Entry.defaulted (.list codec) []).hideIf (·.isEmpty)

namespace Parameter

/-- The members of a parameter. -/
def form : Form Parameter Parameter :=
  Form.build Parameter.mk
    |>.field "name" (·.name) (.required .text)
    |>.field "label" (·.label) (.required .text)
    |>.field "type" (·.type) (.required ParameterType.codec)
    |>.field "allowMultiple" (·.allowMultiple) (.defaulted .boolean false)
    |>.field "default" (·.default) (.omissible .json)
    |>.field "encrypt" (·.encrypt) (.defaulted .boolean false)
    |>.field "exposePlaybookKeyAs" (·.exposePlaybookKeyAs) (.omissible .text)
    |>.field "feedDeployer" (·.feedDeployer) (.defaulted .boolean false)
    |>.field "hidden" (·.hidden) (.defaulted .boolean false)
    |>.field "intelType" (·.intelType) (listEntry .text)
    |>.field "note" (·.note) (.omissible .text)
    |>.field "playbookDataType" (·.playbookDataType) (listEntry .text)
    |>.field "required" (·.required) (.defaulted .boolean false)
    |>.field "sequence" (·.sequence) (.omissible .int64)
    |>.field "serviceConfig" (·.serviceConfig) (.defaulted .boolean false)
    |>.field "setup" (·.setup) (.defaulted .boolean false)
    |>.field "validValues" (·.validValues) (listEntry .text)

/-- How a parameter is written. -/
def codec : Codec Parameter := form.codec

end Parameter

/-- Criteria for parameters; those that are not set let every parameter pass. -/
structure Criteria where
  /-- The name. -/
  name : Option String := none
  /-- Whether it is hidden. -/
  hidden : Option Bool := none
  /-- Whether it is required. -/
  required : Option Bool := none
  /-- Whether it belongs to the configuration of a service. -/
  serviceConfig : Option Bool := none
  /-- The type. -/
  type : Option ParameterType := none
  /-- Names of which it has one. -/
  names : Option (List String) := none
  deriving DecidableEq

namespace Criteria

/-- Whether a value is the wanted one, where one is wanted. -/
def agrees [BEq α] (wanted : Option α) (value : α) : Bool :=
  wanted.all (· == value)

/-- Whether a parameter meets all criteria that are set. -/
def admits (criteria : Criteria) (parameter : Parameter) : Bool :=
  agrees criteria.name parameter.name && agrees criteria.hidden parameter.hidden &&
    agrees criteria.required parameter.required &&
    agrees criteria.serviceConfig parameter.serviceConfig &&
    agrees criteria.type parameter.type && criteria.names.all (·.contains parameter.name)

end Criteria
end App
end ThreatIntel
