import ThreatIntel.Json.File

/-!
# Layouts

In which sections the parameters of an app are shown, and which of its outputs.
-/

namespace ThreatIntel
namespace App

/-- A parameter or an output that is shown. -/
structure LayoutItem where
  /-- The name. -/
  name : String
  /-- The condition under which it is shown. -/
  display : Option String
  deriving DecidableEq, Repr

namespace LayoutItem

/-- The members of a shown item. -/
def form : Form LayoutItem LayoutItem :=
  Form.build LayoutItem.mk
    |>.field "name" (·.name) (.required .text)
    |>.field "display" (·.display) (.omissible .text)

/-- How a shown item is written. -/
def codec : Codec LayoutItem := form.codec

end LayoutItem

/-- Parameters that are shown together. -/
structure Section where
  /-- The place of the section among the others. -/
  sequence : UInt32
  /-- What stands over it. -/
  title : String
  /-- The parameters. -/
  parameters : List LayoutItem
  deriving DecidableEq, Repr

namespace Section

/-- The members of a section. -/
def form : Form Section Section :=
  Form.build Section.mk
    |>.field "sequence" (·.sequence) (.required .uint32)
    |>.field "title" (·.title) (.required .text)
    |>.field "parameters" (·.parameters) (.defaulted (.list LayoutItem.codec) [])

/-- How a section is written. -/
def codec : Codec Section := form.codec

end Section

/-- The layout of an app. -/
structure Layout where
  /-- The sections, in the order of the file. -/
  sections : List Section
  /-- The outputs. -/
  outputs : List LayoutItem
  deriving DecidableEq, Repr

namespace Layout

/-- The members of a layout. -/
def form : Form Layout Layout :=
  Form.build Layout.mk
    |>.field "inputs" (·.sections) (.defaulted (.list Section.codec) [])
    |>.field "outputs" (·.outputs) (.defaulted (.list LayoutItem.codec) [])

/-- How a layout is written. -/
def codec : Codec Layout := form.codec

/-- The layout at a path. -/
def load (disk : Disk) (path : String) : Except Error Layout :=
  codec.readFile disk path

/-- The first parameter of a name, in the order of the file. -/
def parameter? (layout : Layout) (name : String) : Option LayoutItem :=
  (layout.sections.flatMap (·.parameters)).find? (·.name == name)

/-- The first output of a name. -/
def output? (layout : Layout) (name : String) : Option LayoutItem :=
  layout.outputs.find? (·.name == name)

/-- The sections in the order of their places. -/
def inSequence (layout : Layout) : List Section :=
  layout.sections.mergeSort fun left right => decide (left.sequence ≤ right.sequence)

/-- The names of the parameters, section by section. -/
def parameterNames (layout : Layout) : List String :=
  layout.inSequence.flatMap fun part => part.parameters.map (·.name)

/-- The outputs under their names; of several with one name the last stands. -/
def outputsByName (layout : Layout) : List (String × LayoutItem) :=
  Members.ofList (layout.outputs.map fun output => (output.name, output))

end Layout
end App
end ThreatIntel
