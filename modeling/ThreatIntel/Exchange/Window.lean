import ThreatIntel.Json.Codec
import ThreatIntel.Text.Decimal

/-!
# Windows

Which part of a collection is asked for, and which extra fields of its records.
-/

namespace ThreatIntel

/-- A part of a collection. -/
structure Window where
  /-- How many records one page may hold. -/
  limit : UInt32 := 100
  /-- How many records come before the first page. -/
  start : UInt32 := 0
  /-- The fields asked for beside the usual ones. -/
  fields : List String := []
  deriving DecidableEq, Repr

namespace Window

/-- The window on a whole collection, in pages of the usual size. -/
def whole : Window := {}

/-- The greatest number of records that a page may hold. -/
def greatestLimit : UInt32 := 10000

/-- A limit brought into the bounds of a page. -/
def clampLimit (limit : UInt32) : UInt32 :=
  if limit < 1 then 1 else if greatestLimit < limit then greatestLimit else limit

/-- The window with its limit brought into bounds. -/
def clamped (window : Window) : Window :=
  { window with limit := clampLimit window.limit }

/-- A window without extra fields. -/
def ofBounds (limit start : UInt32) : Window :=
  clamped { limit := limit, start := start }

/-- The named values that ask for the page at an offset. -/
def query (window : Window) (offset : UInt32) : List (String × String) :=
  [("resultStart", String.ofList (Text.natDigits offset.toNat)),
    ("resultLimit", String.ofList (Text.natDigits window.limit.toNat))] ++
    window.fields.map fun field => ("fields", field)

/-- The members of a window. -/
def form : Form Window Window :=
  Form.build Window.mk
    |>.field "resultLimit" (·.limit) (.defaulted .uint32 100)
    |>.field "resultStart" (·.start) (.defaulted .uint32 0)
    |>.field "fields" (·.fields) (.defaulted (.list .text) [])

/-- How a window is stored. -/
def codec : Codec Window := form.codec

end Window
end ThreatIntel
