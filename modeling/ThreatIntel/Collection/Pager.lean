import ThreatIntel.Exchange.Server
import ThreatIntel.Exchange.Window
import ThreatIntel.Text.Literal

/-!
# Pagers

A pager walks the pages of a collection and hands out their records one by one. It asks for the next
page when its buffer is empty; a page with fewer records than asked for is the last one, and after a
failed request nothing more is asked.
-/

namespace ThreatIntel

/-- Where a walk over pages stands. -/
inductive Phase where
  /-- No page has been asked for. -/
  | created
  /-- A page has been asked for and not yet received. -/
  | fetching
  /-- A full page has been received; another may follow. -/
  | hasPage
  /-- The last page has been received. -/
  | exhausted
  /-- A request failed. -/
  | errored
  deriving DecidableEq, Repr

namespace Phase

/-- The name of a phase. -/
def name : Phase → String
  | created => "Created"
  | fetching => "Fetching"
  | hasPage => "HasPage"
  | exhausted => "Exhausted"
  | errored => "Errored"

/-- Whether no page will be asked for any more. -/
def isOver : Phase → Bool
  | exhausted | errored => true
  | created | fetching | hasPage => false

end Phase

/-- A walk over the pages of a collection. -/
structure Pager where
  /-- Where the collection is found. -/
  endpoint : String
  /-- The text of the query that narrows it down. -/
  query : String
  /-- The window asked for. -/
  window : Window
  /-- How many records come before the next page. -/
  offset : UInt32
  /-- Where the walk stands. -/
  phase : Phase
  /-- Records received and not yet handed out. -/
  buffer : List Json
  /-- How many pages have been asked for. -/
  fetches : Nat
  deriving DecidableEq

namespace Pager

/-- The start of a walk. -/
def start (endpoint query : String) (window : Window) : Pager where
  endpoint := endpoint
  query := query
  window := window
  offset := window.start
  phase := .created
  buffer := []
  fetches := 0

/-- The request for the next page. -/
def request (pager : Pager) : Request :=
  .get pager.endpoint
    ((if pager.query.isEmpty then [] else [("tql", pager.query)]) ++
      pager.window.query pager.offset)

/-- The offset behind a number of records, held at the greatest offset there is. -/
def advance (offset : UInt32) (received : Nat) : UInt32 :=
  UInt32.ofNat (min (offset.toNat + received) (UInt32.size - 1))

/-- The records of a page. -/
def records (endpoint : String) (page : Json) : Except Error (List Json) :=
  match page with
  | .object members =>
      match Members.get? "data" members with
      | some (.array records) => .ok records
      | _ => .error (.decode s!"Page from {endpoint} has no 'data' array")
  | _ => .error (.decode s!"Page from {endpoint} is not a JSON object")

/-- The walk with a page on its way. -/
def awaiting (pager : Pager) : Pager :=
  { pager with phase := .fetching, fetches := pager.fetches + 1 }

/-- The walk after a page has come in. -/
def received (pager : Pager) (records : List Json) : Pager :=
  { pager with
    offset := advance pager.offset records.length
    phase := if records.length = 0 ∨ records.length < pager.window.limit.toNat then .exhausted
      else .hasPage
    buffer := pager.buffer ++ records }

/-- The walk after a page has not come in. -/
def failed (pager : Pager) : Pager :=
  { pager with phase := .errored }

/-- Ask for the next page. -/
def askPage (server : Server) (pager : Pager) : Call (List Json) := do
  let page ← server.ask pager.request pager.endpoint
  records pager.endpoint page

/-- Ask for the next page, and put its records into the buffer. -/
def fetch (server : Server) (pager : Pager) : Session (Except Error Unit × Pager) := do
  match ← (askPage server pager.awaiting).outcome with
  | .ok records => pure (.ok (), pager.awaiting.received records)
  | .error error => pure (.error error, pager.awaiting.failed)

/-- Hand out the first record of the buffer, if it holds one. -/
def pop (pager : Pager) : Option Json × Pager :=
  match pager.buffer with
  | record :: buffer => (some record, { pager with buffer := buffer })
  | [] => (none, pager)

/-- The next record, or the error that ends the walk, or nothing at its end. -/
def next (server : Server) (pager : Pager) : Session (Option (Except Error Json) × Pager) := do
  match pager.pop with
  | (some record, pager) => pure (some (.ok record), pager)
  | (none, pager) =>
      if pager.phase.isOver then pure (none, pager)
      else
        match ← pager.fetch server with
        | (.error error, pager) => pure (some (.error error), pager)
        | (.ok (), pager) =>
            let (record, pager) := pager.pop
            pure (record.map .ok, pager)

/-- The walk in words, for those who look for a fault. -/
def describe (pager : Pager) : String :=
  "Pager \x7b endpoint: " ++ Text.literal pager.endpoint ++ ", tql: " ++ Text.literal pager.query ++
    s!", offset: {pager.offset.toNat}, state: {pager.phase.name}" ++
    s!", buffered: {pager.buffer.length} \x7d"

end Pager
end ThreatIntel
