import ThreatIntel.Collection.Pager
import ThreatIntel.Query.Filter
import ThreatIntel.Record.Basic

/-!
# Walks over collections

A collection is a kind of record, a query and a window. A walk over it hands out the records that
can be read and passes over the others. A page may hold none that can be read, so one step of a walk
may ask for many pages; how many it may ask for at most is its budget.
-/

namespace ThreatIntel

/-- What one step of a walk came to. -/
inductive Step (α : Type) where
  /-- A record. -/
  | item (value : α)
  /-- An error, which ends the walk. -/
  | failed (error : Error)
  /-- The end of the walk. -/
  | ended
  /-- Neither, within the budget. -/
  | unfinished
  deriving DecidableEq

namespace Pager

/-- Pass over the records that cannot be read: the first that can, and what follows it. -/
def skim (read : Json → Option α) : List Json → Option (α × List Json)
  | [] => none
  | record :: records =>
      match read record with
      | some value => some (value, records)
      | none => skim read records

/-- The walk without the records of its buffer. -/
def drained (pager : Pager) : Pager :=
  { pager with buffer := [] }

/-- The next record that can be read, after at most `budget` requests. -/
def nextReadable (server : Server) (read : Json → Option α) :
    (budget : Nat) → Pager → Session (Step α × Pager)
  | budget, pager =>
      match skim read pager.buffer with
      | some (value, buffer) => pure (.item value, { pager with buffer := buffer })
      | none =>
          if pager.phase.isOver then pure (.ended, pager.drained)
          else
            match budget with
            | 0 => pure (.unfinished, pager.drained)
            | budget + 1 => do
                match ← pager.drained.fetch server with
                | (.error error, pager) => pure (.failed error, pager)
                | (.ok (), pager) => nextReadable server read budget pager

/-- All records that can be read, and the error that ends the walk if one does, after at most
`budget` requests. -/
def drain (server : Server) (read : Json → Option α) :
    (budget : Nat) → Pager → Session (List (Except Error α) × Pager)
  | budget, pager =>
      let values := (pager.buffer.filterMap read).map .ok
      if pager.phase.isOver then pure (values, pager.drained)
      else
        match budget with
        | 0 => pure (values, pager.drained)
        | budget + 1 => do
            match ← pager.drained.fetch server with
            | (.error error, pager) => pure (values ++ [.error error], pager)
            | (.ok (), pager) => do
                let (rest, pager) ← drain server read budget pager
                pure (values ++ rest, pager)

/-- The first records that can be read, at most `count` of them; each step may send `budget`
requests. -/
def take (server : Server) (read : Json → Option α) (budget : Nat) :
    (count : Nat) → Pager → Session (List (Except Error α) × Pager)
  | 0, pager => pure ([], pager)
  | count + 1, pager => do
      match ← nextReadable server read budget pager with
      | (.item value, pager) => do
          let (rest, pager) ← take server read budget count pager
          pure (.ok value :: rest, pager)
      | (.failed error, pager) => pure ([.error error], pager)
      | (.ended, pager) | (.unfinished, pager) => pure ([], pager)

end Pager

/-- The records of one kind that a query and a window select. -/
structure Collection where
  /-- The kind of record. -/
  resource : Resource
  /-- The query. -/
  query : Query.Expression := .empty
  /-- The window. -/
  window : Window := .whole
  deriving DecidableEq

namespace Collection

/-- The collection under another window, whose limit is brought into bounds. -/
def withWindow (collection : Collection) (window : Window) : Collection :=
  { collection with window := window.clamped }

/-- The query as a filter on records of the kind. -/
def filter (collection : Collection) : Query.Filter :=
  ⟨collection.resource, collection.query⟩

/-- The start of a walk over the collection. -/
def walk (collection : Collection) : Pager :=
  .start collection.resource.endpoint collection.query.render collection.window

/-- How the records of the collection are read. -/
def read (collection : Collection) : Json → Option collection.resource.Record :=
  collection.resource.codec.readJson?

/-- The values of a list of results up to its first error, which is then the result. -/
def untilError : List (Except Error α) → Except Error (List α)
  | [] => .ok []
  | .ok value :: rest => (untilError rest).map (value :: ·)
  | .error error :: _ => .error error

/-- The first records of the collection, or all of them; an error leaves none. -/
def list (server : Server) (budget : Nat) (collection : Collection) (count : Option Nat) :
    Call (List collection.resource.Record) := do
  let (results, _) ← (match count with
    | some count => Pager.take server collection.read budget count collection.walk
    | none => Pager.drain server collection.read budget collection.walk :
      Session (List (Except Error collection.resource.Record) × Pager))
  untilError results

end Collection
end ThreatIntel
