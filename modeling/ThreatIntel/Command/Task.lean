import ThreatIntel.Command.Basic
import ThreatIntel.Command.Table
import ThreatIntel.Exchange.Server

/-!
# Tasks

A command at work: it prints lines, sends requests, and ends well or in an error. What it printed
before an error stays printed.
-/

namespace ThreatIntel
namespace Command

/-- A line that a command prints. -/
inductive Line where
  /-- A result. -/
  | result (text : String)
  /-- Something that is wrong. -/
  | complaint (text : String)
  deriving DecidableEq, Repr

/-- What a command has done so far. -/
structure Progress where
  /-- The requests it has sent. -/
  requests : List Request := []
  /-- The lines it has printed. -/
  lines : List Line := []
  deriving DecidableEq

/-- A command at work. -/
abbrev Task (α : Type) := ExceptT Error (StateM Progress) α

namespace Task

/-- Print a line. -/
def print (line : Line) : Task Unit :=
  modify fun progress => { progress with lines := progress.lines ++ [line] }

/-- Make calls to a server. -/
def call (call : Call α) : Task α := fun progress =>
  let (result, requests) := call.run progress.requests
  (result, { progress with requests := requests })

/-- Print a result. -/
def result (text : String) : Task Unit :=
  print (.result text)

/-- Print that something is done. -/
def success (text : String) : Task Unit :=
  print (.result ("✓ " ++ text))

/-- Print that something should be changed. -/
def warning (text : String) : Task Unit :=
  print (.result ("⚠ " ++ text))

/-- Print that something is wrong. -/
def failure (text : String) : Task Unit :=
  print (.complaint ("✗ " ++ text))

/-- Print rows, as a table or as the data behind them. -/
def rows (format : OutputFormat) (table : Table) (records : List Json) : Task Unit :=
  match format with
  | .json => result (Json.array records).pretty
  | .table => result (if table.rows.isEmpty then "No results found." else table.render)

/-- A member of a record as a line: its key in 24 columns, and its value. -/
def memberLine (key : String) (value : Json) : String :=
  let label := key.toList ++ [':']
  let text := match value with
    | .text text => text
    | other => other.render
  String.ofList ([' ', ' '] ++ label ++ List.replicate (24 - label.length) ' ' ++ [' ']) ++ text

/-- Print one record, member by member or as data. -/
def record (format : OutputFormat) (record : Json) : Task Unit :=
  match format, record with
  | .table, .object members => members.forM fun (key, value) => result (memberLine key value)
  | .table, other => result other.render
  | .json, record => result record.pretty

end Task
end Command
end ThreatIntel
