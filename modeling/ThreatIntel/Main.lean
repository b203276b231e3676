import Std.Time.DateTime.Timestamp
import ThreatIntel.Command.Run

/-!
# The program

The outer layer of the command line. It looks at the files that the words may lead to, at the
environment and at the time, runs the command on what it saw, and prints the lines that it left
behind. No network is within its reach.
-/

namespace ThreatIntel
namespace Program

/-- The environment variables that may hold settings. -/
def variableNames : List String :=
  ["TCEX__API__BASE_URL", "TCEX__API__TIMEOUT_SECONDS", "TCEX__API__VERIFY_SSL",
    "TCEX__API__RESULT_LIMIT", "TCEX__API__DEFAULT_OWNER", "TCEX__AUTH__MODE",
    "TCEX__AUTH__ACCESS_ID", "TCEX__AUTH__SECRET_KEY", "TCEX__AUTH__TOKEN",
    "TCEX__LOGGING__LEVEL", "TCEX__LOGGING__FORMAT"]

/-- The paths that the words of a command line lead to. -/
def paths (words : List String) : List String :=
  match Command.readInvocation words with
  | .error _ => []
  | .ok invocation =>
      let settings := invocation.settings
      let inputs := match invocation.command with
        | .checkApp folder | .listParameters folder =>
            ["install.json", "tcex.json", "layout.json"].map (Files.join folder)
        | .stage path _ => [path]
        | .query _ | .list .. | .get .. | .notify .. => []
      [settings, settings ++ ".toml", settings ++ ".json"] ++ inputs

/-- What has been seen of the files. -/
structure View where
  /-- The files that could be read, and the folders. -/
  files : Files
  /-- The names in folders, in the order in which they came. -/
  listings : List (String × List String) := []
  /-- The paths of files that could not be read. -/
  unreadable : List String := []

namespace View

/-- What the program can ask about the files that have been seen. -/
def disk (view : View) : Disk :=
  { view.files.disk with
    names? := fun path => view.listings.lookup path <|> view.files.names? path
    isFile := fun path => view.files.isFile path || view.unreadable.contains path }

/-- Look at what stands at a path. -/
def look (view : View) (path : String) : IO View := do
  let target := (← IO.currentDir) / path
  if ← target.isDir then
    let names := (← target.readDir).toList.map (·.fileName)
    pure { view with
      files := view.files.add path .folder
      listings := (path, names) :: view.listings }
  else if ← target.pathExists then
    try
      pure { view with files := view.files.add path (.file (← IO.FS.readFile target)) }
    catch _ =>
      pure { view with unreadable := path :: view.unreadable }
  else pure view

/-- Look at what stands at a path, and at the stage files in it if it is a folder. -/
def gather (view : View) (path : String) : IO View := do
  let view ← view.look path
  let names := (view.listings.lookup path).getD []
  (names.filter Staging.isStageName).foldlM (fun view name => view.look (Files.join path name)) view

end View

/-- The environment variables that are set. -/
def environment : IO (List (String × String)) := do
  let values ← variableNames.mapM fun name => do
    pure ((← IO.getEnv name).map fun value => (name, value))
  pure (values.filterMap id)

/-- The time. -/
def now : IO Time.Instant := do
  let nanos := (← Std.Time.Timestamp.now).toNanosecondsSinceUnixEpoch.val
  let instant := Time.Instant.ofParts? (nanos / 1000000000) (nanos % 1000000000).toNat
  pure (instant.getD Time.Instant.epoch)

/-- Print a line where lines of its kind go. -/
def printLine : Command.Line → IO Unit
  | .result text => IO.println text
  | .complaint text => IO.eprintln text

end Program
end ThreatIntel

open ThreatIntel in
/-- Run the words of a command line. -/
def main (words : List String) : IO UInt32 := do
  let here := ((← IO.currentDir).toString.splitOn "/").filter (· ≠ "")
  let view ← (Program.paths words).foldlM Program.View.gather { files := ⟨here, []⟩ }
  let report := Command.run
    { files := view.files, environment := ← Program.environment, now := ← Program.now,
      network := .unreachable } words view.disk
  report.lines.forM Program.printLine
  pure (UInt32.ofNat report.code)
