import ThreatIntel.Command.Run
import ThreatIntel.Proofs.Command.Tasks
import ThreatIntel.Proofs.Staging.Outcomes

/-!
# The command that stages items

The command prints what became of each item, and fails if a record has not been made of every one of
them. It then says how many those are.
-/

namespace ThreatIntel
namespace Command

/-- The items at a path: those of all stage files in a folder, or of one stage file. -/
def itemsAt (files : Files) (path : String) : Except Error (List Staging.Item) :=
  if (files.names? path).isSome then Staging.loadFolder files path else Staging.load files path

/-- How many items no record has been made of. -/
def failures (outcomes : List Staging.Outcome) : Nat :=
  outcomes.countP (·.status = "failed")

/-- An outcome is a failure exactly if it is called one. -/
theorem countP_isFailure (outcomes : List Staging.Outcome) :
    outcomes.countP Staging.Outcome.isFailure = failures outcomes := by
  refine List.countP_congr fun outcome _ => ?_
  cases failed : outcome.isFailure <;> simp [Staging.Outcome.status, failed]

/-- How the command ends when its items have been found. -/
theorem outcome_stageRecords
    {files : Files}
    {path : String}
    {items : List Staging.Item}
    (loaded : itemsAt files path = .ok items)
    (connection : Connection)
    (format : OutputFormat)
    (given : Option String)
    (progress : Progress) :
    ((stageRecords files connection format path given).outcome progress).1 =
      let outcomes := ((Staging.stageAll connection.server (connection.client.owner given)
        items).run progress.requests).1
      if failures outcomes = 0 then .ok ()
      else .error
        (.transport s!"{failures outcomes} of {outcomes.length} entities failed to stage") := by
  have start : stageRecords files connection format path given = (do
      let items ← (itemsAt files path : Except Error _)
      let outcomes ← Task.call
        (Staging.stageAll connection.server (connection.client.owner given) items)
      Task.rows format ⟨["type", "status", "id", "message"], outcomes.map outcomeRow⟩
        (outcomes.map Staging.Outcome.toJson)
      let failed := outcomes.countP Staging.Outcome.isFailure
      if 0 < failed then
        throw (.transport s!"{failed} of {outcomes.length} entities failed to stage")) := by
    unfold stageRecords itemsAt
    split <;> rfl
  rw [start, loaded, Task.outcome_bind, Task.outcome_lift]
  simp only [Task.outcome_bind, Task.outcome_call, Call.run_lift_session]
  generalize (Staging.stageAll connection.server (connection.client.owner given) items).run
    progress.requests = ran
  obtain ⟨text, printed⟩ := Task.exists_outcome_rows format
    ⟨["type", "status", "id", "message"], ran.1.map outcomeRow⟩
    (ran.1.map Staging.Outcome.toJson) { progress with requests := ran.2 }
  simp only [printed, countP_isFailure]
  cases failures ran.1 with
  | zero => rfl
  | succ failed => rfl

/-- Staging reports one outcome for each item, which the answer to its own request settles. The
command fails exactly if a record has not been made of every item, and counts those. -/
theorem stage_reports_each_item :
    (∀ (server : Server) (owner : Option String) (items : List Staging.Item)
        (log : List Request),
      Staging.Reported server owner items log
        ((Staging.stageAll server owner items).run log).1
        ((Staging.stageAll server owner items).run log).2) ∧
    ∀ (surroundings : Surroundings) (settings : Settings) (site : Site) (format : OutputFormat)
        (path : String) (given : Option String) (items : List Staging.Item),
      Site.ofSettings settings = .ok site →
      itemsAt surroundings.files path = .ok items →
      ((perform surroundings (.ok settings) format (.stage path given)).outcome {}).1 =
        let outcomes := ((Staging.stageAll (site.server surroundings.network)
          ((Client.ofSettings settings).owner given) items).run []).1
        if failures outcomes = 0 then .ok ()
        else .error
          (.transport s!"{failures outcomes} of {outcomes.length} entities failed to stage") := by
  refine ⟨Staging.reported_stageAll, ?_⟩
  intro surroundings settings site format path given items reached loaded
  have connected : connect surroundings.network (.ok settings) =
      .ok ⟨.ofSettings settings, site.server surroundings.network⟩ := by
    simp only [connect, bind, Except.bind, reached]
    rfl
  rw [perform, connected, Task.outcome_bind, Task.outcome_lift]
  exact outcome_stageRecords loaded _ format given {}

theorem stage_reports_each_item_of_number :
    ∃ surroundings : Surroundings,
      itemsAt surroundings.files "s" = .ok [⟨.tag, .object [], []⟩, ⟨.tag, .whole 1, []⟩] ∧
      ((perform surroundings (.ok { auth := { mode := .none } }) .json
        (.stage "s" none)).outcome {}).1 =
          .error (.transport "1 of 2 entities failed to stage") := by
  let content := "[\x7b\"type\":\"tag\",\"data\":\x7b\x7d\x7d,\x7b\"type\":\"tag\",\"data\":1\x7d]"
  let surroundings : Surroundings := {
    files := ⟨[], [(["s"], .file content)]⟩
    environment := []
    now := .epoch
    network := ⟨fun _ => 0, fun _ _ => .received 200 "\x7b\"data\":\x7b\"id\":7\x7d\x7d"⟩ }
  have reached : Site.ofSettings { auth := { mode := .none } } =
      .ok ⟨"https://app.threatconnect.com/api", .none⟩ := by
    have site : (Site.ofSettings { auth := { mode := .none } }).toOption =
        some ⟨"https://app.threatconnect.com/api", .none⟩ := by
      decide +kernel
    cases found : Site.ofSettings { auth := { mode := .none } } with
    | error error =>
        rw [found] at site
        cases site
    | ok reached =>
        rw [found] at site
        cases site
        rfl
  have loaded : itemsAt surroundings.files "s" =
      .ok [⟨.tag, .object [], []⟩, ⟨.tag, .whole 1, []⟩] := by
    have cut : "s".splitOn "/" = ["s"] := by
      rw [String.splitOn, if_neg (by decide), String.splitOnAux, if_neg (by decide)]
      dsimp only
      rw [if_neg (by decide), String.splitOnAux, if_pos (by decide)]
      decide
    have single : (surroundings.files.names? "s").isSome = false := by
      unfold Files.names? Files.locate? Files.segments
      rw [cut]
      decide +kernel
    have stands : surroundings.files.read? "s" = some content := by
      unfold Files.read? Files.locate? Files.segments
      rw [cut]
      decide +kernel
    have reads : (Document.ofText? content).bind Staging.ofDocument? =
        some [⟨.tag, .object [], []⟩, ⟨.tag, .whole 1, []⟩] := by
      decide +kernel
    simp only [itemsAt, single, Bool.false_eq_true, if_false, Staging.load, stands, reads]
  have ended := stage_reports_each_item.2 surroundings _ _ .json "s" none _ reached loaded
  have counted :
      let outcomes := ((Staging.stageAll (Site.server ⟨"https://app.threatconnect.com/api", .none⟩
        surroundings.network) ((Client.ofSettings { auth := { mode := .none } }).owner none)
        [⟨.tag, .object [], []⟩, ⟨.tag, .whole 1, []⟩]).run []).1
      failures outcomes = 1 ∧ outcomes.length = 2 := by
    decide +kernel
  refine ⟨surroundings, loaded, ended.trans ?_⟩
  simp only [counted.1, counted.2]
  rfl

end Command
end ThreatIntel
