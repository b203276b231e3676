import ThreatIntel.Proofs.Collection.Listings
import ThreatIntel.Proofs.Command.Rejections
import ThreatIntel.Proofs.Command.Tasks
import ThreatIntel.Proofs.Settings.Clients

/-!
# The command that lists records

The command either prints one result, with the first records of the walk over the entities that are
selected, or it fails and prints nothing. Clauses that are refused fail it before anything is asked.
-/

namespace ThreatIntel
namespace Command

/-- The line that shows written records of a kind. -/
def recordsLine (format : OutputFormat) (resource : Resource) (records : List Json) : Line :=
  let table : Table := ⟨["id", "type", "summary"], records.map (recordRow resource)⟩
  .result <|
    match format with
    | .json => (Json.array records).pretty
    | .table => if table.rows.isEmpty then "No results found." else table.render

/-- How many records a page of a listing may hold: as many as are asked for, within the bounds of a
page, or as many as the settings say. -/
def pageLimit (settings : Settings) (limit : Option UInt32) : UInt32 :=
  (limit.map Window.clampLimit).getD settings.api.resultLimit

/-- What a listing is about: the records that a query selects, in pages with the fields. -/
def listedBy
    (settings : Settings)
    (selection : Selection)
    (limit : Option UInt32)
    (fields : List String)
    (query : Query.Expression) : Collection :=
  { resource := selection.resource
    query := query
    window := { limit := pageLimit settings limit, start := 0, fields := fields } }

/-! ## The window of a listing -/

theorem clampLimit_clampLimit (limit : UInt32) :
    Window.clampLimit (Window.clampLimit limit) = Window.clampLimit limit := by
  apply UInt32.toNat_inj.mp
  rw [Window.toNat_clampLimit, Window.toNat_clampLimit]
  omega

/-- Settings that can work name a limit within the bounds of a page. -/
theorem clampLimit_of_reached
    {settings : Settings}
    {site : Site}
    (reached : Site.ofSettings settings = .ok site) :
    Window.clampLimit settings.api.resultLimit = settings.api.resultLimit := by
  have valid : settings.validate = .ok () := by
    unfold Site.ofSettings at reached
    cases checked : settings.validate with
    | ok => rfl
    | error error =>
        rw [checked] at reached
        cases reached
  exact Settings.clampLimit_of_valid valid

/-- The collection of a listing has the window that the command line asks for. -/
theorem listing_eq_listedBy
    {settings : Settings}
    (bounded : Window.clampLimit settings.api.resultLimit = settings.api.resultLimit)
    (selection : Selection)
    (limit : Option UInt32)
    (fields : List String)
    (query : Query.Expression) :
    { listing (.ofSettings settings) selection.resource limit fields with query := query } =
      listedBy settings selection limit fields query := by
  have usual : ((Client.ofSettings settings).collection selection.resource).window.limit =
      settings.api.resultLimit := bounded
  unfold listing listedBy pageLimit
  cases limit with
  | some limit =>
      simp [Collection.withWindow, Window.ofBounds, Window.clamped, clampLimit_clampLimit,
        Client.collection]
  | none =>
      by_cases plain : fields = []
      · simp [plain, Client.collection, Client.ofSettings, Window.ofBounds, Window.clamped, bounded]
      · simp [plain, Client.collection, Client.ofSettings, Collection.withWindow, Window.ofBounds,
          Window.clamped, bounded]

/-! ## What the command leaves -/

/-- The written records of a listing, and the requests that it sends. -/
def writtenRecords
    (server : Server)
    (budget : Nat)
    (collection : Collection)
    (count : Option Nat) : Except Error (List Json) × List Request :=
  let run := (collection.list server budget count).outcome.run []
  (run.1.map (·.map Resource.Record.toJson), run.2)

/-- A listing is shown in one line, or fails and is not shown. -/
theorem outcome_show
    (server : Server)
    (budget : Nat)
    (format : OutputFormat)
    (resource : Resource)
    (collection : Collection)
    (count : Option Nat) :
    (do
      let records ← Task.call (collection.list server budget count)
      let records := records.map Resource.Record.toJson
      Task.rows format ⟨["id", "type", "summary"], records.map (recordRow resource)⟩
        records).outcome {} =
      let run := writtenRecords server budget collection count
      (run.1.map fun _ => (), ⟨run.2,
        run.1.toOption.toList.map fun records => recordsLine format resource records⟩) := by
  rw [Task.outcome_bind, Task.outcome_call, writtenRecords]
  generalize (collection.list server budget count).outcome.run [] = run
  obtain ⟨result, log⟩ := run
  cases result with
  | error error => rfl
  | ok records => cases format <;> rfl

section Listing

variable
  {settings : Settings}
  {site : Site}
  (reached : Site.ofSettings settings = .ok site)
  (surroundings : Surroundings)
  (format : OutputFormat)
  (selection : Selection)
  (limit : Option UInt32)
  (count : Option Nat)
  (fields : List String)

include reached

theorem connect_of_reached (network : Network) :
    connect network (.ok settings) = .ok ⟨.ofSettings settings, site.server network⟩ := by
  simp only [connect, bind, Except.bind, reached]
  rfl

/-- A clause that is refused fails the command before it has done anything. -/
theorem outcome_list_of_refused
    {error : Error}
    (refused : selection.refusal? surroundings.now = some error) :
    (perform surroundings (.ok settings) format (.list selection limit count fields)).outcome {} =
      (.error error, {}) := by
  rw [perform, connect_of_reached reached, Task.outcome_bind, Task.outcome_lift]
  simp only [listRecords, Task.outcome_bind, Selection.select_of_refused refused,
    Task.outcome_lift]

/-- Otherwise the command prints the records of the listing, if it comes to any. -/
theorem outcome_list_of_selected
    {query : Query.Expression}
    (selected : select surroundings.now selection .empty = .ok query) :
    (perform surroundings (.ok settings) format (.list selection limit count fields)).outcome {} =
      let run := writtenRecords (site.server surroundings.network) surroundings.budget
        (listedBy settings selection limit fields query) count
      (run.1.map fun _ => (), ⟨run.2,
        run.1.toOption.toList.map fun records =>
          recordsLine format selection.resource records⟩) := by
  have unfiltered : (listing (.ofSettings settings) selection.resource limit fields).query =
      .empty := by
    unfold listing
    split <;> rfl
  rw [perform, connect_of_reached reached, Task.outcome_bind, Task.outcome_lift]
  unfold listRecords
  dsimp only
  rw [Task.outcome_bind, unfiltered, selected, Task.outcome_lift]
  dsimp only
  rw [outcome_show, listing_eq_listedBy (clampLimit_of_reached reached)]

end Listing

/-- The command that lists records prints a prefix of a walk, or fails and prints nothing. If a
clause is refused, it fails with the error of the first such clause, which is about what was asked
for, and sends no request. Otherwise the clauses make a query, and every request asks for a page of
what it selects, with the limit and the fields of the command line. What is printed is what the walk
over entities answers with, up to the number of entities that are wanted or to its end, for the
requests that these take; nothing is asked where nothing is wanted; and an error before that fails
the command. One of these is the case on every server that has only so many answers. -/
theorem list_prints_first_records
    (surroundings : Surroundings)
    (settings : Settings)
    (site : Site)
    (format : OutputFormat)
    (selection : Selection)
    (limit : Option UInt32)
    (count : Option Nat)
    (fields : List String)
    (reached : Site.ofSettings settings = .ok site) :
    let server := site.server surroundings.network
    let outcome :=
      (perform surroundings (.ok settings) format (.list selection limit count fields)).outcome {}
    (∀ error, selection.refusal? surroundings.now = some error →
      outcome = (.error error, {}) ∧
      (surroundings.now.HasNeighbours → error.kind = .validation)) ∧
    (selection.refusal? surroundings.now = none →
      ∃ query, select surroundings.now selection .empty = .ok query ∧
        let collection := listedBy settings selection limit fields query
        (∀ request ∈ outcome.2.requests,
          Pager.Asks selection.resource.endpoint query.render collection.window request) ∧
        (count = some 0 →
          outcome = (.ok (), ⟨[], [recordsLine format selection.resource []]⟩)) ∧
        (∀ result log, collection.Lists server count result log →
          log.length ≤ surroundings.budget →
          outcome = (result.map fun _ => (), ⟨log,
            result.toOption.toList.map fun entities =>
              recordsLine format selection.resource (entities.map Entity.toJson)⟩)) ∧
        ∀ bound, server.FailsFrom bound → bound < surroundings.budget →
          ∃ result log, collection.Lists server count result log ∧
            log.length ≤ surroundings.budget) := by
  intro server outcome
  refine ⟨?_, ?_⟩
  · intro error refused
    exact ⟨outcome_list_of_refused reached surroundings format selection limit count fields refused,
      fun neighbours => Selection.kind_of_refusal? neighbours refused⟩
  · intro accepted
    obtain ⟨query, selected⟩ := Selection.exists_select_of_accepted accepted .empty
    refine ⟨query, selected, ?_⟩
    intro collection
    have ended : outcome = _ := outcome_list_of_selected reached surroundings format selection limit
      count fields selected
    have prints : ∀ result log, collection.Lists server count result log →
        log.length ≤ surroundings.budget →
        outcome = (result.map fun _ => (), ⟨log,
          result.toOption.toList.map fun entities =>
            recordsLine format selection.resource (entities.map Entity.toJson)⟩) := by
      intro result log lists enough
      obtain ⟨records, run, rfl⟩ := Collection.run_list_of_lists lists enough
      rw [ended, writtenRecords, run]
      cases records with
      | error error => rfl
      | ok records =>
          have written : (records.map (Entity.mk collection.resource)).map Entity.toJson =
              records.map Resource.Record.toJson :=
            List.map_map
          simp only [Except.map, Except.toOption, Option.toList_some, List.map_cons, List.map_nil,
            written]
    refine ⟨?_, ?_, prints, ?_⟩
    · intro request member
      rw [ended] at member
      exact Collection.asks_of_mem_run_list server surroundings.budget collection count member
    · intro none
      have stays : collection.WalksEntities server [] collection.walk [] :=
        ⟨List.not_mem_nil, 0, rfl⟩
      exact prints (.ok []) [] (.wanted stays none) (Nat.zero_le _)
    · intro bound fails within
      obtain ⟨result, log, lists, length⟩ := Collection.exists_lists fails collection count
      exact ⟨result, log, lists, Nat.le_trans length within⟩

/-- Pages of one record, the first of which cannot be read: two pages are asked for, and no third
one behind the record that is wanted. A clause without colons is refused. -/
theorem list_prints_first_records_of_unreadable :
    ∃ surroundings : Surroundings,
      (∃ log, log.length = 2 ∧
        (perform surroundings (.ok { auth := { mode := .none } }) .json
          (.list ⟨.tag, ["name:eq:a"], []⟩ (some 0) (some 1) ["owner"])).outcome {} =
            (.ok (), ⟨log, [recordsLine .json .tag [.object [("id", .whole 7)]]]⟩)) ∧
      (perform surroundings (.ok { auth := { mode := .none } }) .json
        (.list ⟨.tag, ["name"], []⟩ none none ["owner"])).outcome {} =
          (.error (ClauseFault.form "name").error, {}) := by
  let surroundings : Surroundings := {
    files := ⟨[], []⟩
    environment := []
    now := .epoch
    network := ⟨fun _ => 0, fun log _ => .received 200
      (if log = [] then "\x7b\"data\":[1]\x7d" else "\x7b\"data\":[\x7b\"id\":7\x7d]\x7d")⟩ }
  let site : Site := ⟨"https://app.threatconnect.com/api", .none⟩
  have reached : Site.ofSettings { auth := { mode := .none } } = .ok site := by
    have found : (Site.ofSettings { auth := { mode := .none } }).toOption = some site := by
      decide +kernel
    cases reached : Site.ofSettings { auth := { mode := .none } } with
    | error error =>
        rw [reached] at found
        cases found
    | ok reached =>
        rw [reached] at found
        exact congrArg Except.ok (Option.some.inj found)
  have refused := (list_prints_first_records surroundings _ site .json
    ⟨.tag, ["name"], []⟩ none none ["owner"] reached).1
  have accepted := (list_prints_first_records surroundings _ site .json
    ⟨.tag, ["name:eq:a"], []⟩ (some 0) (some 1) ["owner"] reached).2
  obtain ⟨query, selected, -, -, prints, -⟩ := accepted (by decide +kernel)
  have same : (select .epoch ⟨.tag, ["name:eq:a"], []⟩ .empty).toOption =
      some { clauses := [⟨"name", .equal, .text "a", .text⟩] } := by
    decide +kernel
  rw [selected] at same
  obtain rfl := Option.some.inj same
  let settings : Settings := { auth := { mode := .none } }
  let collection := listedBy settings ⟨.tag, ["name:eq:a"], []⟩ (some 0) ["owner"]
    { clauses := [⟨"name", .equal, .text "a", .text⟩] }
  let server := site.server surroundings.network
  let entity : Entity := ⟨.tag, some 7, none, none, none, none, ()⟩
  obtain ⟨run, ran⟩ : ∃ run,
      (Pager.repeated (Pager.nextEntity server .tag 2) 1 collection.walk).run [] = run := ⟨_, rfl⟩
  have steps : run.1.1 = [.item entity] := by
    rw [← ran]
    decide +kernel
  have length : run.2.length = 2 := by
    rw [← ran]
    decide +kernel
  have walks : collection.WalksEntities server ([entity].map .item) run.1.2 run.2 :=
    ⟨by simp, 2, ran.trans (congrArg (fun steps => ((steps, run.1.2), run.2)) steps)⟩
  have enough : run.2.length ≤ surroundings.budget := by
    rw [length]
    decide
  have printed := prints (.ok [entity]) run.2 (.wanted walks rfl) enough
  have written : entity.toJson = .object [("id", .whole 7)] := by decide +kernel
  refine ⟨surroundings, ⟨run.2, length, ?_⟩, (refused _ (by decide +kernel)).1⟩
  rw [← written]
  exact printed

end Command
end ThreatIntel
