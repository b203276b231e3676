import ThreatIntel.Proofs.Collection.Next

/-!
# Histories of a pager

What any number of calls on a pager leads to, whatever the server answers: the answers to the calls,
the pager, and the requests that were sent. The pages that the server sent for these requests are
the measure of the rest. What has been handed out and what is still in the buffer make up the
records of these pages, in order, with the error of the last page at the end if it failed.
-/

namespace ThreatIntel

/-- The values under a name, in order. -/
def Request.values (request : Request) (name : String) : List String :=
  (request.query.filter fun pair => pair.1 == name).map (·.2)

/-- A page after which there is no other: it is empty, or has fewer records than asked for. -/
def Window.Short (window : Window) (page : List Json) : Prop :=
  page.length = 0 ∨ page.length < window.limit.toNat

/-- What the server sent for the requests of a log that follows an earlier one. -/
def Server.pagesAfter
    (server : Server)
    (endpoint : String) :
    (earlier log : List Request) → List (Except Error (List Json))
  | _, [] => []
  | earlier, request :: log =>
      server.page endpoint earlier request :: pagesAfter server endpoint (earlier ++ [request]) log

/-- What the server sent for the requests of a log. -/
def Server.pages
    (server : Server)
    (endpoint : String)
    (log : List Request) : List (Except Error (List Json)) :=
  server.pagesAfter endpoint [] log

@[simp] theorem Server.pages_nil (server : Server) (endpoint : String) :
    server.pages endpoint [] = [] := rfl

theorem Server.pagesAfter_append
    (server : Server)
    (endpoint : String)
    (earlier log : List Request)
    (request : Request) :
    server.pagesAfter endpoint earlier (log ++ [request]) =
      server.pagesAfter endpoint earlier log ++
        [server.page endpoint (earlier ++ log) request] := by
  induction log generalizing earlier with
  | nil => simp [pagesAfter]
  | cons first log inductionHypothesis => simp [pagesAfter, inductionHypothesis]

@[simp] theorem Server.pages_eq_nil_iff
    (server : Server)
    (endpoint : String)
    (log : List Request) :
    server.pages endpoint log = [] ↔ log = [] := by
  cases log <;> simp [pages, pagesAfter]

/-- One more request adds the page that was sent for it. -/
@[simp] theorem Server.pages_append
    (server : Server)
    (endpoint : String)
    (log : List Request)
    (request : Request) :
    server.pages endpoint (log ++ [request]) =
      server.pages endpoint log ++ [server.page endpoint log request] :=
  server.pagesAfter_append endpoint [] log request

namespace Pager

/-- All that pages hold: their records, and the errors of those that failed. -/
def itemsOf (pages : List (Except Error (List Json))) : List (Except Error Json) :=
  pages.flatMap fun
    | .ok records => records.map .ok
    | .error error => [.error error]

@[simp] theorem itemsOf_append (earlier later : List (Except Error (List Json))) :
    itemsOf (earlier ++ later) = itemsOf earlier ++ itemsOf later :=
  List.flatMap_append

@[simp] theorem itemsOf_nil : itemsOf [] = [] := rfl

@[simp] theorem itemsOf_page (records : List Json) :
    itemsOf [.ok records] = records.map .ok := by
  simp [itemsOf]

@[simp] theorem itemsOf_error (error : Error) : itemsOf [.error error] = [.error error] := rfl

@[simp] theorem itemsOf_ok (pages : List (List Json)) :
    itemsOf (pages.map .ok) = pages.flatten.map .ok := by
  induction pages with
  | nil => rfl
  | cons page pages inductionHypothesis =>
      simp only [itemsOf, List.map_cons, List.flatMap_cons, List.flatten_cons, List.map_append]
      rw [← inductionHypothesis, itemsOf]

/-- What a number of calls on a pager lead to. -/
structure History where
  /-- The answers to the calls, in order. -/
  answers : List (Option (Except Error Json))
  /-- The pager. -/
  pager : Pager
  /-- The requests that were sent, in order. -/
  log : List Request

/-- The records and errors among the answers. -/
def History.items (history : History) : List (Except Error Json) :=
  history.answers.filterMap id

theorem History.items_answered
    (before : History)
    (answer : Option (Except Error Json))
    (pager : Pager)
    (log : List Request) :
    History.items ⟨before.answers ++ [answer], pager, log⟩ = before.items ++ answer.toList := by
  unfold items
  cases answer <;> simp [List.filterMap_append]

/-- What a number of calls on a pager lead to, if no request was sent before. -/
def history (server : Server) (pager : Pager) : (count : Nat) → History
  | 0 => ⟨[], pager, []⟩
  | count + 1 =>
      let before := history server pager count
      let after := (before.pager.next server).run before.log
      ⟨before.answers ++ [after.1.1], after.1.2, after.2⟩

/-- A request asks for a page of a collection: it names the query if there is one, the limit and the
extra fields. -/
structure Asks (endpoint query : String) (window : Window) (request : Request) : Prop where
  /-- It reads. -/
  method : request.method = .get
  /-- It goes to the collection. -/
  path : request.path = endpoint
  /-- It carries no data. -/
  body : request.body = none
  /-- It carries the query, unless this is empty. -/
  query : request.values "tql" = if query = "" then [] else [query]
  /-- It carries the limit of the window. -/
  limit : request.values "resultLimit" = [String.ofList (Text.natDigits window.limit.toNat)]
  /-- It carries the extra fields of the window. -/
  fields : request.values "fields" = window.fields

/-- How the phase and the buffer of a pager stand to the pages it has received. -/
inductive Stands (window : Window) :
    Phase → List Json → List (Except Error (List Json)) → Prop
  | created : Stands window .created [] []
  | hasPage
      {received : List (List Json)}
      {last buffer : List Json}
      (full : ¬window.Short last) :
      Stands window .hasPage buffer ((received ++ [last]).map .ok)
  | exhausted
      {received : List (List Json)}
      {last buffer : List Json}
      (short : window.Short last) :
      Stands window .exhausted buffer ((received ++ [last]).map .ok)
  | errored
      {received : List (List Json)}
      {error : Error} :
      Stands window .errored [] (received.map .ok ++ [.error error])

/-- What holds after any number of calls. -/
structure Consistent
    (server : Server)
    (endpoint query : String)
    (window : Window)
    (history : History) : Prop where
  /-- The collection, the query and the window stay. -/
  endpoint_eq : history.pager.endpoint = endpoint
  query_eq : history.pager.query = query
  window_eq : history.pager.window = window
  /-- What is handed out and what is in the buffer make up the pages. -/
  items : history.items ++ history.pager.buffer.map .ok =
    itemsOf (server.pages endpoint history.log)
  /-- Every request is counted. -/
  fetches : history.pager.fetches = history.log.length
  /-- Every request asks for a page of the collection. -/
  asks : ∀ request ∈ history.log, Asks endpoint query window request
  /-- The phase tells of the last page. -/
  stands : Stands window history.pager.phase history.pager.buffer
    (server.pages endpoint history.log)

/-! ## One call -/

theorem request_asks (pager : Pager) :
    Asks pager.endpoint pager.query pager.window pager.request := by
  refine ⟨rfl, rfl, rfl, ?_, ?_, ?_⟩ <;>
    by_cases blank : pager.query = "" <;>
      simp [Request.values, request, Request.get, Window.query, blank, List.filter_map,
        Function.comp_def]

/-- Before the end all pages have come in. -/
theorem Stands.exists_received
    {window : Window}
    {phase : Phase}
    {buffer : List Json}
    {pages : List (Except Error (List Json))}
    (stands : Stands window phase buffer pages)
    (running : phase.isOver = false) :
    ∃ received : List (List Json), pages = received.map .ok := by
  cases stands with
  | created => exact ⟨[], rfl⟩
  | hasPage _ => exact ⟨_, rfl⟩
  | exhausted _ => cases running
  | errored => cases running

/-- Handing out a record of the buffer does not change how it stands to the pages. -/
theorem Stands.tail
    {window : Window}
    {phase : Phase}
    {record : Json}
    {buffer : List Json}
    {pages : List (Except Error (List Json))}
    (stands : Stands window phase (record :: buffer) pages) :
    Stands window phase buffer pages := by
  cases stands with
  | hasPage full => exact .hasPage full
  | exhausted short => exact .exhausted short

/-- A page that comes in leaves the phase that it tells of. -/
theorem stands_received
    (pager : Pager)
    (received : List (List Json))
    (last buffer : List Json) :
    Stands pager.window (pager.received last).phase buffer ((received ++ [last]).map .ok) := by
  by_cases short : pager.window.Short last
  · have phase : (pager.received last).phase = .exhausted := if_pos short
    rw [phase]
    exact .exhausted short
  · have phase : (pager.received last).phase = .hasPage := if_neg short
    rw [phase]
    exact .hasPage short

/-- Nothing has happened at the start. -/
theorem consistent_start
    (server : Server)
    (endpoint query : String)
    (window : Window) :
    Consistent server endpoint query window (history server (start endpoint query window) 0) where
  endpoint_eq := rfl
  query_eq := rfl
  window_eq := rfl
  items := rfl
  fetches := rfl
  asks := by simp [history]
  stands := .created

/-- Every call keeps what holds: this is checked for each of the ways in which it can go. -/
theorem Consistent.next
    {server : Server}
    {endpoint query : String}
    {window : Window}
    {before : History}
    {answer : Option (Except Error Json)}
    {pager : Pager}
    {log : List Request}
    (consistent : Consistent server endpoint query window before)
    (way : Next server before.pager before.log answer pager log) :
    Consistent server endpoint query window ⟨before.answers ++ [answer], pager, log⟩ := by
  obtain ⟨rfl, rfl, rfl, items, fetches, asks, stands⟩ := consistent
  have asked : ∀ request ∈ before.log ++ [before.pager.request],
      Asks before.pager.endpoint before.pager.query before.pager.window request := by
    intro request member
    rcases List.mem_append.mp member with old | new
    · exact asks request old
    · rw [List.mem_singleton.mp new]
      exact before.pager.request_asks
  cases way with
  | @handed record buffer held =>
      rw [held] at items stands
      refine ⟨rfl, rfl, rfl, ?_, fetches, asks, stands.tail⟩
      simpa [History.items_answered] using items
  | ended empty isOver =>
      refine ⟨rfl, rfl, rfl, ?_, fetches, asks, stands⟩
      simpa [History.items_answered] using items
  | @failed error empty running page =>
      obtain ⟨received, pages⟩ := stands.exists_received running
      refine ⟨rfl, rfl, rfl, ?_, by simp [failed, awaiting, fetches], asked, ?_⟩
      · simp only [empty, List.map_nil, List.append_nil] at items
        simp [History.items_answered, items, failed, awaiting, empty, page]
      · simp only [Server.pages_append, page, pages, failed, awaiting, empty]
        exact .errored
  | @received records empty running page =>
      obtain ⟨received, pages⟩ := stands.exists_received running
      refine ⟨rfl, rfl, rfl, ?_, by simp [Pager.received, awaiting, fetches], asked, ?_⟩
      · simp only [empty, List.map_nil, List.append_nil] at items
        cases records <;> simp [History.items_answered, items, page]
      · have last : Stands before.pager.window (before.pager.awaiting.received records).phase
            records.tail ((received ++ [records]).map .ok) :=
          stands_received before.pager.awaiting received records records.tail
        simpa only [Server.pages_append, page, pages, List.map_append, List.map_cons,
          List.map_nil] using last

/-- Any number of calls keeps what holds at the start. -/
theorem consistent
    (server : Server)
    (endpoint query : String)
    (window : Window)
    (count : Nat) :
    Consistent server endpoint query window
      (history server (start endpoint query window) count) := by
  induction count with
  | zero => exact consistent_start server endpoint query window
  | succ count inductionHypothesis => exact inductionHypothesis.next (next_cases server _ _)

end Pager
end ThreatIntel
