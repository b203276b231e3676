import ThreatIntel.Proofs.Collection.History

/-!
# Offsets of requests

A pager asks for its first page at the start of its window. Every page that is followed by another
request came in with records, and the next request asks for what comes behind them, as far as an
offset can count. From the greatest offset on there is nothing behind, and a pager whose server goes
on sending full pages asks for the same page over and over.
-/

namespace ThreatIntel

/-- The request asks for the records behind a number of others. -/
def Request.AsksFrom (request : Request) (offset : Nat) : Prop :=
  request.values "resultStart" = [String.ofList (Text.natDigits offset)]

instance (request : Request) (offset : Nat) : Decidable (request.AsksFrom offset) :=
  inferInstanceAs (Decidable (request.values "resultStart" = _))

/-- A request asks for one offset. -/
theorem Request.AsksFrom.unique
    {request : Request}
    {first second : Nat}
    (asksFirst : request.AsksFrom first)
    (asksSecond : request.AsksFrom second) :
    first = second := by
  have texts := asksFirst.symm.trans asksSecond
  have digits : Text.natDigits first = Text.natDigits second :=
    String.ofList_injective (List.singleton_inj.mp texts)
  have numbers := congrArg Text.readNat? digits
  rw [Text.readNat?_natDigits, Text.readNat?_natDigits] at numbers
  exact Option.some.inj numbers

theorem Window.ne_nil_of_not_short
    (window : Window)
    {records : List Json}
    (full : ¬window.Short records) :
    records ≠ [] := by
  rintro rfl
  exact full (.inl rfl)

theorem Server.length_pagesAfter
    (server : Server)
    (endpoint : String)
    (earlier log : List Request) :
    (server.pagesAfter endpoint earlier log).length = log.length := by
  induction log generalizing earlier with
  | nil => rfl
  | cons request log inductionHypothesis => simp [pagesAfter, inductionHypothesis]

/-- Every request has its page. -/
@[simp] theorem Server.length_pages
    (server : Server)
    (endpoint : String)
    (log : List Request) :
    (server.pages endpoint log).length = log.length :=
  server.length_pagesAfter endpoint [] log

namespace Pager

/-! ## Offsets -/

/-- The request that a walk sends at an offset. -/
def requestFrom (endpoint query : String) (window : Window) (offset : UInt32) : Request :=
  { start endpoint query window with offset := offset }.request

theorem request_eq_requestFrom (pager : Pager) :
    pager.request = requestFrom pager.endpoint pager.query pager.window pager.offset := rfl

theorem requestFrom_asksFrom
    (endpoint query : String)
    (window : Window)
    (offset : UInt32) :
    (requestFrom endpoint query window offset).AsksFrom offset.toNat := by
  unfold Request.AsksFrom
  by_cases blank : query = "" <;>
    simp [Request.values, requestFrom, request, start, Request.get, Window.query, blank,
      List.filter_map, Function.comp_def]

theorem toNat_advance (offset : UInt32) (received : Nat) :
    (advance offset received).toNat = min (offset.toNat + received) (UInt32.size - 1) := by
  rw [advance, UInt32.toNat_ofNat']
  unfold UInt32.size
  omega

/-- The offset behind a page; one that failed moves nothing. -/
def behind (offset : UInt32) : Except Error (List Json) → UInt32
  | .ok records => advance offset records.length
  | .error _ => offset

/-- The offset behind the pages that were sent, from the start of the window on. -/
def offsetAfter (window : Window) (pages : List (Except Error (List Json))) : UInt32 :=
  pages.foldl behind window.start

@[simp] theorem offsetAfter_append
    (window : Window)
    (pages : List (Except Error (List Json)))
    (page : Except Error (List Json)) :
    offsetAfter window (pages ++ [page]) = behind (offsetAfter window pages) page := by
  simp [offsetAfter]

/-! ## What any number of calls keeps -/

/-- Where the requests of a history ask, and where its pager goes on. -/
structure Located
    (server : Server)
    (endpoint query : String)
    (window : Window)
    (history : History) : Prop where
  /-- The pager goes on behind all pages. -/
  offset : history.pager.offset = offsetAfter window (server.pages endpoint history.log)
  /-- A request asks for what comes behind the pages before it. -/
  requests : ∀ (index : Nat) (request : Request),
    history.log[index]? = some request →
      request = requestFrom endpoint query window
        (offsetAfter window ((server.pages endpoint history.log).take index))
  /-- The pages before the last one are full. -/
  full : ∀ index, index + 1 < history.log.length →
    ∃ records, (server.pages endpoint history.log)[index]? = some (.ok records) ∧
      ¬window.Short records

/-- As long as another page is asked for, the last one was full. -/
theorem Stands.exists_full
    {window : Window}
    {phase : Phase}
    {buffer : List Json}
    {pages : List (Except Error (List Json))}
    {index : Nat}
    (stands : Stands window phase buffer pages)
    (running : phase.isOver = false)
    (isLast : index + 1 = pages.length) :
    ∃ records, pages[index]? = some (.ok records) ∧ ¬window.Short records := by
  cases stands with
  | created => cases isLast
  | @hasPage received last _ full =>
      have index_eq : index = received.length := by simpa using isLast
      refine ⟨last, ?_, full⟩
      simp [index_eq]
  | exhausted _ => cases running
  | errored => cases running

theorem located_start
    (server : Server)
    (endpoint query : String)
    (window : Window) :
    Located server endpoint query window (history server (start endpoint query window) 0) where
  offset := rfl
  requests := by simp [history]
  full := by simp [history]

/-- One more request, for the page behind those that were sent, keeps every request in its place,
whatever the server sends for it. -/
theorem Located.sent
    {server : Server}
    {endpoint query : String}
    {window : Window}
    {before : History}
    {answers : List (Option (Except Error Json))}
    {pager : Pager}
    (consistent : Consistent server endpoint query window before)
    (located : Located server endpoint query window before)
    (running : before.pager.phase.isOver = false)
    (moved : pager.offset =
      behind before.pager.offset (server.page endpoint before.log before.pager.request)) :
    Located server endpoint query window
      ⟨answers, pager, before.log ++ [before.pager.request]⟩ where
  offset := by rw [moved, Server.pages_append, offsetAfter_append, located.offset]
  requests := by
    intro index request asked
    have within : index ≤ (server.pages endpoint before.log).length := by
      have bound := (List.getElem?_eq_some_iff.mp asked).1
      rw [List.length_append, List.length_singleton] at bound
      rw [Server.length_pages]
      exact Nat.le_of_lt_succ bound
    simp only [Server.pages_append, List.take_append_of_le_length within]
    rcases Nat.lt_or_eq_of_le within with old | new
    · rw [Server.length_pages] at old
      apply located.requests
      simpa only [List.getElem?_append_left old] using asked
    · have index_eq : index = before.log.length := by simpa using new
      have request_eq : request = before.pager.request := by simpa [index_eq] using asked.symm
      rw [request_eq, request_eq_requestFrom, consistent.endpoint_eq, consistent.query_eq,
        consistent.window_eq, located.offset, new, List.take_length]
  full := by
    intro index earlier
    have within : index < (server.pages endpoint before.log).length := by simpa using earlier
    simp only [Server.pages_append, List.getElem?_append_left within]
    rcases Nat.lt_or_eq_of_le (Nat.succ_le_of_lt within) with inner | isLast
    · exact located.full index (by simpa using inner)
    · exact consistent.stands.exists_full running isLast

/-- Every call keeps the requests and the pager located. -/
theorem Located.next
    {server : Server}
    {endpoint query : String}
    {window : Window}
    {before : History}
    {answer : Option (Except Error Json)}
    {pager : Pager}
    {log : List Request}
    (consistent : Consistent server endpoint query window before)
    (located : Located server endpoint query window before)
    (way : Next server before.pager before.log answer pager log) :
    Located server endpoint query window ⟨before.answers ++ [answer], pager, log⟩ := by
  have endpoint_eq := consistent.endpoint_eq
  cases way with
  | handed held => exact ⟨located.offset, located.requests, located.full⟩
  | ended empty isOver => exact ⟨located.offset, located.requests, located.full⟩
  | failed empty running page =>
      rw [endpoint_eq] at page
      exact located.sent consistent running (by rw [page]; rfl)
  | received empty running page =>
      rw [endpoint_eq] at page
      exact located.sent consistent running (by rw [page]; rfl)

theorem located
    (server : Server)
    (endpoint query : String)
    (window : Window)
    (count : Nat) :
    Located server endpoint query window
      (history server (start endpoint query window) count) := by
  induction count with
  | zero => exact located_start server endpoint query window
  | succ count inductionHypothesis =>
      exact inductionHypothesis.next (consistent server endpoint query window count)
        (next_cases server _ _)

/-! ## Requests in a row -/

/-- Of two requests in a row the page between them came in full, and the later one asks for the
offset behind it. -/
theorem Located.in_a_row
    {server : Server}
    {endpoint query : String}
    {window : Window}
    {run : History}
    {index : Nat}
    {earlier later : Request}
    (located : Located server endpoint query window run)
    (asked : run.log[index]? = some earlier)
    (asks : run.log[index + 1]? = some later) :
    ∃ (offset : UInt32) (records : List Json),
      earlier = requestFrom endpoint query window offset ∧
        (server.pages endpoint run.log)[index]? = some (.ok records) ∧
        ¬window.Short records ∧
        later = requestFrom endpoint query window (advance offset records.length) := by
  obtain ⟨records, page, full⟩ := located.full index (List.getElem?_eq_some_iff.mp asks).1
  refine ⟨_, records, located.requests index earlier asked, page, full, ?_⟩
  rw [located.requests (index + 1) later asks, List.take_add_one, page]
  simp [behind]

/-- A walk asks for its first page at the start of its window. Of two requests in a row, the page in
between came in with records, and the later request asks for the offset behind them, held at the
greatest offset there is; it is the earlier request again exactly when this asked for the greatest
offset already. -/
theorem requests_advance
    (server : Server)
    (endpoint query : String)
    (window : Window)
    (count : Nat) :
    let run := history server (start endpoint query window) count
    (∀ first, run.log[0]? = some first → first.AsksFrom window.start.toNat) ∧
      ∀ index earlier later,
        run.log[index]? = some earlier → run.log[index + 1]? = some later →
          ∃ offset records,
            offset < UInt32.size ∧ earlier.AsksFrom offset ∧
              (server.pages endpoint run.log)[index]? = some (.ok records) ∧ records ≠ [] ∧
              later.AsksFrom (min (offset + records.length) (UInt32.size - 1)) ∧
              (later = earlier ↔ offset = UInt32.size - 1) := by
  intro run
  have holds : Located server endpoint query window run :=
    located server endpoint query window count
  refine ⟨?_, ?_⟩
  · intro first asked
    rw [holds.requests 0 first asked]
    exact requestFrom_asksFrom endpoint query window window.start
  · intro index earlier later asked asks
    obtain ⟨offset, records, earlier_eq, page, full, later_eq⟩ := holds.in_a_row asked asks
    have positive : 0 < records.length := List.length_pos_iff.mpr (window.ne_nil_of_not_short full)
    have bound := offset.toNat_lt_size
    have moved := toNat_advance offset records.length
    have before : earlier.AsksFrom offset.toNat :=
      earlier_eq ▸ requestFrom_asksFrom endpoint query window offset
    have behind : later.AsksFrom (min (offset.toNat + records.length) (UInt32.size - 1)) :=
      moved ▸ later_eq ▸ requestFrom_asksFrom endpoint query window _
    refine ⟨offset.toNat, records, bound, before, page, List.length_pos_iff.mp positive, behind,
      ?_, ?_⟩
    · rintro rfl
      have same := before.unique behind
      omega
    · intro greatest
      have stays : advance offset records.length = offset := by
        apply UInt32.toNat_inj.mp
        rw [moved]
        omega
      rw [later_eq, stays, earlier_eq]

/-- A server that sends a page with one record, and then one with none. -/
def oneRecord : Server :=
  .ofAnswers
    [.ok ⟨200, .object [("data", .array [.number (.whole 1)])]⟩,
      .ok ⟨200, .object [("data", .array [])]⟩]

/-- Two requests of a walk that begins one record before the greatest offset. -/
theorem requests_advance_of_one_record :
    let window : Window := ⟨1, 4294967294, []⟩
    let run := history oneRecord (start "/v3/tags" "" window) 2
    let earlier := requestFrom "/v3/tags" "" window 4294967294
    let later := requestFrom "/v3/tags" "" window 4294967295
    run.log[0]? = some earlier ∧ run.log[1]? = some later ∧
      ∃ offset records,
        offset < UInt32.size ∧ earlier.AsksFrom offset ∧
          (oneRecord.pages "/v3/tags" run.log)[0]? = some (.ok records) ∧ records ≠ [] ∧
          later.AsksFrom (min (offset + records.length) (UInt32.size - 1)) ∧
          (later = earlier ↔ offset = UInt32.size - 1) := by
  intro window run earlier later
  have asked : run.log[0]? = some earlier := by decide +kernel
  have asks : run.log[1]? = some later := by decide +kernel
  exact ⟨asked, asks, (requests_advance oneRecord "/v3/tags" "" window 2).2 0 earlier later
    asked asks⟩

/-- Not every request asks for what comes behind the page before it: a walk that begins at the
greatest offset asks for the same page again. -/
theorem not_requests_advance_behind_every_page :
    ¬∀ (server : Server) (endpoint query : String) (window : Window) (count index offset : Nat)
        (earlier later : Request) (records : List Json),
      let run := history server (start endpoint query window) count
      run.log[index]? = some earlier → run.log[index + 1]? = some later →
        earlier.AsksFrom offset → (server.pages endpoint run.log)[index]? = some (.ok records) →
          later.AsksFrom (offset + records.length) := by
  intro always
  let window : Window := ⟨1, 4294967295, []⟩
  let request := requestFrom "/v3/tags" "" window 4294967295
  have beyond : request.AsksFrom 4294967296 :=
    always oneRecord "/v3/tags" "" window 2 0 4294967295 request request [.number (.whole 1)]
      (by decide +kernel) (by decide +kernel) (by decide +kernel) (by rfl)
  exact absurd beyond (by decide +kernel)

end Pager
end ThreatIntel
