import ThreatIntel.Collection.Walk
import ThreatIntel.Proofs.Collection.Next

/-!
# Servers that keep a list

A server that keeps a list of records sends the part of it that a request asks for. A pager on such
a server turns the pages of the list: what it has ahead of it, in its buffer and on the server, is
the same after a page as before it, and one request less is pending.
-/

namespace ThreatIntel

/-- The server keeps a list of records: it answers every request to read with the part of the list
that the request asks for, of at most ten thousand records. -/
def Server.Keeps (server : Server) (records : List Json) : Prop :=
  ∀ (log : List Request) (request : Request) (start limit : Nat),
    request.method = .get →
      request.queryValue? "resultStart" = some (String.ofList (Text.natDigits start)) →
      request.queryValue? "resultLimit" = some (String.ofList (Text.natDigits limit)) →
      server.answer log request =
        .ok ⟨200, .object [("data", .array ((records.drop start).take (min limit 10000)))]⟩

/-- The server that keeps a list of records, and reads off a request which part it asks for. -/
def Server.keeping (records : List Json) : Server where
  answer _ request :=
    let number (name : String) : Option Nat :=
      (request.queryValue? name).bind fun value => Text.readNat? value.toList
    let start := (number "resultStart").getD 0
    let limit := (number "resultLimit").getD 100
    .ok ⟨200, .object [("data", .array ((records.drop start).take (min limit 10000)))]⟩

theorem Server.keeping_keeps (records : List Json) : (keeping records).Keeps records := by
  intro log request start limit _ starts limits
  simp [keeping, starts, limits]

/-- The limit of a window lies within the bounds of a page. -/
def Window.Bounded (window : Window) : Prop :=
  1 ≤ window.limit.toNat ∧ window.limit.toNat ≤ 10000

theorem Window.toNat_clampLimit (limit : UInt32) :
    (clampLimit limit).toNat = max 1 (min limit.toNat 10000) := by
  unfold clampLimit greatestLimit
  split
  · next below =>
      have bound : limit.toNat < 1 := below
      simp
      omega
  · next atLeast =>
      have positive : ¬limit.toNat < 1 := atLeast
      split
      · next above =>
          have bound : 10000 < limit.toNat := above
          simp
          omega
      · next atMost =>
          have bound : ¬10000 < limit.toNat := atMost
          omega

theorem Window.bounded_clamped (window : Window) : window.clamped.Bounded := by
  have limit := toNat_clampLimit window.limit
  unfold Bounded clamped
  simp only
  omega

namespace Pager

/-- The records that the pager has ahead of it: those in its buffer, and those that the server keeps
behind its offset. -/
def ahead (records : List Json) (pager : Pager) : List Json :=
  pager.buffer ++ if pager.phase.isOver then [] else records.drop pager.offset.toNat

/-- The number of requests that the pager has still to send: one for each full page, and one for the
short page at the end. -/
def pending (records : List Json) (pager : Pager) : Nat :=
  if pager.phase.isOver then 0
  else (records.length - pager.offset.toNat) / pager.window.limit.toNat + 1

section Keeps

variable
  {server : Server}
  {records : List Json}

theorem ahead_of_over
    {pager : Pager}
    (isOver : pager.phase.isOver = true) :
    ahead records pager = pager.buffer := by
  simp [ahead, isOver]

theorem ahead_of_running
    {pager : Pager}
    (running : pager.phase.isOver = false) :
    ahead records pager = pager.buffer ++ records.drop pager.offset.toNat := by
  simp [ahead, running]

theorem pending_of_over
    {pager : Pager}
    (isOver : pager.phase.isOver = true) :
    pending records pager = 0 := by
  simp [pending, isOver]

theorem pending_of_running
    {pager : Pager}
    (running : pager.phase.isOver = false) :
    pending records pager =
      (records.length - pager.offset.toNat) / pager.window.limit.toNat + 1 := by
  simp [pending, running]

/-- Only a walk that is over has no request to send. -/
theorem isOver_of_pending_eq_zero
    {pager : Pager}
    (nothing : pending records pager = 0) :
    pager.phase.isOver = true := by
  cases isOver : pager.phase.isOver with
  | true => rfl
  | false => simp [pending_of_running isOver] at nothing

/-- The page that comes in is the next part of the list. -/
theorem page_of_keeps
    (keeps : server.Keeps records)
    (pager : Pager)
    (bounded : pager.window.Bounded)
    (log : List Request) :
    server.page pager.endpoint log pager.request =
      .ok ((records.drop pager.offset.toNat).take pager.window.limit.toNat) := by
  have start : pager.request.queryValue? "resultStart" =
      some (String.ofList (Text.natDigits pager.offset.toNat)) := by
    by_cases blank : pager.query = "" <;>
      simp [request, Request.get, Request.queryValue?, Window.query, blank, List.lookup_cons]
  have limit : pager.request.queryValue? "resultLimit" =
      some (String.ofList (Text.natDigits pager.window.limit.toNat)) := by
    by_cases blank : pager.query = "" <;>
      simp [request, Request.get, Request.queryValue?, Window.query, blank, List.lookup_cons]
  rw [Server.page, keeps log pager.request _ _ rfl start limit, Nat.min_eq_left bounded.2]
  rfl

/-- The pager when the next part of the list has come in. -/
def turned (records : List Json) (pager : Pager) : Pager :=
  pager.drained.awaiting.received
    ((records.drop pager.offset.toNat).take pager.window.limit.toNat)

/-- The length of the next part of the list. -/
theorem length_next_part (records : List Json) (offset limit : Nat) :
    ((records.drop offset).take limit).length = min limit (records.length - offset) := by
  rw [List.length_take, List.length_drop]

/-- The last part of the list is the one with which the pager ends. -/
theorem isOver_turned
    (pager : Pager)
    (bounded : pager.window.Bounded) :
    (turned records pager).phase.isOver = true ↔
      records.length - pager.offset.toNat < pager.window.limit.toNat := by
  have positive : 1 ≤ pager.window.limit.toNat := bounded.1
  have length := length_next_part records pager.offset.toNat pager.window.limit.toNat
  have phase : (turned records pager).phase =
      if min pager.window.limit.toNat (records.length - pager.offset.toNat) = 0 ∨
          min pager.window.limit.toNat (records.length - pager.offset.toNat) <
            pager.window.limit.toNat then .exhausted
      else .hasPage := by
    rw [← length]
    rfl
  rw [phase]
  split
  · simp only [Phase.isOver, true_iff]
    omega
  · simp only [Phase.isOver, Bool.false_eq_true, false_iff]
    omega

/-- A part with which the pager does not end is full. -/
theorem limit_le_of_running_turned
    (pager : Pager)
    (bounded : pager.window.Bounded)
    (running : (turned records pager).phase.isOver = false) :
    pager.window.limit.toNat ≤ records.length - pager.offset.toNat := by
  have notShort : ¬records.length - pager.offset.toNat < pager.window.limit.toNat := by
    rw [← isOver_turned pager bounded, running]
    simp
  exact Nat.le_of_not_lt notShort

/-- A full part moves the offset on by its length; the greatest offset there is is not reached,
because the list is shorter. -/
theorem offset_turned
    (small : records.length < UInt32.size)
    (pager : Pager)
    (bounded : pager.window.Bounded)
    (running : (turned records pager).phase.isOver = false) :
    (turned records pager).offset.toNat = pager.offset.toNat + pager.window.limit.toNat := by
  have positive : 1 ≤ pager.window.limit.toNat := bounded.1
  have full := limit_le_of_running_turned pager bounded running
  have length := length_next_part records pager.offset.toNat pager.window.limit.toNat
  have offset : (turned records pager).offset =
      UInt32.ofNat (min (pager.offset.toNat +
        min pager.window.limit.toNat (records.length - pager.offset.toNat)) (UInt32.size - 1)) := by
    rw [← length]
    rfl
  rw [offset, UInt32.toNat_ofNat']
  unfold UInt32.size at *
  omega

/-- A page that comes in takes nothing away from what the pager has ahead of it on the server. -/
theorem ahead_turned
    (small : records.length < UInt32.size)
    (pager : Pager)
    (bounded : pager.window.Bounded) :
    ahead records (turned records pager) = records.drop pager.offset.toNat := by
  have buffer : (turned records pager).buffer =
      (records.drop pager.offset.toNat).take pager.window.limit.toNat := rfl
  cases isOver : (turned records pager).phase.isOver with
  | true =>
      have short := (isOver_turned pager bounded).mp isOver
      have whole : (records.drop pager.offset.toNat).length ≤ pager.window.limit.toNat := by
        rw [List.length_drop]
        omega
      rw [ahead_of_over isOver, buffer, List.take_of_length_le whole]
  | false =>
      rw [ahead_of_running isOver, buffer, offset_turned small pager bounded isOver,
        ← List.drop_drop, List.take_append_drop]

/-- A page that comes in is one request less to send. -/
theorem pending_turned
    (small : records.length < UInt32.size)
    (pager : Pager)
    (bounded : pager.window.Bounded)
    (running : pager.phase.isOver = false) :
    pending records (turned records pager) + 1 = pending records pager := by
  have window : (turned records pager).window = pager.window := rfl
  rw [pending_of_running running]
  cases isOver : (turned records pager).phase.isOver with
  | true =>
      have short := (isOver_turned pager bounded).mp isOver
      rw [pending_of_over isOver, Nat.div_eq_of_lt short]
  | false =>
      have full := limit_le_of_running_turned pager bounded isOver
      have next := Nat.div_eq_sub_div bounded.1 full
      rw [pending_of_running isOver, offset_turned small pager bounded isOver, window,
        ← Nat.sub_sub, next]

theorem run_fetch_of_keeps
    (keeps : server.Keeps records)
    (pager : Pager)
    (bounded : pager.window.Bounded)
    (log : List Request) :
    (pager.drained.fetch server).run log =
      ((.ok (), turned records pager), log ++ [pager.request]) := by
  have page : server.page pager.drained.endpoint log pager.drained.request =
      .ok ((records.drop pager.offset.toNat).take pager.window.limit.toNat) :=
    page_of_keeps keeps pager.drained bounded log
  rw [run_fetch, page]
  rfl

end Keeps

end Pager
end ThreatIntel
