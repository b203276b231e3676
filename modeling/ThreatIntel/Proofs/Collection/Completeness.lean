import ThreatIntel.Proofs.Collection.Agreement

/-!
# Walks are complete

A walk over a collection on a server that keeps a list of records hands out exactly the records that
can be read, from the start of its window on, each once and in order. Every page but the last is
full, so the number of requests is known beforehand: it is one more than the number of full pages.
The walk over the entities of the collection hands out the same records with the same requests.
-/

namespace ThreatIntel
namespace Pager

theorem length_answers (count : Nat) (readable : List α) :
    (answers count readable).length = count := by
  rw [answers, List.length_take, List.length_append, List.length_replicate]
  omega

theorem unfinished_notMem_answers (count : Nat) (readable : List α) :
    .unfinished ∉ answers count readable := by
  intro member
  rcases List.mem_append.mp (List.mem_of_mem_take member) with items | ends
  · obtain ⟨value, -, same⟩ := List.mem_map.mp items
    cases same
  · cases List.eq_of_mem_replicate ends

theorem map_answers (change : α → β) (count : Nat) (readable : List α) :
    (answers count readable).map (Step.map change) = answers count (readable.map change) := by
  simp [answers, List.map_take, Step.map, Function.comp_def]

end Pager

namespace Collection

/-- A walk over a collection hands out the records from the start of its window on that can be read,
in order and each once, and nothing else, whether it is drained or goes on step by step; and it
sends one request more than there are full pages. Step by step, the walk over entities hands out the
entities of these records, and leaves the same pager and the same requests. -/
theorem walk_complete
    {server : Server}
    {records : List Json}
    (keeps : server.Keeps records)
    (small : records.length < UInt32.size)
    (collection : Collection)
    (window : Window)
    (log : List Request)
    (budget : Nat)
    (enough : (records.length - window.start.toNat) / max 1 (min window.limit.toNat 10000) <
      budget) :
    let walk := (collection.withWindow window).walk
    let limit := max 1 (min window.limit.toNat 10000)
    let requestCount := (records.length - window.start.toNat) / limit + 1
    let readable := (records.drop window.start.toNat).filterMap collection.read
    let entities := readable.map (Entity.mk collection.resource)
    (∃ after requests,
      (Pager.drain server collection.read budget walk).run log =
          ((readable.map .ok, after), log ++ requests) ∧
        requests.length = requestCount ∧ after.phase.isOver = true ∧ after.buffer = []) ∧
    ∀ count, ∃ after requests,
      (Pager.steps server collection.read budget count walk).run log =
          (((readable.map Step.item ++ List.replicate count Step.ended).take count, after),
            log ++ requests) ∧
        (∃ fuel,
          (Pager.repeated (Pager.nextEntity server collection.resource fuel) count walk).run log =
            (((entities.map Step.item ++ List.replicate count Step.ended).take count, after),
              log ++ requests)) ∧
        requests.length ≤ requestCount ∧
        (readable.length < count → requests.length = requestCount) := by
  intro walk limit requestCount readable entities
  have bounded : walk.window.Bounded := window.bounded_clamped
  have ahead : walk.ahead records = records.drop window.start.toNat := rfl
  have pending : walk.pending records = requestCount := by
    have clamped : walk.window.limit.toNat = limit := Window.toNat_clampLimit window.limit
    show (records.length - window.start.toNat) / walk.window.limit.toNat + 1 = requestCount
    rw [clamped]
  have sufficient : walk.pending records ≤ budget := by
    rw [pending]
    exact enough
  refine ⟨?_, fun count => ?_⟩
  · obtain ⟨after, requests, run, sent, ends⟩ :=
      Pager.run_drain keeps small collection.read budget walk bounded sufficient log
    exact ⟨after, requests, by rw [run, ahead], by rw [sent, pending], ends⟩
  · obtain ⟨after, requests, run, sent, done⟩ :=
      Pager.run_steps keeps small collection.read budget count walk bounded sufficient log
    rw [pending] at sent
    rw [ahead] at run done
    have typed : (Pager.steps server collection.read budget (Pager.answers count readable).length
        walk).run log = ((Pager.answers count readable, after), log ++ requests) := by
      rw [Pager.length_answers, run]
    obtain ⟨fuel, called⟩ := exists_run_repeated_nextEntity collection
      (Pager.unfinished_notMem_answers count readable) typed
    rw [Pager.length_answers, Pager.map_answers] at called
    refine ⟨after, requests, run, ⟨fuel, called⟩, by omega, fun drained => ?_⟩
    have none := done drained
    omega

/-- Pages of one record, asked for by a limit of zero: a record that cannot be read comes after one
that can, and an empty page ends the walk. -/
theorem walk_complete_of_unreadable :
    let records : List Json := [.object [], .object [], .null, .object []]
    let server := Server.keeping records
    let collection : Collection := { resource := .tag }
    let window : Window := { limit := 0, start := 1 }
    let walk := (collection.withWindow window).walk
    let tag : Resource.tag.Record := Row.empty _
    server.Keeps records ∧ records.length < UInt32.size ∧
      (∃ after requests,
        (Pager.drain server collection.read 4 walk).run [] =
            (([.ok tag, .ok tag], after), requests) ∧
          requests.length = 4 ∧ after.phase.isOver = true ∧ after.buffer = []) ∧
      ∃ after requests fuel,
        (Pager.steps server collection.read 4 3 walk).run [] =
            (([.item tag, .item tag, .ended], after), requests) ∧
          (Pager.repeated (Pager.nextEntity server .tag fuel) 3 walk).run [] =
            (([.item ⟨.tag, tag⟩, .item ⟨.tag, tag⟩, .ended], after), requests) ∧
          requests.length = 4 := by
  intro records server collection window walk tag
  have keeps : server.Keeps records := Server.keeping_keeps records
  have small : records.length < UInt32.size := by decide
  have readable : (records.drop window.start.toNat).filterMap collection.read = [tag, tag] := by rfl
  have count : (records.length - window.start.toNat) / max 1 (min window.limit.toNat 10000) + 1 =
      4 := by decide
  have complete := walk_complete keeps small collection window [] 4 (by decide)
  obtain ⟨after, requests, run, sent, ends⟩ := complete.1
  obtain ⟨last, asked, steps, ⟨fuel, entities⟩, _, done⟩ := complete.2 3
  rw [readable] at run steps entities done
  exact ⟨keeps, small, ⟨after, requests, run, sent.trans count, ends⟩,
    ⟨last, asked, fuel, steps, entities, (done (by decide)).trans count⟩⟩

end Collection
end ThreatIntel
