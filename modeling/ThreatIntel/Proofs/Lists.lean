import Mathlib.Data.Fin.SuccPred
import Mathlib.Data.List.Forall2

/-!
# Lists

A list is converted item by item, and one item that cannot be converted is enough for the whole
list. A search for the only item of its kind finds it wherever it stands. A sorted list holds the
items that it held before, and those that may stand in any order stay in theirs.
-/

namespace ThreatIntel

variable {α β γ δ ε : Type}

theorem exists_of_mem_of_forall₂
    {related : α → β → Prop}
    {items : List α}
    {results : List β}
    (each : List.Forall₂ related items results)
    {item : α}
    (member : item ∈ items) :
    ∃ result ∈ results, related item result := by
  induction each with
  | nil => cases member
  | cons first rest inductionHypothesis =>
      rcases List.mem_cons.mp member with rfl | later
      · exact ⟨_, List.mem_cons_self, first⟩
      · obtain ⟨result, present, same⟩ := inductionHypothesis later
        exact ⟨result, List.mem_cons_of_mem _ present, same⟩

/-! ## Searches and places -/

/-- Where no two items meet a condition, the search for it finds any item that does. -/
theorem find?_eq_some_iff_of_unique
    {meets : α → Bool}
    {items : List α}
    (unique : ∀ one ∈ items, ∀ other ∈ items,
      meets one = true → meets other = true → one = other)
    {item : α} :
    items.find? meets = some item ↔ item ∈ items ∧ meets item = true := by
  constructor
  · intro found
    exact ⟨List.mem_of_find?_eq_some found, List.find?_some found⟩
  · rintro ⟨member, met⟩
    obtain ⟨first, found⟩ := Option.isSome_iff_exists.mp (List.find?_isSome.mpr ⟨item, member, met⟩)
    have same : first = item := unique first (List.mem_of_find?_eq_some found) item member
      (List.find?_some found) met
    rw [found, same]

section Places

variable
  {n : Nat}
  {places : List (Fin n)}

theorem succ_mem_map_succ {place : Fin n} : place.succ ∈ places.map Fin.succ ↔ place ∈ places :=
  List.mem_map_of_injective (Fin.succ_injective n)

theorem zero_notMem_map_succ : (0 : Fin (n + 1)) ∉ places.map Fin.succ := by
  simp [Fin.succ_ne_zero]

end Places

/-! ## Results or errors -/

theorem map_eq_ok_iff
    (before : Except ε α)
    (change : α → β)
    (result : β) :
    before.map change = .ok result ↔ ∃ value, before = .ok value ∧ change value = result := by
  cases before <;> simp [Except.map]

/-- A list is converted exactly when each of its items is. -/
theorem mapM_eq_ok_iff
    (convert : α → Except ε β)
    (items : List α)
    (results : List β) :
    items.mapM convert = .ok results ↔ items.map convert = results.map .ok := by
  induction items generalizing results with
  | nil => simp [pure, Except.pure, eq_comm]
  | cons item items inductionHypothesis =>
      rw [List.mapM_cons]
      cases results with
      | nil =>
          cases convert item <;> cases items.mapM convert <;>
            simp [bind, Except.bind, pure, Except.pure]
      | cons result results =>
          rw [List.map_cons, List.map_cons, List.cons.injEq, ← inductionHypothesis]
          cases convert item <;> cases items.mapM convert <;>
            simp [bind, Except.bind, pure, Except.pure]

theorem mapM_eq_ok_iff_forall₂
    {convert : α → Except ε β}
    {items : List α}
    {results : List β} :
    items.mapM convert = .ok results ↔
      List.Forall₂ (fun item result => convert item = .ok result) items results := by
  rw [mapM_eq_ok_iff, ← List.forall₂_eq_eq_eq, List.forall₂_map_left_iff,
    List.forall₂_map_right_iff]

/-- When each item is read and then written, a converted list has been read and then written. -/
theorem exists_values_of_mapM_eq_ok
    {convert : α → Except ε γ}
    {read : α → Except δ β}
    {write : β → γ}
    (steps : ∀ item result, convert item = .ok result →
      ∃ value, read item = .ok value ∧ write value = result)
    {items : List α}
    {results : List γ}
    (converted : items.mapM convert = .ok results) :
    ∃ values : List β, items.map read = values.map .ok ∧ values.map write = results := by
  rw [mapM_eq_ok_iff] at converted
  induction results generalizing items with
  | nil =>
      rw [List.map_nil, List.map_eq_nil_iff] at converted
      exact ⟨[], by simp [converted], rfl⟩
  | cons result results inductionHypothesis =>
      obtain ⟨item, rest, rfl, head, tail⟩ := List.map_eq_cons_iff.mp converted
      obtain ⟨value, reads, writes⟩ := steps item result head
      obtain ⟨values, allRead, allWritten⟩ := inductionHypothesis tail
      exact ⟨value :: values, by simp [reads, allRead], by simp [writes, allWritten]⟩

theorem map_ne
    {bad : ε}
    {result : Except ε α}
    (never : result ≠ .error bad)
    (change : α → β) :
    result.map change ≠ .error bad := by
  cases result with
  | ok value => simp [Except.map]
  | error cause => exact fun same => never (congrArg Except.error (Except.error.inj same))

/-- A list that is not converted holds an item that is not. -/
theorem exists_of_mapM_eq_error
    {convert : α → Except ε β}
    {items : List α}
    {cause : ε}
    (failed : items.mapM convert = .error cause) :
    ∃ item ∈ items, convert item = .error cause := by
  induction items with
  | nil => cases failed
  | cons item items inductionHypothesis =>
      rw [List.mapM_cons] at failed
      cases first : convert item with
      | error other =>
          rw [first] at failed
          cases failed
          exact ⟨item, List.mem_cons_self, first⟩
      | ok value =>
          rw [first] at failed
          cases rest : items.mapM convert with
          | error other =>
              simp only [bind, Except.bind, rest] at failed
              cases failed
              obtain ⟨later, member, fails⟩ := inductionHypothesis rest
              exact ⟨later, List.mem_cons_of_mem _ member, fails⟩
          | ok values =>
              simp only [bind, Except.bind, rest] at failed
              cases failed

theorem mapM_ne
    {bad : ε}
    {convert : α → Except ε β}
    (never : ∀ item, convert item ≠ .error bad)
    (items : List α) :
    items.mapM convert ≠ .error bad := by
  intro failed
  obtain ⟨item, -, fails⟩ := exists_of_mapM_eq_error failed
  exact never item fails

/-! ## Results or none -/

/-- A list is read exactly when each of its items is. -/
theorem mapM_eq_some_iff
    {read? : α → Option β}
    {items : List α}
    {results : List β} :
    items.mapM read? = some results ↔
      List.Forall₂ (fun item result => read? item = some result) items results := by
  induction items generalizing results with
  | nil => simp [eq_comm]
  | cons item items inductionHypothesis =>
      simp only [List.mapM_cons, Option.bind_eq_bind, Option.bind_eq_some_iff, Option.pure_def,
        Option.some.injEq, List.forall₂_cons_left_iff, inductionHypothesis]
      constructor
      · rintro ⟨result, first, others, rest, rfl⟩
        exact ⟨result, others, first, rest, rfl⟩
      · rintro ⟨result, others, first, rest, rfl⟩
        exact ⟨result, first, others, rest, rfl⟩

/-- Every item of a list has a result if the list has results. -/
theorem length_of_mapM
    {read? : α → Option β}
    {items : List α}
    {results : List β}
    (reads : items.mapM read? = some results) :
    results.length = items.length :=
  (mapM_eq_some_iff.mp reads).length_eq.symm

/-- Every result of a row of successful readings comes from one of them. -/
theorem exists_of_mem_of_mapM
    {read? : α → Option β}
    {items : List α}
    {results : List β}
    (reads : items.mapM read? = some results)
    {result : β}
    (member : result ∈ results) :
    ∃ item ∈ items, read? item = some result :=
  exists_of_mem_of_forall₂ (List.Forall₂.flip (mapM_eq_some_iff.mp reads)) member

/-! ## Sorted lists -/

section Sorted

variable
  (below : α → α → Prop)
  [DecidableRel below]
  (trans : ∀ first second third, below first second → below second third → below first third)
  (total : ∀ first second, below first second ∨ below second first)

include trans total

theorem pairwise_mergeSort_decide (items : List α) :
    (items.mergeSort fun left right => decide (below left right)).Pairwise below := by
  have sorted := @List.pairwise_mergeSort _ (fun left right => decide (below left right))
    (by simpa using trans) (by simpa using total) items
  simpa using sorted

/-- Items of which none need stand before another stay in their order. -/
theorem filter_mergeSort_decide
    {among : α → Bool}
    (alike : ∀ left right, among left = true → among right = true → below left right)
    (items : List α) :
    (items.mergeSort fun left right => decide (below left right)).filter among =
      items.filter among := by
  have sorted : (items.filter among).Pairwise fun left right =>
      decide (below left right) = true := by
    refine List.pairwise_filter.mpr (List.pairwise_of_forall_mem_list ?_)
    intro left _ right _ isLeft isRight
    exact decide_eq_true (alike left right isLeft isRight)
  have kept := (List.sublist_mergeSort (by simpa using trans) (by simpa using total) sorted
    List.filter_sublist).filter among
  simp only [List.filter_filter, Bool.and_self] at kept
  have asMany := ((List.mergeSort_perm items fun left right =>
    decide (below left right)).filter among).length_eq
  exact (kept.eq_of_length asMany.symm).symm

end Sorted

end ThreatIntel
