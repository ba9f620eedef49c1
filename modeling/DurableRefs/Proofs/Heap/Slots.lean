import DurableRefs.Proofs.Heap.Numbering

/-!
# Places in the table of references

A heap counts the places taken in its table apart from the rows, takes one before a row goes in
and gives one back after a row has come out. The two never drift apart, so a limited table is
full exactly when it holds as many rows as the limit allows.
-/

namespace DurableRefs.Heap

variable {heap : Heap} {env : EnvId} {id : ObjectId} {capacity : Option Nat} {steps : List Step}

/-- Every reference is either strong or weak. -/
theorem size_eq_countReferences (heap : Heap) :
    heap.references.size = heap.countReferences .strong + heap.countReferences .weak := by
  have hweak : heap.countReferences .weak =
      heap.references.rows.countP fun row => ¬ (decide (row.2.strength = .strong)) = true := by
    apply List.countP_congr
    intro row _
    cases hs : row.2.strength <;> simp [hs]
  rw [hweak]
  exact List.length_eq_countP_add_countP _

/-- A table is full when it has a limit and no place is left below it. -/
theorem isFull_iff : heap.isFull = true ↔ ∃ max, heap.capacity = some max ∧ max ≤ heap.slots := by
  cases hc : heap.capacity <;> simp [isFull, hc]

/-- The limit never changes. -/
theorem capacity_after (capacity : Option Nat) (steps : List Step) :
    (after (fresh capacity) steps).capacity = capacity := by
  induction steps using List.reverseRecOn with
  | nil => exact capacity_fresh capacity
  | append_singleton steps step ih =>
    rw [after_concat]
    rcases (step.change (after (fresh capacity) steps)).references_cases with
      ⟨_, _, _, _, _, hlater⟩ | ⟨_, _, _, _, _, hlater⟩ | ⟨_, _, _, _, hlater⟩
    · rw [hlater]
      exact ih
    · rw [hlater]
      exact ih
    · rw [hlater]
      exact ih

/-- A limit is never exceeded. -/
theorem slots_le_capacity {max : Nat} (steps : List Step) :
    (after (fresh (some max)) steps).slots ≤ max := by
  induction steps using List.reverseRecOn with
  | nil => simp
  | append_singleton steps step ih =>
    rw [after_concat]
    rcases (step.change (after (fresh (some max)) steps)).references_cases with
      ⟨_, _, _, hroom, _, hlater⟩ | ⟨_, _, _, _, _, hlater⟩ | ⟨_, _, hlater, _⟩
    · have hnotFull : ¬ max ≤ (after (fresh (some max)) steps).slots := by
        intro hle
        have hfull := isFull_iff.mpr ⟨max, capacity_after (some max) steps, hle⟩
        simp [hroom] at hfull
      rw [hlater, withReference_slots]
      omega
    · rw [hlater, withoutReference_slots]
      omega
    · rwa [hlater]

/-- As long as the words last, as many places are taken as there are rows. -/
theorem slots_eq_size (hwords : (made (history (fresh capacity) steps)).length < 2 ^ 64 - 1) :
    (after (fresh capacity) steps).slots = (after (fresh capacity) steps).references.size := by
  induction steps using List.reverseRecOn with
  | nil => simp [Table.size, EmptyCollection.emptyCollection, Table.empty]
  | append_singleton steps step ih =>
    have hbefore := Nat.lt_of_le_of_lt (length_made_le_append _ steps [step]) hwords
    have ih := ih hbefore
    rw [after_concat]
    rcases (step.change (after (fresh capacity) steps)).references_cases with
      ⟨strength, id, _, _, _, hlater⟩ | ⟨raw, row, _, hrow, _, hlater⟩ | ⟨_, hrows, hslots, _⟩
    · rw [hlater, withReference_slots, withReference_references,
        Table.size_insert_of_get?_eq_none (get?_nextRaw_eq_none hbefore), ih]
    · have hsize := Table.size_erase_of_get?_eq_some hrow
      rw [hlater, withoutReference_slots, withoutReference_references]
      omega
    · rw [hrows, hslots, ih]

/-- The four ways to ask for a handle to an object. -/
def handleRequests (id : ObjectId) : List (Operation Local Handle Int64) :=
  [.createStrong (some id), .createWeak (some id), .managed (.newRef (some id)),
    .managed (.newWeakRef (some id))]

/-- A request for a handle makes the handle and puts it into the form of its answer. -/
theorem perform_of_mem_handleRequests {operation : Operation Local Handle Int64}
    (h : operation ∈ handleRequests id) (env : EnvId) :
    ∃ (strength : Strength) (form : Option Handle → Answer),
      operation.perform env = (makeHandle env strength (some id) >>= fun h => pure (form h)) := by
  simp only [handleRequests, List.mem_cons, List.not_mem_nil, or_false] at h
  rcases h with rfl | rfl | rfl | rfl <;>
    exact ⟨_, Operation.perform_of_not_isBare rfl rfl env⟩

/-- Asking for a handle to a live object ends the host exactly when the table is full, as long as
the words last, and then nothing is changed. -/
theorem exhausted_iff_isFull {operation : Operation Local Handle Int64}
    (hoperation : operation ∈ handleRequests id) (env : EnvId) (hlive : heap.isLive id = true)
    (hraw : heap.nextRaw ≠ 0) :
    ((operation.perform env heap).result =
        .error (.fatal HostFailure.tableExhausted.message) ↔ heap.isFull = true) ∧
      (heap.isFull = true → (operation.perform env heap).state = heap) := by
  obtain ⟨strength, form, hform⟩ := perform_of_mem_handleRequests hoperation env
  rw [hform, Action.bind_pure_apply]
  cases hfull : heap.isFull with
  | true =>
    rw [makeHandle_of_full hlive hfull]
    simp [Except.map]
  | false =>
    rw [makeHandle_of_room hlive hfull hraw]
    simp [Except.map]

/-- As long as the words last, the places taken are the rows of the table, each strong or weak,
and do not exceed the limit. So asking for a handle to a live object ends the host exactly when
there is a limit and the table holds that many rows, and then nothing is changed. -/
theorem slots_account_for_rows (capacity : Option Nat) (steps : List Step)
    (hwords : (made (history (fresh capacity) steps)).length < 2 ^ 64 - 1) :
    (after (fresh capacity) steps).slots = (after (fresh capacity) steps).references.size ∧
    (after (fresh capacity) steps).references.size =
      (after (fresh capacity) steps).countReferences .strong +
        (after (fresh capacity) steps).countReferences .weak ∧
    (∀ max, capacity = some max → (after (fresh capacity) steps).slots ≤ max) ∧
    ∀ env id, (after (fresh capacity) steps).isLive id = true →
      ∀ operation ∈ handleRequests id,
        ((operation.perform env (after (fresh capacity) steps)).result =
            .error (.fatal HostFailure.tableExhausted.message) ↔
          ∃ max, capacity = some max ∧
            (after (fresh capacity) steps).references.size = max) ∧
        ((operation.perform env (after (fresh capacity) steps)).result =
            .error (.fatal HostFailure.tableExhausted.message) →
          (operation.perform env (after (fresh capacity) steps)).state =
            after (fresh capacity) steps) := by
  have hslots := slots_eq_size hwords
  have hbound : ∀ max, capacity = some max → (after (fresh capacity) steps).slots ≤ max := by
    rintro max rfl
    exact slots_le_capacity steps
  refine ⟨hslots, size_eq_countReferences _, hbound, ?_⟩
  intro env id hlive operation hoperation
  obtain ⟨hfatal, hsame⟩ := exhausted_iff_isFull hoperation env hlive (nextRaw_ne_zero hwords)
  refine ⟨?_, fun h => hsame (hfatal.mp h)⟩
  rw [hfatal, isFull_iff, capacity_after]
  refine exists_congr fun max => and_congr_right fun hcapacity => ?_
  have hle := hbound max hcapacity
  omega

/-- A table with room for one reference is full after one has been made. -/
theorem slots_account_for_rows_of_one :
    (made (history (fresh (some 1))
      [.attach, .operate 1 (.alloc "a"), .operate 1 (.createStrong (some 1))])).length <
        2 ^ 64 - 1 ∧
    (after (fresh (some 1))
      [.attach, .operate 1 (.alloc "a"), .operate 1 (.createStrong (some 1))]).isLive 1 = true ∧
    ((Operation.createWeak (some 1)).perform 1 (after (fresh (some 1))
      [.attach, .operate 1 (.alloc "a"), .operate 1 (.createStrong (some 1))])).result =
        .error (.fatal HostFailure.tableExhausted.message) := by
  refine ⟨by decide, by decide, ?_⟩
  have haccount := slots_account_for_rows (some 1)
    [.attach, .operate 1 (.alloc "a"), .operate 1 (.createStrong (some 1))] (by decide)
  refine ((haccount.2.2.2 1 1 (by decide) _ (by simp [handleRequests])).1).mpr ?_
  exact ⟨1, rfl, by decide⟩

end DurableRefs.Heap
