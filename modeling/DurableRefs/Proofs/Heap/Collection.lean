import DurableRefs.Proofs.Heap.Numbering
import DurableRefs.Proofs.Heap.Rooted

/-!
# Collections

A collection frees the objects that have no root, and no others. It answers how many they are, and
leaves everything else in the heap alone, the references of freed objects included. As nothing that
it changes is a root, a second collection finds nothing to free. Nothing but a collection ever frees
an object.
-/

namespace DurableRefs

/-- The rows that pass a test and those that do not are all rows. -/
theorem Table.size_filter_add_count {κ ν : Type} (t : Table κ ν) (p : κ → ν → Bool) :
    (t.filter p).size + t.count (fun k v => !p k v) = t.size := by
  have hall := List.length_eq_countP_add_countP (fun row : κ × ν => p row.1 row.2) (l := t.rows)
  rw [Table.size, Table.size, Table.filter, Table.count, ← List.countP_eq_length_filter, hall]
  simp only [Bool.not_eq_true, Bool.decide_eq_false]

namespace Heap

variable {heap : Heap} {id : ObjectId} {step : Step} {steps : List Step}

/-! ### What is freed -/

/-- The number of objects without a root. -/
def countUnrooted (heap : Heap) : Nat :=
  heap.objects.count fun id _ => !decide (heap.IsRooted id)

/-- To look for an object among the roots is to ask whether it is rooted. -/
theorem contains_roots (heap : Heap) (id : ObjectId) :
    heap.roots.contains id = decide (heap.IsRooted id) := by
  rw [Bool.eq_iff_iff, List.contains_iff_mem, mem_roots_iff, decide_eq_true_eq]

/-- The objects left by a collection and those without a root are all objects. -/
theorem size_swept_add_countUnrooted (heap : Heap) :
    heap.swept.objects.size + heap.countUnrooted = heap.objects.size := by
  have hsplit := heap.objects.size_filter_add_count fun id _ => heap.roots.contains id
  have hcount : heap.countUnrooted = heap.objects.count fun id _ => !heap.roots.contains id := by
    simp only [countUnrooted, contains_roots]
  rw [hcount]
  exact hsplit

/-- A collection frees the objects without a root and tells how many there were. -/
theorem collect_eq (heap : Heap) :
    collect heap =
      ⟨.ok heap.countUnrooted, heap.swept,
        [.collected heap.countUnrooted heap.swept.objects.size]⟩ := by
  have hsize := size_swept_add_countUnrooted heap
  have hfreed : heap.objects.size - heap.swept.objects.size = heap.countUnrooted := by omega
  simp [collect, hfreed]

/-- The roots are not touched by a collection. -/
theorem isRooted_swept_iff : heap.swept.IsRooted id ↔ heap.IsRooted id := Iff.rfl

/-- After a collection every object has a root. -/
theorem countUnrooted_swept (heap : Heap) : heap.swept.countUnrooted = 0 := by
  rw [countUnrooted, Table.count, List.countP_eq_zero]
  intro row hrow
  have hlabel : heap.swept.objects.get? row.1 = some row.2 := Table.get?_eq_some_iff.mpr hrow
  have hrooted := (isLive_swept_iff.mp (isLive_iff.mpr ⟨row.2, hlabel⟩)).2
  simp [isRooted_swept_iff, hrooted]

/-! ### What is not -/

/-- A step that is no collection frees no object, whether or not it fails. -/
theorem isLive_perform_of_ne_collect (hstep : step ≠ .collect) (hlive : heap.isLive id = true) :
    (step.perform heap).state.isLive id = true := by
  obtain ⟨old, hold⟩ := isLive_iff.mp hlive
  rcases (step.change heap).objects_cases with
    ⟨label, -, hlater, -⟩ | ⟨-, -, ⟨hcollect, -⟩ | ⟨-, hlater⟩⟩
  · rw [isLive_iff, hlater, Table.get?_insert]
    split
    · exact ⟨label, rfl⟩
    · exact ⟨old, hold⟩
  · exact absurd hcollect hstep
  · rw [isLive_iff, hlater]
    exact ⟨old, hold⟩

/-- A run without a collection frees no object, whatever fails in it. -/
theorem isLive_after_of_notMem_collect (hsteps : Step.collect ∉ steps)
    (hlive : heap.isLive id = true) : (after heap steps).isLive id = true := by
  induction steps generalizing heap with
  | nil => exact hlive
  | cons step rest ih =>
    rw [List.mem_cons, not_or] at hsteps
    rw [after_cons]
    apply ih hsteps.2
    exact isLive_perform_of_ne_collect (Ne.symm hsteps.1) hlive

/-! ### Collections -/

/-- What a collection makes of a heap, and what it answers. -/
structure Collects (heap : Heap) (freed : Nat) (later : Heap) : Prop where
  /-- The objects without a root are gone. The others are there, with their labels. -/
  objects : ∀ id, later.objects.get? id =
    if heap.IsRooted id then heap.objects.get? id else none
  /-- The answer is the number of the objects that are gone. -/
  freed_eq : freed = heap.objects.count fun id _ => !decide (heap.IsRooted id)
  /-- The objects that are gone and those that are left are all objects, so the difference of the
  two sizes is never below zero. -/
  account : freed + later.objects.size = heap.objects.size
  /-- The collection has been counted. -/
  collections : later.collections = heap.collections + 1
  /-- All else is as it was: the references, those of freed objects included, their places, the
  frames, and the next numbers. -/
  rest : later = { heap with objects := later.objects, collections := later.collections }

/-- A collection frees exactly the objects that neither a local in a frame of an attached
environment nor a strong reference names, and changes nothing else. Another collection right after
it frees nothing. No run without a collection frees an object. -/
theorem collection_frees_exactly_unrooted (heap : Heap) :
    (∃ freed later notes,
      Step.collect.perform heap = ⟨.ok (.freed freed), later, notes⟩ ∧
        heap.Collects freed later ∧
        (Step.collect.perform later).result = .ok (.freed 0)) ∧
    ∀ steps, Step.collect ∉ steps → ∀ id, heap.isLive id = true →
      (after heap steps).isLive id = true := by
  have hperform : ∀ heap : Heap, Step.collect.perform heap =
      ⟨.ok (.freed heap.countUnrooted), heap.swept,
        [.collected heap.countUnrooted heap.swept.objects.size]⟩ := by
    intro heap
    exact Action.bind_of_ok (collect_eq heap) _
  constructor
  · refine ⟨heap.countUnrooted, heap.swept, _, hperform heap, ?_, ?_⟩
    · refine
        { objects := ?_
          freed_eq := rfl
          account := ?_
          collections := rfl
          rest := rfl }
      · intro id
        rw [get?_objects_swept, contains_roots]
        by_cases hrooted : heap.IsRooted id
        · cases heap.objects.get? id <;> simp [hrooted, Option.filter]
        · cases heap.objects.get? id <;> simp [hrooted, Option.filter]
      · rw [Nat.add_comm]
        exact size_swept_add_countUnrooted heap
    · rw [hperform, countUnrooted_swept]
  · intro steps hsteps id hlive
    exact isLive_after_of_notMem_collect hsteps hlive

/-- One of four objects has no root: a weak reference is all there is to it. A collection frees this
object, and a second one none. The local in the outer frame keeps its object when the inner frame is
closed and the environment detached, until there is a collection. -/
theorem weak_referent_collected_alone :
    (∃ freed later notes,
      Step.collect.perform (after (fresh none)
        [.attach, .attach, .operate 1 (.alloc "a"), .operate 1 (.openFrame 16),
          .operate 1 (.alloc "b"), .operate 2 (.alloc "c"), .operate 2 (.createStrong (some 3)),
          .operate 2 (.deleteLocal (some 3)), .operate 2 (.alloc "d"),
          .operate 2 (.createWeak (some 4)), .operate 2 (.deleteLocal (some 4))]) =
        ⟨.ok (.freed freed), later, notes⟩ ∧ freed = 1 ∧ later.isLive 4 = false ∧
        (Step.collect.perform later).result = .ok (.freed 0)) ∧
    Step.collect ∉ [.operate 1 .closeFrame, .detach 1] ∧
    (after (after (fresh none) [.attach, .operate 1 (.alloc "a"), .operate 1 (.openFrame 16)])
      [.operate 1 .closeFrame, .detach 1]).isLive 1 = true := by
  refine ⟨?_, by decide, ?_⟩
  · obtain ⟨⟨freed, later, notes, hperform, hcollects, hagain⟩, -⟩ :=
      collection_frees_exactly_unrooted (after (fresh none)
        [.attach, .attach, .operate 1 (.alloc "a"), .operate 1 (.openFrame 16),
          .operate 1 (.alloc "b"), .operate 2 (.alloc "c"), .operate 2 (.createStrong (some 3)),
          .operate 2 (.deleteLocal (some 3)), .operate 2 (.alloc "d"),
          .operate 2 (.createWeak (some 4)), .operate 2 (.deleteLocal (some 4))])
    refine ⟨freed, later, notes, hperform, ?_, ?_, hagain⟩
    · rw [hcollects.freed_eq]
      decide
    · rw [isLive, Table.contains, hcollects.objects]
      decide
  · exact (collection_frees_exactly_unrooted
      (after (fresh none) [.attach, .operate 1 (.alloc "a"), .operate 1 (.openFrame 16)])).2
        [.operate 1 .closeFrame, .detach 1] (by decide) 1 (by decide)

end Heap

end DurableRefs
