import DurableRefs.Heap.Operation

/-!
# Runs of a heap

Environments come and go, operations are performed in them, and the heap is collected. Any list
of such steps is a run: a step that fails leaves the heap as it left it, and the run goes on.
The history of a run keeps every step together with the heap that it found.
-/

namespace DurableRefs.Heap

/-- A heap without objects, references and environments, with or without a limit on the number of
its references. -/
def fresh : Option Nat → Heap
  | none => {}
  | some max => withCapacity max

@[simp] theorem objects_fresh (capacity : Option Nat) : (fresh capacity).objects = {} := by
  cases capacity <;> rfl

@[simp] theorem references_fresh (capacity : Option Nat) : (fresh capacity).references = {} := by
  cases capacity <;> rfl

@[simp] theorem attached_fresh (capacity : Option Nat) : (fresh capacity).attached = {} := by
  cases capacity <;> rfl

@[simp] theorem capacity_fresh (capacity : Option Nat) : (fresh capacity).capacity = capacity := by
  cases capacity <;> rfl

@[simp] theorem slots_fresh (capacity : Option Nat) : (fresh capacity).slots = 0 := by
  cases capacity <;> rfl

@[simp] theorem nextObject_fresh (capacity : Option Nat) : (fresh capacity).nextObject = 1 := by
  cases capacity <;> rfl

@[simp] theorem nextRaw_fresh (capacity : Option Nat) : (fresh capacity).nextRaw = 1 := by
  cases capacity <;> rfl

/-- A handle to the first reference that is made on a heap without objects, references and
environments. -/
def firstHandle (strength : Strength) : Handle := ⟨strength, 1, by decide⟩

/-- One thing that happens to a heap. -/
inductive Step where
  /-- An environment is attached. -/
  | attach
  /-- An environment is detached. -/
  | detach (env : EnvId)
  /-- The heap is collected. -/
  | collect
  /-- An operation is performed in an environment. -/
  | operate (env : EnvId) (operation : Operation Local Handle Int64)
  deriving DecidableEq

/-- What a step answers. -/
inductive Reply where
  /-- The number of a new environment. -/
  | attached (env : EnvId)
  /-- Nothing. -/
  | detached
  /-- The number of freed objects. -/
  | freed (count : Nat)
  /-- The answer of an operation. -/
  | answer (a : Answer)
  deriving DecidableEq

/-- Let a step happen. -/
def Step.perform : Step → Task Reply
  | attach => return .attached (← Heap.attach)
  | detach env => do
    Heap.detach env
    return .detached
  | collect => return .freed (← Heap.collect)
  | operate env operation => return .answer (← operation.perform env)

/-- The heap after a run. -/
def after (heap : Heap) : List Step → Heap
  | [] => heap
  | step :: rest => after (step.perform heap).state rest

/-- A step of a run with the heap that it found. -/
structure Moment where
  /-- The heap before the step. -/
  heap : Heap
  /-- The step. -/
  step : Step

/-- The steps of a run, each with the heap that it found. -/
def history (heap : Heap) : List Step → List Moment
  | [] => []
  | step :: rest => ⟨heap, step⟩ :: history (step.perform heap).state rest

@[simp] theorem after_nil (heap : Heap) : after heap [] = heap := rfl

@[simp] theorem after_cons (heap : Heap) (step : Step) (rest : List Step) :
    after heap (step :: rest) = after (step.perform heap).state rest := rfl

@[simp] theorem history_nil (heap : Heap) : history heap [] = [] := rfl

@[simp] theorem history_cons (heap : Heap) (step : Step) (rest : List Step) :
    history heap (step :: rest) = ⟨heap, step⟩ :: history (step.perform heap).state rest := rfl

/-- A run goes on from the heap that its first part left. -/
@[simp] theorem after_append (heap : Heap) (first rest : List Step) :
    after heap (first ++ rest) = after (after heap first) rest := by
  induction first generalizing heap with
  | nil => rfl
  | cons step first ih => exact ih _

/-- The history of a run goes on with the history of its second part. -/
@[simp] theorem history_append (heap : Heap) (first rest : List Step) :
    history heap (first ++ rest) = history heap first ++ history (after heap first) rest := by
  induction first generalizing heap with
  | nil => rfl
  | cons step first ih => simp [ih]

/-- The moments of a run are its steps, each with the heap that the steps before it left. -/
theorem mem_history_iff {start : Heap} {steps : List Step} {m : Moment} :
    m ∈ history start steps ↔
      ∃ before later, steps = before ++ m.step :: later ∧ m.heap = after start before := by
  induction steps generalizing start with
  | nil => simp
  | cons step rest ih =>
    rw [history_cons, List.mem_cons, ih]
    constructor
    · rintro (rfl | ⟨before, later, rfl, hheap⟩)
      · exact ⟨[], rest, rfl, rfl⟩
      · exact ⟨step :: before, later, rfl, hheap⟩
    · rintro ⟨_ | ⟨first, before⟩, later, hsteps, hheap⟩
      · obtain ⟨rfl, -⟩ := List.cons.inj hsteps
        exact .inl (by rw [← after_nil start, ← hheap])
      · obtain ⟨rfl, hrest⟩ := List.cons.inj hsteps
        exact .inr ⟨before, later, hrest, hheap⟩

/-- The last step of a run acts on the heap that the steps before it left. -/
theorem after_concat (heap : Heap) (steps : List Step) (step : Step) :
    after heap (steps ++ [step]) = (step.perform (after heap steps)).state := by simp

/-! ### What a step is asked for -/

/-- The label of the object that an operation makes. -/
def Operation.label? {L H W : Type} : Operation L H W → Option String
  | .alloc text => some text
  | _ => none

/-- The local that an operation makes a reference to, and the class of the reference. -/
def Operation.asked? {L H W : Type} : Operation L H W → Option (Strength × L)
  | .createStrong x => some (.strong, x)
  | .createWeak x => some (.weak, x)
  | .managed (.newRef x) => some (.strong, x)
  | .managed (.newWeakRef x) => some (.weak, x)
  | .newStrong x => some (.strong, x)
  | .newWeak x => some (.weak, x)
  | _ => none

/-- The word of the reference that an operation deletes, if there is one. -/
def Operation.deleted? {L : Type} : Operation L Handle Int64 → Option Int64
  | .release h => some h.raw
  | .managed (.unref raw) => some raw
  | .deleteStrong raw => some raw
  | .deleteWeak raw => some raw
  | _ => none

/-- The word of the reference that a step deletes, if there is one. -/
def Step.deleted? : Step → Option Int64
  | .operate _ operation => operation.deleted?
  | _ => none

/-- Whether an operation makes or deletes a reference and nothing else. -/
def Operation.isBare {L H W : Type} : Operation L H W → Bool
  | .newStrong _ | .newWeak _ | .deleteStrong _ | .deleteWeak _ => true
  | _ => false

/-- Whether a step makes or deletes a reference and nothing else. -/
def Step.isBare : Step → Bool
  | .operate _ operation => operation.isBare
  | _ => false

/-- The word that an answer gives out. -/
def Answer.word? : Answer → Option Int64
  | .handle (some h) => some h.raw
  | .word raw => some raw
  | _ => none

namespace Moment

/-- What the step left behind. -/
def outcome (m : Moment) : Run Heap Log.Event Fault Reply := m.step.perform m.heap

/-- The object that the step made, with its label. -/
def allocated? (m : Moment) : Option (ObjectId × String) :=
  match m.step with
  | .operate _ operation => operation.label?.map fun label => (m.heap.nextObject, label)
  | _ => none

/-- The handle that the step gave out, as a handle or as a word, with the object it was asked to
refer to. -/
def made? (m : Moment) : Option (Handle × ObjectId) :=
  match m.step, m.outcome.result with
  | .operate _ operation, .ok (.answer a) => do
    let (strength, x) ← operation.asked?
    let id ← x
    let raw ← a.word?
    let h ← Handle.ofRaw? raw strength
    return (h, id)
  | _, _ => none

end Moment

/-- The objects that were made in a run, oldest first. -/
def allocated (moments : List Moment) : List (ObjectId × String) :=
  moments.filterMap Moment.allocated?

/-- The handles that were given out in a run, oldest first. -/
def made (moments : List Moment) : List (Handle × ObjectId) :=
  moments.filterMap Moment.made?

@[simp] theorem allocated_nil : allocated [] = [] := rfl

@[simp] theorem made_nil : made [] = [] := rfl

@[simp] theorem allocated_append (first rest : List Moment) :
    allocated (first ++ rest) = allocated first ++ allocated rest :=
  List.filterMap_append

@[simp] theorem made_append (first rest : List Moment) :
    made (first ++ rest) = made first ++ made rest :=
  List.filterMap_append

/-- What was made in a run was made in the run as it went on. -/
theorem mem_allocated_append {start : Heap} {first : List Step} {entry : ObjectId × String}
    (h : entry ∈ allocated (history start first)) (rest : List Step) :
    entry ∈ allocated (history start (first ++ rest)) := by
  rw [history_append, allocated_append]
  exact List.mem_append_left _ h

/-- What was given out in a run was given out in the run as it went on. -/
theorem mem_made_append {start : Heap} {first : List Step} {entry : Handle × ObjectId}
    (h : entry ∈ made (history start first)) (rest : List Step) :
    entry ∈ made (history start (first ++ rest)) := by
  rw [history_append, made_append]
  exact List.mem_append_left _ h

/-- A run makes no fewer objects as it goes on. -/
theorem length_allocated_le_append (start : Heap) (first rest : List Step) :
    (allocated (history start first)).length ≤
      (allocated (history start (first ++ rest))).length := by
  rw [history_append, allocated_append, List.length_append]
  exact Nat.le_add_right _ _

/-- A run gives out no fewer handles as it goes on. -/
theorem length_made_le_append (start : Heap) (first rest : List Step) :
    (made (history start first)).length ≤ (made (history start (first ++ rest))).length := by
  rw [history_append, made_append, List.length_append]
  exact Nat.le_add_right _ _

/-- The objects made in a run and one more step. -/
theorem allocated_concat (start : Heap) (steps : List Step) (step : Step) :
    allocated (history start (steps ++ [step])) =
      allocated (history start steps) ++
        (⟨after start steps, step⟩ : Moment).allocated?.toList := by
  cases h : (⟨after start steps, step⟩ : Moment).allocated? <;> simp [allocated, h]

/-- The handles given out in a run and one more step. -/
theorem made_concat (start : Heap) (steps : List Step) (step : Step) :
    made (history start (steps ++ [step])) =
      made (history start steps) ++ (⟨after start steps, step⟩ : Moment).made?.toList := by
  cases h : (⟨after start steps, step⟩ : Moment).made? <;> simp [made, h]

end DurableRefs.Heap
