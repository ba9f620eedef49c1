import DurableRefs.Proofs.Heap.Rooted

/-!
# Locals of freed objects

A caller can keep a local after its object has been freed. No environment has such a local any
more, so the heap can tell. It refuses to make a reference to the object and to delete the local.
It does not refuse to carry the local out of a frame: the frame is closed, and the caller gets the
null local.
-/

namespace DurableRefs.Heap

variable {heap : Heap} {env : EnvId} {f g : Frames} {id : ObjectId} {strength : Strength}
  {operation : Operation Local Handle Int64} {capacity : Option Nat} {steps : List Step}

/-! ### Operations that refuse -/

/-- A reference to a freed object is refused in every form in which it can be asked for. -/
theorem Operation.perform_of_asked?_freed (hlive : heap.isLive id = false)
    (hasked : operation.asked? = some (strength, some id)) (env : EnvId) :
    operation.perform env heap = ⟨.error (.misuse (.danglingLocal id)), heap, []⟩ := by
  rcases Operation.perform_of_asked? hasked env with hform | hform | hform
  · rw [hform]
    exact Action.bind_of_error (makeHandle_of_freed hlive) _
  · rw [hform]
    exact Action.bind_of_error (makeHandle_of_freed hlive) _
  · rw [hform]
    exact Action.bind_of_error (makeReference_of_freed hlive) _

/-- An environment of a heap whose roots are live has no local for a freed object. -/
theorem RootsLive.notMem_locals (hroots : heap.RootsLive)
    (hf : heap.attached.get? env = some f) (hlive : heap.isLive id = false) : id ∉ f.locals := by
  intro hid
  have hroot : heap.isLive id = true := hroots id (.inl ⟨env, f, hf, hid⟩)
  simp [hlive] at hroot

/-- A local for a freed object cannot be deleted, since no frame has one. -/
theorem deleteLocal_of_freed (hroots : heap.RootsLive) (hf : heap.attached.get? env = some f)
    (hlive : heap.isLive id = false) :
    deleteLocal env (some id) heap = ⟨.error (.misuse (.unknownLocal id)), heap, []⟩ := by
  have hunknown : f.remove? id = none :=
    Frames.remove?_eq_none_iff.mpr (hroots.notMem_locals hf hlive)
  exact deleteLocal_of_unknown hf hunknown

/-! ### Frames that are closed -/

/-- The two ways to carry a local out of a frame. -/
def carryRequests (x : Local) : List (Operation Local Handle Int64) :=
  [.popFrame x, .closeFrameWith x]

/-- A request to carry a local out of a frame closes the frame and puts the local into its answer.
-/
theorem perform_of_mem_carryRequests {x : Local} (h : operation ∈ carryRequests x)
    (env : EnvId) :
    operation.perform env = (popFrame env x >>= fun y => pure (.object y)) := by
  simp only [carryRequests, List.mem_cons, List.not_mem_nil, or_false] at h
  rcases h with rfl | rfl <;> rfl

/-- A frame that is closed with a local answers the null local for the null local and for every
local of a freed object, and for no other. -/
theorem popFrame_null_iff (hf : heap.attached.get? env = some f) (hg : f.pop? = some g)
    (x : Local) :
    (popFrame env x heap).result = .ok none ↔
      x = none ∨ ∃ id, x = some id ∧ heap.isLive id = false := by
  cases x with
  | none => simp [popFrame_null hf hg]
  | some id =>
    cases hlive : heap.isLive id with
    | true => simp [popFrame_of_live hf hg hlive, hlive]
    | false => simp [popFrame_of_freed hf hg hlive, hlive]

/-! ### What becomes of a local of a freed object -/

/-- What an environment makes of a local of a freed object. -/
structure Refuses (heap : Heap) (env : EnvId) (f : Frames) (id : ObjectId) : Prop where
  /-- No reference is made to the object, and the heap says so. -/
  asked : ∀ (operation : Operation Local Handle Int64) strength,
    operation.asked? = some (strength, some id) →
      operation.perform env heap = ⟨.error (.misuse (.danglingLocal id)), heap, []⟩
  /-- The local is not deleted, and the heap says so. -/
  deleted : (Operation.deleteLocal (some id)).perform env heap =
    ⟨.error (.misuse (.unknownLocal id)), heap, []⟩
  /-- The local is not carried out of the base frame, which stays. -/
  base : f.pop? = none → ∀ operation ∈ carryRequests (some id),
    operation.perform env heap = ⟨.error (.misuse .frameUnderflow), heap, []⟩
  /-- Any other frame is closed as if the local were null. -/
  carried : ∀ g, f.pop? = some g → ∀ operation ∈ carryRequests (some id),
    operation.perform env heap = ⟨.ok (.object none), heap.withFrames env g, []⟩

/-- After every run, a local of an object that is not live is refused by every operation of an
attached environment that takes it for its object, with one exception: a frame other than the base
frame is closed with it, silently, and the caller is given the null local. So that answer means
that the local was null or that its object had been freed. -/
theorem freed_objects_refused_unless_carried (capacity : Option Nat) (steps : List Step)
    (hf : (after (fresh capacity) steps).attached.get? env = some f) :
    (∀ id, (after (fresh capacity) steps).isLive id = false →
      (after (fresh capacity) steps).Refuses env f id) ∧
    ∀ g, f.pop? = some g → ∀ x, ∀ operation ∈ carryRequests x,
      ((operation.perform env (after (fresh capacity) steps)).result = .ok (.object none) ↔
        x = none ∨ ∃ id, x = some id ∧ (after (fresh capacity) steps).isLive id = false) := by
  have hroots := rootsLive_after capacity steps
  constructor
  · intro id hlive
    refine
      { asked := fun operation strength hasked =>
          Operation.perform_of_asked?_freed hlive hasked env
        deleted := Action.bind_of_error (deleteLocal_of_freed hroots hf hlive) _
        base := ?_
        carried := ?_ }
    · intro hbase operation hoperation
      rw [perform_of_mem_carryRequests hoperation]
      exact Action.bind_of_error (popFrame_of_base hf hbase (some id)) _
    · intro g hg operation hoperation
      rw [perform_of_mem_carryRequests hoperation]
      exact Action.bind_of_ok (popFrame_of_freed hf hg hlive) _
  · intro g hg x operation hoperation
    rw [perform_of_mem_carryRequests hoperation, ← popFrame_null_iff hf hg x,
      Action.result_bind_pure_eq_ok_iff]
    simp only [Answer.object.injEq, exists_eq_right]

/-- A local is kept over a collection that frees its object. No handle is made with it; the frame
that was opened since is closed with it. -/
theorem freed_object_refused_in_open_frame :
    (after (fresh none)
      [.attach, .operate 1 (.alloc "a"), .operate 1 (.deleteLocal (some 1)), .collect,
        .operate 1 (.openFrame 16)]).attached.get? 1 = some ⟨[], [[]]⟩ ∧
    ((Operation.createWeak (some 1)).perform 1 (after (fresh none)
      [.attach, .operate 1 (.alloc "a"), .operate 1 (.deleteLocal (some 1)), .collect,
        .operate 1 (.openFrame 16)])).result = .error (.misuse (.danglingLocal 1)) ∧
    ((Operation.closeFrameWith (some 1)).perform 1 (after (fresh none)
      [.attach, .operate 1 (.alloc "a"), .operate 1 (.deleteLocal (some 1)), .collect,
        .operate 1 (.openFrame 16)])).result = .ok (.object none) := by
  have hf : (after (fresh none)
      [.attach, .operate 1 (.alloc "a"), .operate 1 (.deleteLocal (some 1)), .collect,
        .operate 1 (.openFrame 16)]).attached.get? 1 = some ⟨[], [[]]⟩ := by decide
  obtain ⟨hrefuses, hnull⟩ := freed_objects_refused_unless_carried none
    [.attach, .operate 1 (.alloc "a"), .operate 1 (.deleteLocal (some 1)), .collect,
      .operate 1 (.openFrame 16)] hf
  refine ⟨hf, ?_, ?_⟩
  · rw [(hrefuses 1 (by decide)).asked (.createWeak (some 1)) .weak rfl]
  · have hcarried := hnull ⟨[], []⟩ rfl (some 1) (.closeFrameWith (some 1))
      (by simp [carryRequests])
    exact hcarried.mpr (.inr ⟨1, rfl, by decide⟩)

/-- Not every operation that takes a local for its object refuses a local whose object has been
freed: a frame is closed with it, by the guard that opened it or directly, and nothing is said. -/
theorem freed_object_carried_out_as_null :
    ¬ ∀ steps env f id, (after (fresh none) steps).attached.get? env = some f →
      f.pop? ≠ none → (after (fresh none) steps).isLive id = false →
        ∀ operation ∈ carryRequests (some id), ∃ m : Misuse,
          (operation.perform env (after (fresh none) steps)).result = .error (.misuse m) := by
  intro hcaught
  obtain ⟨m, hm⟩ := hcaught
    [.attach, .operate 1 (.alloc "a"), .operate 1 (.deleteLocal (some 1)), .collect,
      .operate 1 (.openFrame 16)] 1 ⟨[], [[]]⟩ 1 (by decide) (by decide) (by decide)
    (.closeFrameWith (some 1)) (by simp [carryRequests])
  have hclosed : ((Operation.closeFrameWith (some 1)).perform 1 (after (fresh none)
      [.attach, .operate 1 (.alloc "a"), .operate 1 (.deleteLocal (some 1)), .collect,
        .operate 1 (.openFrame 16)])).result = .ok (.object none) := by decide
  rw [hclosed] at hm
  cases hm

end DurableRefs.Heap
